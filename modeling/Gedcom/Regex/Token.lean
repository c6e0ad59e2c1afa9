import Gedcom.Regex.Assertion
import Gedcom.Text.Blank
import Gedcom.Text.CaseFold
import Gedcom.Text.Property

/-!
# The tokens of a regular expression

A regular expression is written as characters, sets in brackets, escapes,
assertions, groups, alternation bars and repetitions.  Inline flags change how
what follows is read, up to the end of the group in which they stand:

* `i` without regard to case, `m` anchors at lines, `s` dot matches newlines,
  `x` blanks and comments are skipped, `U` repetitions are reluctant,
  `R` lines may end in a carriage return, `u` classes of characters hold more
  than ASCII characters, as they do unless this flag is taken back.

Tokens hold sets of characters with the flags already worked in, so that the
tree of an expression can be built from them without looking at flags again.
Reading fails on whatever is no token; `Token.ofText?` gives the tokens of a
whole expression.
-/
namespace Gedcom.Regex

/-- How an expression is read at some place. -/
structure Flags where
  ignoreCase : Bool := false
  multiLine : Bool := false
  dotAll : Bool := false
  verbose : Bool := false
  reluctant : Bool := false
  crlf : Bool := false
  unicode : Bool := true
deriving DecidableEq, Repr

namespace Flags

/-- Flags with one of them set or unset. -/
def with? (f : Flags) (c : Char) (on : Bool) : Option Flags :=
  match c with
  | 'i' => some { f with ignoreCase := on }
  | 'm' => some { f with multiLine := on }
  | 's' => some { f with dotAll := on }
  | 'x' => some { f with verbose := on }
  | 'U' => some { f with reluctant := on }
  | 'R' => some { f with crlf := on }
  | 'u' => some { f with unicode := on }
  | _ => none

/-- A set of characters with case ignored if the flags say so. -/
def fold (f : Flags) (s : CharSet) : CharSet :=
  if !f.ignoreCase then s
  else if f.unicode then Text.foldCase s
  else Text.foldAsciiCase s

/-- A set, complemented if asked, that may stand as a class: one of ASCII
characters if the flags say so. -/
def class? (f : Flags) (negated : Bool) (s : CharSet) : Option CharSet :=
  let s := if negated then s.complement else s
  if f.unicode || s.isAscii then some s else none

/-- What the flags leave of a class that is not restricted itself. -/
def restrict (f : Flags) (s : CharSet) : CharSet :=
  if f.unicode then s else s.inter CharSet.ascii

/-- The characters of words. -/
def words (f : Flags) : CharSet := f.restrict Text.wordChars

end Flags

/-- The tokens of a regular expression. -/
inductive Token
  /-- One character of a set, or one byte, and how deeply brackets are nested in
  the set. -/
  | chars (set : CharSet) (bytes : Bool) (depth : Nat)
  /-- An assertion. -/
  | look (a : Assertion)
  /-- A change of flags, which stands for nothing that could be repeated. -/
  | flags
  /-- The beginning of a group whose text is kept, perhaps under a name. -/
  | openGroup (name : Option String)
  /-- The beginning of a group whose text is not kept. -/
  | openPlain
  /-- The end of a group. -/
  | close
  /-- A bar between branches. -/
  | bar
  /-- A repetition of what stands before it. -/
  | times (min : Nat) (max : Option Nat) (greedy : Bool)
deriving DecidableEq, Repr

namespace Token

/-- Leave out blanks and comments.  A comment runs from `#` to the end of its
line. -/
def skipIgnored : (comment : Bool) → Text → Text
  | _, [] => []
  | true, c :: t => skipIgnored (c != '\n') t
  | false, c :: t =>
    if Text.isBlank c then skipIgnored false t
    else if c = '#' then skipIgnored true t
    else c :: t

/-- Leave out what the flags say is to be ignored. -/
def skip (f : Flags) (t : Text) : Text := if f.verbose then skipIgnored false t else t

/-- At most `n` characters that satisfy `p`, with ignored text between them left
out, and what follows them. -/
def takeSpaced (f : Flags) (p : Char → Bool) : (n : Nat) → Text → Text × Text
  | 0, t => ([], t)
  | _ + 1, [] => ([], [])
  | n + 1, c :: t =>
    if p c then
      let (cs, rest) := takeSpaced f p n (skip f t)
      (c :: cs, rest)
    else ([], c :: t)

/-! ### Numbers -/

/-- The greatest count of a repetition. -/
def maxCount : Nat := UInt32.size - 1

/-- A decimal count, with blanks around it. -/
def takeCount? (f : Flags) (t : Text) : Option Nat × Text :=
  let (digits, rest) := takeSpaced f Char.isDigit t.length (t.dropWhile Text.isBlank)
  let count := Text.digitsValue digits
  (if digits.isEmpty || maxCount < count then none else some count,
    skip f (rest.dropWhile Text.isBlank))

/-- Whether a character is a hexadecimal digit. -/
def isHex (c : Char) : Bool :=
  c.isDigit || 'a' ≤ c && c ≤ 'f' || 'A' ≤ c && c ≤ 'F'

/-- The value of a hexadecimal digit. -/
def hexValue (c : Char) : Nat :=
  if c.isDigit then c.toNat - 48 else if 'a' ≤ c then c.toNat - 87 else c.toNat - 55

/-- The character with a hexadecimal number. -/
def charOfHex? (digits : Text) : Option Char :=
  let n := digits.foldl (fun n c => 16 * n + hexValue c) 0
  if digits.isEmpty then none
  else if h : n.isValidChar then some (Char.ofNatAux n h) else none

/-! ### Properties -/

/-- What stands on both sides of `!=` in a text. -/
def cutUnequal? : Text → Option (Text × Text)
  | '!' :: '=' :: t => some ([], t)
  | c :: t => (cutUnequal? t).map fun (a, b) => (c :: a, b)
  | [] => none

/-- The characters that the text between braces asks for: a name, or a property
and its value.  The sign between these has no say in what is meant. -/
def propertyChars? (t : Text) : Option CharSet :=
  match cutUnequal? t <|> Text.cut? (· == ':') t <|> Text.cut? (· == '=') t with
  | some (property, value) => Text.valuedChars? property value
  | none => Text.namedChars? t

/-! ### Escapes -/

/-- What one escape or one plain character stands for. -/
inductive Atom
  | literal (c : Char)
  | set (s : CharSet)
  | look (a : Assertion)

/-- The characters that have a meaning of their own. -/
def metaChars : List Char :=
  ['\\', '.', '+', '*', '?', '(', ')', '|', '[', ']', '{', '}', '^', '$', '#', '&', '-', '~']

/-- The character written by a hexadecimal escape with `n` digits, or with any
number of digits in braces.  Two digits write a byte, which is a character by
itself only if it is an ASCII character or bytes do not matter. -/
def takeHex? (f : Flags) (n : Nat) (t : Text) : Option (Atom × Text) :=
  match skip f t with
  | [] => none
  | '{' :: t =>
    let (digits, rest) := takeSpaced f isHex t.length (skip f t)
    match rest with
    | '}' :: rest => (charOfHex? digits).map fun c => (.literal c, skip f rest)
    | _ => none
  | t =>
    let (digits, rest) := takeSpaced f isHex n t
    if digits.length = n then
      match charOfHex? digits with
      | some c => if n = 2 && !f.unicode && 0x80 ≤ c.toNat then none else some (.literal c, rest)
      | none => none
    else none

/-- The assertion that follows `\b` in braces.  What is in braces but does not
look like a name is left to be read as a count. -/
def takeEdge? (f : Flags) (t : Text) : Option (Atom × Text) :=
  match t with
  | '{' :: r =>
    let isEdgeChar := fun c : Char => c.isAlpha || c == '-'
    match skip f r with
    | [] => none
    | c :: r' =>
      if !isEdgeChar c then some (.look (.wordEdge f.words), t)
      else
        let (name, rest) := takeSpaced f isEdgeChar (r'.length + 1) (c :: r')
        match rest with
        | '}' :: rest =>
          if name == "start".toList then some (.look (.wordStart f.words), rest)
          else if name == "end".toList then some (.look (.wordEnd f.words), rest)
          else if name == "start-half".toList then some (.look (.noWordBefore f.words), rest)
          else if name == "end-half".toList then some (.look (.noWordAfter f.words), rest)
          else none
        | _ => none
  | _ => some (.look (.wordEdge f.words), t)

/-- The class with a property that is named after `\\p`, by one letter or in
braces, where a value of a property may be asked for. -/
def takeProperty? (f : Flags) (negated : Bool) (t : Text) : Option (Atom × Text) :=
  let ofChars := fun (s : Option CharSet) (rest : Text) =>
    if f.unicode then (s.bind fun s => f.class? negated (f.fold s)).map fun s => (.set s, rest)
    else none
  match skip f t with
  | [] | '\\' :: _ => none
  | '{' :: r =>
    let (name, rest) := takeSpaced f (· != '}') r.length (skip f r)
    match rest with
    | [] => none
    | _ :: rest => ofChars (propertyChars? name) rest
  | c :: rest => ofChars (Text.namedChars? [c]) rest

/-- What one of the letters for digits, blanks and words stands for. -/
def takeClass? (f : Flags) (negated : Bool) (s : CharSet) (t : Text) : Option (Atom × Text) :=
  (f.class? negated (f.restrict s)).map fun s => (.set s, t)

/-- What is written after a backslash. -/
def takeEscape? (f : Flags) : Text → Option (Atom × Text)
  | [] => none
  | c :: t =>
    if metaChars.contains c then some (.literal c, t)
    else match c with
      | 'x' => takeHex? f 2 t
      | 'u' => takeHex? f 4 t
      | 'U' => takeHex? f 8 t
      | 'p' => takeProperty? f false t
      | 'P' => takeProperty? f true t
      | 'd' => takeClass? f false Text.digitChars t
      | 'D' => takeClass? f true Text.digitChars t
      | 's' => takeClass? f false Text.blankChars t
      | 'S' => takeClass? f true Text.blankChars t
      | 'w' => takeClass? f false Text.wordChars t
      | 'W' => takeClass? f true Text.wordChars t
      | 'a' => some (.literal '\x07', t)
      | 'f' => some (.literal '\x0c', t)
      | 't' => some (.literal '\t', t)
      | 'n' => some (.literal '\n', t)
      | 'r' => some (.literal '\r', t)
      | 'v' => some (.literal '\x0b', t)
      | 'A' => some (.look .textStart, t)
      | 'z' => some (.look .textEnd, t)
      | 'b' => takeEdge? f t
      | 'B' => some (.look (.noWordEdge f.words), t)
      | '<' => some (.look (.wordStart f.words), t)
      | '>' => some (.look (.wordEnd f.words), t)
      | c => if c.toNat < 128 && !c.isAlphanum then some (.literal c, t) else none

/-- One plain character, or an escape. -/
def takeAtom? (f : Flags) : Text → Option (Atom × Text)
  | [] => none
  | '\\' :: t => takeEscape? f t
  | c :: t => some (.literal c, t)

/-! ### Sets in brackets -/

/-- The sets that have a name, as in `[:alpha:]`. -/
def namedSet? (name : String) : Option CharSet :=
  match name with
  | "alnum" => some ⟨[(0x30, 0x39), (0x41, 0x5a), (0x61, 0x7a)]⟩
  | "alpha" => some ⟨[(0x41, 0x5a), (0x61, 0x7a)]⟩
  | "ascii" => some ⟨[(0x0, 0x7f)]⟩
  | "blank" => some ⟨[(0x9, 0x9), (0x20, 0x20)]⟩
  | "cntrl" => some ⟨[(0x0, 0x1f), (0x7f, 0x7f)]⟩
  | "digit" => some ⟨[(0x30, 0x39)]⟩
  | "graph" => some ⟨[(0x21, 0x7e)]⟩
  | "lower" => some ⟨[(0x61, 0x7a)]⟩
  | "print" => some ⟨[(0x20, 0x7e)]⟩
  | "punct" => some ⟨[(0x21, 0x2f), (0x3a, 0x40), (0x5b, 0x60), (0x7b, 0x7e)]⟩
  | "space" => some ⟨[(0x9, 0xd), (0x20, 0x20)]⟩
  | "upper" => some ⟨[(0x41, 0x5a)]⟩
  | "word" => some ⟨[(0x30, 0x39), (0x41, 0x5a), (0x5f, 0x5f), (0x61, 0x7a)]⟩
  | "xdigit" => some ⟨[(0x30, 0x39), (0x41, 0x46), (0x61, 0x66)]⟩
  | _ => none

/-- A named set `[:name:]` or `[:^name:]`, after its opening bracket, and whether
it is negated. -/
def takeNamed? : Text → Option (CharSet × Bool × Text)
  | ':' :: t =>
    let (negated, t) := match t with
      | '^' :: t => (true, t)
      | t => (false, t)
    match t.dropWhile (· != ':') with
    | ':' :: ']' :: rest =>
      (namedSet? (String.ofList (t.takeWhile (· != ':')))).map fun s => (s, negated, rest)
    | _ => none
  | _ => none

/-- The operations between sets. -/
inductive SetOp
  | inter
  | diff
  | symmDiff

/-- A set with the depth to which brackets are nested in it. -/
structure NestedSet where
  set : CharSet := CharSet.empty
  depth : Nat := 0

/-- The set that an operation makes of two sets. -/
def SetOp.apply (f : Flags) (op : SetOp) (a b : NestedSet) : NestedSet :=
  let set := match op with
    | inter => (f.fold a.set).inter (f.fold b.set)
    | diff => (f.fold a.set).diff (f.fold b.set)
    | symmDiff => (f.fold a.set).symmDiff (f.fold b.set)
  ⟨set, max a.depth b.depth + 1⟩

/-- A bracket that is open: whether it is negated, what stands to the left of its
last operation, and the items since. -/
structure Bracket where
  negated : Bool
  left : Option (SetOp × NestedSet) := none
  set : CharSet := CharSet.empty
  count : Nat := 0
  depth : Nat := 0

namespace Bracket

/-- A bracket with one more item. -/
def add (b : Bracket) (item : NestedSet) : Bracket :=
  { b with set := item.set.union b.set, count := b.count + 1, depth := max item.depth b.depth }

/-- The set of the items so far, with the last operation carried out. -/
def value (f : Flags) (b : Bracket) : NestedSet :=
  let items : NestedSet := ⟨b.set, if 2 ≤ b.count then b.depth + 1 else b.depth⟩
  match b.left with
  | some (op, left) => op.apply f left items
  | none => items

/-- A bracket after an operation sign. -/
def operate (f : Flags) (b : Bracket) (op : SetOp) : Bracket :=
  { negated := b.negated, left := some (op, b.value f) }

/-- The set of a closed bracket. -/
def close? (f : Flags) (b : Bracket) : Option NestedSet :=
  (f.class? b.negated (f.fold (b.value f).set)).map fun s => ⟨s, (b.value f).depth + 1⟩

end Bracket

/-- The beginning of a bracket, after `[`: a circumflex negates, and dashes and
one closing bracket stand for themselves there. -/
def takeBracket? (f : Flags) (t : Text) : Option (Bracket × Text) :=
  let (negated, t) := match skip f t with
    | '^' :: t => (true, skip f t)
    | t => (false, t)
  let (dashes, t) := takeSpaced f (· == '-') t.length t
  let b : Bracket :=
    dashes.foldl (fun b c => b.add ⟨CharSet.single c, 0⟩) { negated }
  match t with
  | [] => none
  | ']' :: r =>
    if dashes.isEmpty then
      if (skip f r).isEmpty then none else some (b.add ⟨CharSet.single ']', 0⟩, skip f r)
    else some (b, t)
  | _ => some (b, t)

/-- The next character that counts, as far as a dash in a set is concerned. -/
def peek (f : Flags) (t : Text) : Option Char :=
  if f.verbose then
    match t.dropWhile Text.isBlank with
    | '#' :: t => (t.dropWhile Text.isBlank).head?
    | t => t.head?
  else t.head?

/-- One item of a set: a character, an escape that stands for characters, or a
range. -/
def takeItem? (f : Flags) (t : Text) : Option (CharSet × Text) := do
  let (first, t) ← takeAtom? f t
  match skip f t with
  | [] => none
  | '-' :: r =>
    if peek f r = some ']' || peek f r = some '-' then
      match first with
      | .literal c => some (CharSet.single c, '-' :: r)
      | .set s => some (s, '-' :: r)
      | .look _ => none
    else
      match first, ← takeAtom? f (skip f r) with
      | .literal lo, (.literal hi, rest) =>
        if lo ≤ hi then some (CharSet.range lo hi, rest) else none
      | _, _ => none
  | t =>
    match first with
    | .literal c => some (CharSet.single c, t)
    | .set s => some (s, t)
    | .look _ => none

/-- The rest of a set: the open brackets, innermost first, and the text that
follows.  `steps` bounds the number of items. -/
def takeSet? (f : Flags) : (steps : Nat) → Bracket → List Bracket → Text → Option (NestedSet × Text)
  | 0, _, _, _ => none
  | n + 1, b, outer, t =>
    match skip f t with
    | [] => none
    | ']' :: r =>
      match b.close? f, outer with
      | none, _ => none
      | some s, [] => some (s, r)
      | some s, o :: outer => takeSet? f n (o.add s) outer r
    | '[' :: r =>
      match takeNamed? r with
      | some (s, negated, r) =>
        match f.class? negated (f.fold s) with
        | some s => takeSet? f n (b.add ⟨s, 0⟩) outer r
        | none => none
      | none =>
        match takeBracket? f r with
        | some (inner, r) => takeSet? f n inner (b :: outer) r
        | none => none
    | '&' :: '&' :: r => takeSet? f n (b.operate f .inter) outer r
    | '-' :: '-' :: r => takeSet? f n (b.operate f .diff) outer r
    | '~' :: '~' :: r => takeSet? f n (b.operate f .symmDiff) outer r
    | r =>
      match takeItem? f r with
      | some (s, r) =>
        if f.unicode || s.isAscii then takeSet? f n (b.add ⟨s, 0⟩) outer r else none
      | none => none

/-! ### Groups and flags -/

/-- Whether a character may stand in the name of a group. -/
def isNameChar (first : Bool) (c : Char) : Bool :=
  if first then c == '_' || Text.isLetter c
  else c == '_' || c == '.' || c == '[' || c == ']' || Text.isLetter c || Text.isNumeral c

/-- The name of a group up to its closing angle. -/
def takeName? (t : Text) : Option (String × Text) :=
  let name := t.takeWhile (· != '>')
  match t.dropWhile (· != '>'), name with
  | _ :: rest, c :: cs =>
    if isNameChar true c && cs.all (isNameChar false) then some (String.ofList name, rest) else none
  | _, _ => none

/-- Flags changed as written up to a colon or closing parenthesis, which the
answer still holds.  No flag and no sign may be repeated, and something has to
follow the minus sign.  `seen` are the characters so far, latest first. -/
def takeFlags? (seen : List Char) (f : Flags) : Text → Option (Flags × List Char × Text)
  | [] => none
  | c :: t =>
    if c = ':' || c = ')' then
      if seen.head? = some '-' then none else some (f, seen, c :: t)
    else if seen.contains c then none
    else if c = '-' then takeFlags? (c :: seen) f t
    else match f.with? c (!seen.contains '-') with
      | some g => takeFlags? (c :: seen) g t
      | none => none

/-- How an expression is read at some place: the flags, and the flags to return
to at the end of each open group, innermost first. -/
structure Scope where
  flags : Flags := {}
  outer : List Flags := []

/-- The beginning of a group, after its parenthesis. -/
def takeGroup? (sc : Scope) (t : Text) : Option (Token × Scope × Text) :=
  let inner : Scope := { sc with outer := sc.flags :: sc.outer }
  match skip sc.flags t with
  | '?' :: 'P' :: '<' :: r => (takeName? r).map fun (name, r) => (.openGroup (some name), inner, r)
  | '?' :: '<' :: r => (takeName? r).map fun (name, r) => (.openGroup (some name), inner, r)
  | '?' :: r =>
    match takeFlags? [] sc.flags r with
    | some (f, _, ':' :: r) => some (.openPlain, { inner with flags := f }, r)
    | some (f, seen, _ :: r) =>
      if seen.isEmpty then none else some (.flags, { sc with flags := f }, r)
    | _ => none
  | r => some (.openGroup none, inner, r)

/-! ### Repetitions -/

/-- A repetition, reluctant if a question mark follows. -/
def lazily (f : Flags) (min : Nat) (max : Option Nat) (t : Text) : Token × Text :=
  match t with
  | '?' :: r => (.times min max f.reluctant, r)
  | r => (.times min max !f.reluctant, r)

/-- A counted repetition, after its brace. -/
def takeTimes? (f : Flags) (t : Text) : Option (Token × Text) :=
  match takeCount? f (skip f t) with
  | (some min, '}' :: r) => some (lazily f min (some min) (skip f r))
  | (some min, ',' :: r) =>
    match skip f r with
    | '}' :: r => some (lazily f min none (skip f r))
    | r =>
      match takeCount? f r with
      | (some max, '}' :: r) =>
        if min ≤ max then some (lazily f min (some max) (skip f r)) else none
      | _ => none
  | _ => none

/-! ### Whole expressions -/

/-- The characters that a dot stands for: all but those that end lines, so that
the flags have to admit more than ASCII characters. -/
def dot? (f : Flags) : Option CharSet :=
  if f.dotAll then f.class? false CharSet.all
  else if f.crlf then f.class? true (CharSet.ofText ['\r', '\n'])
  else f.class? true (CharSet.single '\n')

/-- What one plain character or escape stands for. -/
def ofAtom (f : Flags) : Atom → Token
  | .literal c => .chars (f.fold (CharSet.single c)) (!f.unicode) 0
  | .set s => .chars s (!f.unicode) 0
  | .look a => .look a

/-- The next token of an expression that goes on, and how to read on. -/
def next? (sc : Scope) : Text → Option (Token × Scope × Text)
  | [] => none
  | '(' :: r => takeGroup? sc r
  | ')' :: r =>
    match sc.outer with
    | [] => none
    | f :: outer => some (.close, { flags := f, outer }, r)
  | '|' :: r => some (.bar, sc, r)
  | '[' :: r =>
    match takeBracket? sc.flags r with
    | some (b, r) =>
      (takeSet? sc.flags (r.length + 1) b [] r).map fun (s, r) =>
        (.chars s.set (!sc.flags.unicode) s.depth, sc, r)
    | none => none
  | '?' :: r => let (t, r) := lazily sc.flags 0 (some 1) r; some (t, sc, r)
  | '*' :: r => let (t, r) := lazily sc.flags 0 none r; some (t, sc, r)
  | '+' :: r => let (t, r) := lazily sc.flags 1 none r; some (t, sc, r)
  | '{' :: r => (takeTimes? sc.flags r).map fun (t, r) => (t, sc, r)
  | '.' :: r => (dot? sc.flags).map fun s => (.chars s false 0, sc, r)
  | '^' :: r =>
    some (.look (if sc.flags.multiLine then .lineStart sc.flags.crlf else .textStart), sc, r)
  | '$' :: r =>
    some (.look (if sc.flags.multiLine then .lineEnd sc.flags.crlf else .textEnd), sc, r)
  | t => (takeAtom? sc.flags t).map fun (u, r) => (ofAtom sc.flags u, sc, r)

/-- The tokens of the rest of an expression.  `steps` bounds their number. -/
def scan? : (steps : Nat) → Scope → Text → Option (List Token)
  | 0, _, _ => none
  | n + 1, sc, t =>
    match skip sc.flags t with
    | [] => if sc.outer.isEmpty then some [] else none
    | c :: r =>
      match next? sc (c :: r) with
      | some (tok, sc, r) => (scan? n sc r).map (tok :: ·)
      | none => none

/-- The tokens of an expression. -/
def ofText? (t : Text) : Option (List Token) := scan? (t.length + 1) {} t

end Token
end Gedcom.Regex
