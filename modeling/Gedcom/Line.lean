import Gedcom.Fault
import Gedcom.Text.Word

/-!
# Lines

A line is written `level [@xref@] tag [value]`: a level number, for the first
line of a record its identifier, a tag, and a value.  Identifiers have one to
twenty letters, digits and `:_.-`; tags have letters, digits and `_`.  Exactly
one blank stands between the parts, and a tag ends where no word goes on.

Besides whole lines the module reads parts of lines: the level that a line
begins with, the record that its value points to, the record that a reference
line names, and the identifier of a record line.
-/
namespace Gedcom

/-- A line: its level, the identifier of a record line, its tag and value. -/
structure Line where
  level : Nat
  xref : Option String := none
  tag : String
  value : Text := []
deriving DecidableEq, Repr

namespace Line

/-- The greatest level: levels have 32 bits. -/
def maxLevel : Nat := UInt32.size - 1

/-- The greatest length of a record identifier. -/
def maxXrefLength : Nat := 20

/-- Whether a character may stand in a record identifier. -/
def isXrefChar (c : Char) : Bool :=
  c.isAlphanum || c == ':' || c == '_' || c == '.' || c == '-'

/-- Whether a character may stand in a tag. -/
def isTagChar (c : Char) : Bool := c.isAlphanum || c == '_'

/-- The level number at the beginning of a text, and what follows it. -/
def takeLevel? (t : Text) : Option (Nat × Text) :=
  let digits := t.takeWhile Char.isDigit
  if digits.isEmpty || maxLevel < Text.digitsValue digits then none
  else some (Text.digitsValue digits, t.dropWhile Char.isDigit)

/-- The identifier between `@` signs at the beginning of a text, and what
follows it. -/
def takeXref? : Text → Option (String × Text)
  | '@' :: t =>
    let id := t.takeWhile isXrefChar
    match t.dropWhile isXrefChar with
    | '@' :: rest =>
      if id.isEmpty || maxXrefLength < id.length then none
      else some (String.ofList id, rest)
    | _ => none
  | _ => none

/-- The tag at the beginning of a text, and what follows it. -/
def takeTag? (t : Text) : Option (String × Text) :=
  let tag := t.takeWhile isTagChar
  if tag.isEmpty then none else some (String.ofList tag, t.dropWhile isTagChar)

/-- Whether a text begins with a character of a word. -/
def startsWord : Text → Bool
  | [] => false
  | c :: _ => Text.isWord c

/-- The part of a line that follows level and identifier: tag and value. -/
def ofBody? (level : Nat) (xref : Option String) (t : Text) : Option Line :=
  match takeTag? t with
  | some (tag, rest) =>
    if startsWord rest then none
    else some { level, xref, tag, value := if rest.head? = some ' ' then rest.tail else rest }
  | none => none

/-- The line that a single line of text writes. -/
def ofLine? (t : Text) : Option Line :=
  match takeLevel? t with
  | some (level, ' ' :: rest) =>
    match takeXref? rest with
    | some (xref, ' ' :: body) => ofBody? level (some xref) body
    | _ => ofBody? level none rest
  | _ => none

/-- The line that the first line of a text writes; what follows is ignored. -/
def ofText (t : Text) : Except Fault Line :=
  match ofLine? (Text.firstLine t) with
  | some line => .ok line
  | none => .error (.malformed (Text.firstLine t))

/-- The line that the first line of a text writes, which must have the given
level. -/
def ofTextAt (level : Nat) (t : Text) : Except Fault Line :=
  match ofLine? (Text.firstLine t) with
  | some line => if line.level = level then .ok line else .error (.malformed (Text.firstLine t))
  | none => .error (.malformed (Text.firstLine t))

/-- The level number that a text begins with, if it begins with one. -/
def levelOf? (t : Text) : Option Nat := (takeLevel? t).map (·.1)

/-- The record that a line points to: its value begins with `@xref@`. -/
def pointer? (line : Line) : Option String := (takeXref? line.value).map (·.1)

/-- The record that a reference line `n TAG @xref@` names.  The level may have
any number of digits. -/
def reference? (t : Text) : Option String :=
  if (t.takeWhile Char.isDigit).isEmpty then none
  else match t.dropWhile Char.isDigit with
    | ' ' :: rest =>
      match takeTag? rest with
      | some (_, ' ' :: value) => (takeXref? value).map (·.1)
      | _ => none
    | _ => none

/-- The identifier of a text that begins with a record line `0 @xref@ TAG`. -/
def recordXref? : Text → Option String
  | '0' :: ' ' :: t =>
    match takeXref? t with
    | some (xref, ' ' :: body) => (takeTag? body).map fun _ => xref
    | _ => none
  | _ => none

/-- The written form of a line, without a newline. -/
def render (line : Line) : Text :=
  Nat.toDigits 10 line.level ++
  (match line.xref with
    | some xref => ' ' :: '@' :: xref.toList ++ ['@']
    | none => []) ++
  ' ' :: line.tag.toList ++
  (if line.value.isEmpty then [] else ' ' :: line.value)

end Line
end Gedcom
