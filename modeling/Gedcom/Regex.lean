import Gedcom.Regex.Room
import Gedcom.Regex.Search
import Gedcom.Regex.Tree

/-!
# Regular expressions

A regular expression is read from its written form and finds matches in texts:
the leftmost, and among those that begin there the one that is preferred.
-/
namespace Gedcom

/-- A regular expression: its tree and its program. -/
structure Regex where
  node : Regex.Node
  program : Array Regex.Instr
deriving Repr

namespace Regex

/-- The regular expression with a given tree. -/
def ofNode (n : Node) : Regex := ⟨n, n.program⟩

/-- The ways in which a text can fail to be a usable regular expression. -/
inductive Refusal
  /-- It is not a regular expression. -/
  | notExpression
  /-- Its automata would take too much room. -/
  | tooLarge
deriving DecidableEq, Repr

/-- The regular expression that a text writes. -/
def ofText (t : Text) : Except Refusal Regex :=
  match Token.ofText? t >>= Node.ofTokens? with
  | none => .error .notExpression
  | some n => if n.tooLarge then .error .tooLarge else .ok (ofNode n)

/-- The number of groups, the whole match included: groups that cannot take part
in a match any more count if a later one can. -/
def groupCount (r : Regex) : Nat := r.node.groups.foldl (fun n g => max n (g.1 + 1)) 1

/-- The number of the group with a name. -/
def groupNamed? (r : Regex) (name : String) : Option Nat :=
  (r.node.groups.find? fun g => g.2 == some name).map (·.1)

/-- A match: the places noted by its groups. -/
structure Match where
  slots : Slots

namespace Match

/-- Where the group with a number begins and ends, if it took part. -/
def span? (m : Match) (i : Nat) : Option (Nat × Nat) :=
  match m.slots[2 * i]?, m.slots[2 * i + 1]? with
  | some (some start), some (some stop) => some (start, stop)
  | _, _ => none

/-- Where a match begins. -/
def start (m : Match) : Nat := (m.span? 0).elim 0 (·.1)

/-- Where a match ends. -/
def stop (m : Match) : Nat := (m.span? 0).elim 0 (·.2)

/-- The text of the group with a number in the text that was searched; empty if
it took no part. -/
def group (m : Match) (t : Text) (i : Nat) : Text :=
  match m.span? i with
  | some (start, stop) => (t.drop start).take (stop - start)
  | none => []

end Match

/-- The first match in a text behind the character `before`. -/
def find? (r : Regex) (before : Option Char) (t : Text) : Option Match :=
  let fresh := List.replicate (2 * r.groupCount) none
  let front : Front := ⟨Array.replicate r.program.size none, []⟩
  (searchFrom r.program fresh ⟨0, before, t.head?⟩ front none t).map Match.mk

/-- The character before the place `n` of a text that stands behind `before`. -/
def charBefore (before : Option Char) (t : Text) : (n : Nat) → Option Char
  | 0 => before
  | n + 1 => t[n]?

/-- The next match behind a match: one that is empty does not count where the
last one ended.  `fresh` says that no match ended here. -/
def findNext? (r : Regex) (before : Option Char) (fresh : Bool) (t : Text) : Option Match :=
  match r.find? before t with
  | none => none
  | some m =>
    if m.stop = 0 && !fresh then
      match t with
      | [] => none
      | c :: rest =>
        (r.find? (some c) rest).map fun m => ⟨m.slots.map (·.map (· + 1))⟩
    else some m

/-- A text with every match replaced by what `expand` makes of it.  `steps`
bounds the number of matches. -/
def replaceFrom (r : Regex) (expand : Text → Match → Text) :
    (steps : Nat) → (before : Option Char) → (fresh : Bool) → Text → Text
  | 0, _, _, t => t
  | n + 1, before, fresh, t =>
    match r.findNext? before fresh t with
    | none => t
    | some m =>
      t.take m.start ++ expand t m ++
        replaceFrom r expand n (charBefore before t m.stop) false (t.drop m.stop)

/-- A text with every match replaced by what `expand` makes of it. -/
def replaceAll (r : Regex) (expand : Text → Match → Text) (t : Text) : Text :=
  replaceFrom r expand (t.length + 2) none true t

end Regex
end Gedcom
