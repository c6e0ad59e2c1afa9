import Gedcom.CharSet

/-!
# Assertions

An assertion is a condition on a place in a text: on the character before it
and the one after it.
-/
namespace Gedcom.Regex

/-- Conditions on a place in a text. -/
inductive Assertion
  /-- Nothing stands before. -/
  | textStart
  /-- Nothing stands after. -/
  | textEnd
  /-- A line begins; lines may also end in a carriage return. -/
  | lineStart (crlf : Bool)
  /-- A line ends; lines may also end in a carriage return. -/
  | lineEnd (crlf : Bool)
  /-- A word begins or ends; words consist of the characters given. -/
  | wordEdge (words : CharSet)
  /-- No word begins or ends. -/
  | noWordEdge (words : CharSet)
  /-- A word begins. -/
  | wordStart (words : CharSet)
  /-- A word ends. -/
  | wordEnd (words : CharSet)
  /-- No word stands before. -/
  | noWordBefore (words : CharSet)
  /-- No word stands after. -/
  | noWordAfter (words : CharSet)
deriving DecidableEq, Repr

/-- Whether an assertion holds between two characters. -/
def Assertion.holds (before after : Option Char) : Assertion → Bool
  | textStart => before.isNone
  | textEnd => after.isNone
  | lineStart false => before.isNone || before == some '\n'
  | lineStart true =>
    before.isNone || before == some '\n' || before == some '\r' && after != some '\n'
  | lineEnd false => after.isNone || after == some '\n'
  | lineEnd true =>
    after.isNone || after == some '\r' || after == some '\n' && before != some '\r'
  | wordEdge w => before.any w.contains != after.any w.contains
  | noWordEdge w => before.any w.contains == after.any w.contains
  | wordStart w => !before.any w.contains && after.any w.contains
  | wordEnd w => before.any w.contains && !after.any w.contains
  | noWordBefore w => !before.any w.contains
  | noWordAfter w => !after.any w.contains

end Gedcom.Regex
