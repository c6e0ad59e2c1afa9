import Gedcom.Regex
import Gedcom.RuleSet.Problem

/-!
# Replacements

The replacement of a substitution is a text in which dollar signs refer to the
groups of a match.  Written by hand, `$1` refers to a group by number, whatever
follows the digits, and `$` before anything else stands for itself.  In its
explicit form every reference is in braces, as `$` and a name or number between
braces, and a dollar sign that stands for itself is doubled; `Replacement.explicit`
puts a text into this form.

A matcher reads a replacement as a sequence of pieces (`Piece.ofText`): there
`$` followed by letters, digits and low lines refers to a group, too.
-/
namespace Gedcom.Regex

/-- How a replacement refers to a group. -/
inductive GroupRef
  | index (n : Nat)
  | name (s : String)
deriving DecidableEq, Repr

/-- The numbers by which groups can be referred to lie below this one. -/
def groupRefBound : Nat := UInt64.size

/-- The group that the text of a reference names: a number, which may have a
plus sign in front, or else a name. -/
def GroupRef.ofText (t : Text) : GroupRef :=
  let digits := match t with
    | '+' :: r => r
    | r => r
  if !digits.isEmpty && digits.all Char.isDigit && Text.digitsValue digits < groupRefBound then
    .index (Text.digitsValue digits)
  else .name (String.ofList t)

/-- A piece of a replacement: a character, or the text of a group. -/
inductive Piece
  | char (c : Char)
  | group (ref : GroupRef)
deriving DecidableEq, Repr

/-- Whether a character may stand in a reference without braces. -/
def isRefChar (c : Char) : Bool := c.isAlphanum || c == '_'

theorem length_drop_dropWhile_le (p : Char → Bool) (t : Text) :
    ((t.dropWhile p).drop 1).length ≤ t.length :=
  Nat.le_trans (by simp) (List.dropWhile_sublist p (l := t)).length_le

/-- The pieces of a replacement.  A dollar sign that begins no reference stands
for itself. -/
def Piece.ofText : Text → List Piece
  | [] => []
  | '$' :: '$' :: t => .char '$' :: ofText t
  | '$' :: '{' :: t =>
    if t.contains '}' then
      .group (.ofText (t.takeWhile (· != '}'))) :: ofText ((t.dropWhile (· != '}')).drop 1)
    else .char '$' :: ofText ('{' :: t)
  | '$' :: t =>
    if (t.takeWhile isRefChar).isEmpty then .char '$' :: ofText t
    else .group (.ofText (t.takeWhile isRefChar)) :: ofText (t.dropWhile isRefChar)
  | c :: t => .char c :: ofText t
termination_by t => t.length
decreasing_by
  · simp only [List.length_cons]; omega
  · have := length_drop_dropWhile_le (· != '}') t; simp only [List.length_cons]; omega
  · simp
  · simp
  · have := (List.dropWhile_sublist isRefChar (l := t)).length_le
    simp only [List.length_cons]; omega
  · simp

/-- The text of a piece at a match; a group that is not there has none. -/
def Piece.text (r : Regex) (t : Text) (m : Match) : Piece → Text
  | char c => [c]
  | group (.index i) => m.group t i
  | group (.name s) =>
    match r.groupNamed? s with
    | some i => m.group t i
    | none => []

/-- A text with every match replaced as a replacement says. -/
def substitute (r : Regex) (replacement t : Text) : Text :=
  let pieces := Piece.ofText replacement
  r.replaceAll (fun t m => pieces.flatMap (Piece.text r t m)) t

namespace Replacement

/-- A replacement with every reference in braces and every other dollar sign
doubled.  What stands in braces already is kept, up to the end of the text if the
brace is not closed. -/
def explicit : Text → Text
  | [] => []
  | '$' :: '$' :: t => '$' :: '$' :: explicit t
  | '$' :: '{' :: t =>
    if t.contains '}' then
      '$' :: '{' :: t.takeWhile (· != '}') ++ '}' :: explicit ((t.dropWhile (· != '}')).drop 1)
    else '$' :: '{' :: t
  | '$' :: t =>
    if (t.takeWhile Char.isDigit).isEmpty then '$' :: '$' :: explicit t
    else '$' :: '{' :: t.takeWhile Char.isDigit ++ '}' :: explicit (t.dropWhile Char.isDigit)
  | c :: t => c :: explicit t
termination_by t => t.length
decreasing_by
  · simp only [List.length_cons]; omega
  · have := length_drop_dropWhile_le (· != '}') t; simp only [List.length_cons]; omega
  · simp
  · have := (List.dropWhile_sublist Char.isDigit (l := t)).length_le
    simp only [List.length_cons]; omega
  · simp

/-- The references in braces of a replacement in explicit form, in order; the
last one may not be closed. -/
def references : Text → List (Option Text)
  | [] => []
  | '$' :: '$' :: t => references t
  | '$' :: '{' :: t =>
    if t.contains '}' then
      some (t.takeWhile (· != '}')) :: references ((t.dropWhile (· != '}')).drop 1)
    else [none]
  | _ :: t => references t
termination_by t => t.length
decreasing_by
  · simp only [List.length_cons]; omega
  · have := length_drop_dropWhile_le (· != '}') t; simp only [List.length_cons]; omega
  · simp

/-- Whether an expression has the group that the text of a reference names. -/
def hasGroup (r : Regex) (t : Text) : Bool :=
  match GroupRef.ofText t with
  | .index n => n < r.groupCount
  | .name s => (r.groupNamed? s).isSome

/-- The first problem with the references of a replacement. -/
def problem? (r : Regex) (replacement : String) : Option RuleProblem :=
  (references (explicit replacement.toList)).findSome? fun ref =>
    match ref with
    | none => some (.openReference replacement)
    | some t =>
      if hasGroup r t then none else some (.missingGroup replacement (String.ofList t))

end Replacement
end Gedcom.Regex
