import Gedcom.RuleFile.Problem
import Gedcom.RuleSet
import Gedcom.Text.Blank

/-!
# Written substitutions

A rule file writes a substitution as two strings between delimiters.  The first
character that is not blank is the delimiter of both strings, so that any
character can be had in them.  Blanks may stand in front of a delimited string.
A replacement has escapes for newline, tab and backslash; `unescape_escape` says
that every replacement can be written.
-/
namespace Gedcom.RuleFile

/-- A text with its escapes replaced by what they stand for: `\n` by a newline,
`\t` by a tab, `\\` by a backslash.  Any other backslash stands for itself. -/
def unescape : Text → Text
  | [] => []
  | '\\' :: 'n' :: t => '\n' :: unescape t
  | '\\' :: 't' :: t => '\t' :: unescape t
  | '\\' :: '\\' :: t => '\\' :: unescape t
  | c :: t => c :: unescape t

/-- The written form of one character of a replacement. -/
def escapeChar (c : Char) : Text :=
  if c = '\n' then ['\\', 'n']
  else if c = '\t' then ['\\', 't']
  else if c = '\\' then ['\\', '\\']
  else [c]

/-- A text with newlines, tabs and backslashes written as escapes. -/
def escape (t : Text) : Text := t.flatMap escapeChar

/-- The delimiter of the delimited string that a text begins with, the string,
and what follows it. -/
def delimited (expected : Option Char) (t : Text) :
    Except RuleFileProblem (Char × Text × Text) :=
  match Text.trimLeft t with
  | [] => .error .missingString
  | d :: t =>
    if expected.any (· != d) then .error (.otherDelimiter (expected.getD d) d)
    else match Text.cut? (· == d) t with
      | none => .error (.openString d)
      | some (s, rest) => .ok (d, s, rest)

/-- The substitution that a text writes. -/
def change (t : Text) : Except RuleFileProblem Substitution :=
  if t.isEmpty then .error .noStrings
  else do
    let (d, search, rest) ← delimited none t
    let (_, replacement, rest) ← delimited (some d) rest
    if (Text.trim rest).isEmpty then
      return ⟨String.ofList search, String.ofList (unescape replacement)⟩
    else throw (.surplusText (String.ofList (Text.trim rest)))

theorem unescape_cons {c : Char} (h : c ≠ '\\') (t : Text) :
    unescape (c :: t) = c :: unescape t := by
  rw [unescape] <;> simp_all

theorem unescape_escapeChar_append (c : Char) (t : Text) :
    unescape (escapeChar c ++ t) = c :: unescape t := by
  unfold escapeChar
  split
  · subst_vars; rfl
  · split
    · subst_vars; rfl
    · split
      · subst_vars; rfl
      · exact unescape_cons (by assumption) t

/-- Unescaping undoes escaping. -/
theorem unescape_escape (t : Text) : unescape (escape t) = t := by
  induction t with
  | nil => rfl
  | cons c t ih =>
    rw [escape, List.flatMap_cons, unescape_escapeChar_append]
    exact congrArg (c :: ·) ih

end Gedcom.RuleFile
