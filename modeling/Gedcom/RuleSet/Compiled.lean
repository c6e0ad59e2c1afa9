import Gedcom.Params
import Gedcom.RuleSet.Validity

/-!
# Rule sets ready to run

A valid rule set is made ready to run in four steps: its macros are written out,
the parameters are put into its replacements, its substitutions are brought into
the form in which they are carried out, and the regular expressions of their
searches are built.
-/
namespace Gedcom

/-- An operation ready to run. -/
inductive ReadyOp
  /-- Replace what matches an expression, whose written form is `search`. -/
  | substitute (search : String) (regex : Regex) (replacement : String)
  /-- Have the hook of the filter convert the structure. -/
  | convert

/-- A rule ready to run. -/
structure ReadyRule where
  pattern : Pattern
  ops : List ReadyOp

/-- A rule set ready to run. -/
structure ReadyRules where
  rules : List ReadyRule

namespace ReadyRules

/-- The patterns of the rules, in order. -/
def patterns (s : ReadyRules) : List Pattern := s.rules.map (·.pattern)

end ReadyRules

/-- Make an operation ready; macros have to be written out by now. -/
def Op.ready (filter : String) : Op → Except Fault ReadyOp
  | .substitute s =>
    match searchRegex s.search with
    | .ok r => .ok (.substitute s.search r s.replacement)
    | .error p => .error (.rule filter p)
  | .convert => .ok .convert
  | .useMacro name => .error (.rule filter (.missingMacro name))

/-- Make a rule ready. -/
def Rule.ready (filter : String) (r : Rule) : Except Fault ReadyRule :=
  (fun ops => ⟨⟨r.pattern⟩, ops⟩) <$> r.ops.mapM (Op.ready filter)

namespace RuleSet

/-- A substitution with the parameters put into its replacement. -/
def interpolate (ps : Params) (s : Substitution) : Substitution :=
  { s with replacement := String.ofList (ps.interpolate s.replacement.toList) }

/-- Check a rule set and make it ready to run. -/
def compile (filter : String) (macros : Macros) (ps : Params) (hasHook : Bool) (s : RuleSet) :
    Except Fault ReadyRules := do
  s.validate filter macros hasHook
  let written ← s.expand macros
  let rules ← (written.mapSubstitutions (interpolate ps)).delimited.rules.mapM (Rule.ready filter)
  return ⟨rules⟩

end RuleSet
end Gedcom
