import Gedcom.RuleSet
import Gedcom.RuleSet.Dominance

/-!
# Validity of a rule set

A rule set is valid if it has rules, if every search is a regular expression and
every replacement refers to groups of its search, if every pattern is well
formed, if conversions and macros are available where they are asked for, if
excluding rules have no operations, and if no rule is dominated by an earlier
one.  Macros are looked at first, then the rules one after the other; the first
problem found is the answer.
-/
namespace Gedcom

/-- The regular expression of a search, or what is wrong with it. -/
def searchRegex (search : String) : Except RuleProblem Regex :=
  match Regex.ofText search.toList with
  | .ok r => .ok r
  | .error .notExpression => .error (.badSearch search)
  | .error .tooLarge => .error (.hugeSearch search)

/-- What is wrong with a substitution. -/
def Substitution.problem? (s : Substitution) : Option RuleProblem :=
  match searchRegex s.search with
  | .ok r => Regex.Replacement.problem? r s.replacement
  | .error p => some p

/-- What is wrong with an operation of a rule. -/
def Op.problem? (macros : Macros) (hasHook : Bool) (pattern : String) : Op → Option RuleProblem
  | .substitute s => s.problem?
  | .convert => if hasHook then none else some (.missingHook pattern)
  | .useMacro name => if macros.contains name then none else some (.missingMacro name)

/-- What is wrong with a rule by itself. -/
def Rule.problem? (macros : Macros) (hasHook : Bool) (r : Rule) : Option RuleProblem :=
  if !(Pattern.mk r.pattern).wellFormed then some (.badPattern r.pattern)
  else match r.ops.findSome? (Op.problem? macros hasHook r.pattern) with
    | some p => some p
    | none =>
      if (Pattern.mk r.pattern).excludes && !r.ops.isEmpty then some (.idleOperations r.pattern)
      else none

/-- What is wrong with macros. -/
def macroProblem? (macros : Macros) : Option RuleProblem :=
  macros.entries.findSome? fun (name, subs) =>
    (subs.findSome? Substitution.problem?).map (.inMacro name)

namespace RuleSet

/-- The first fault of some rules that stand behind rules with the patterns
`earlier`. -/
def ruleFault? (filter : String) (macros : Macros) (hasHook : Bool) :
    (earlier : List Pattern) → List Rule → Option Fault
  | _, [] => none
  | earlier, r :: rs =>
    match r.problem? macros hasHook with
    | some p => some (.rule filter p)
    | none =>
      match (Pattern.mk r.pattern).dominatedBy? earlier with
      | some e => some (.dominated filter r.pattern e.text)
      | none => ruleFault? filter macros hasHook (earlier ++ [⟨r.pattern⟩]) rs

/-- The first fault of a rule set. -/
def fault? (filter : String) (macros : Macros) (hasHook : Bool) (s : RuleSet) : Option Fault :=
  if s.isEmpty then some (.rule filter .noRules)
  else match macroProblem? macros with
    | some p => some (.rule filter p)
    | none => ruleFault? filter macros hasHook [] s.rules

/-- Check a rule set. -/
def validate (filter : String) (macros : Macros) (hasHook : Bool) (s : RuleSet) :
    Except Fault Unit :=
  match s.fault? filter macros hasHook with
  | some f => .error f
  | none => .ok ()

end RuleSet
end Gedcom
