import Gedcom.Proofs.Dropping
import Gedcom.Proofs.Fillings
import Gedcom.Proofs.GroupedSearches
import Gedcom.Proofs.Rewriting

/-!
# Substitutions with a known expression

What a substitution comes to depends on the expression that its search writes.  If it is known
(`Substitution.Seeks`), then nothing is wrong with the substitution, and made ready it is a
substitution with this expression, whatever the parameters are.
-/
namespace Gedcom

/-- A replacement without placeholders stays as it is. -/
theorem Params.interpolate_eq_self (ps : Params) {t : Text} (ht : '%' ∉ t) :
    ps.interpolate t = t := by
  have hreplace : ∀ name new, Text.replace (placeholder name) new t = t := by
    intro name new
    have happend : Text.replace (placeholder name) new (t ++ []) =
        t ++ Text.replace (placeholder name) new [] := Text.replace_append_of_notMem ht []
    have hnil : Text.replace (placeholder name) new [] = [] := rfl
    rwa [hnil, List.append_nil] at happend
  rw [interpolate]
  induction ps.values.entries with
  | nil => rfl
  | cons entry entries ih =>
    rw [List.foldl_cons]
    dsimp only
    rw [hreplace, ih]

namespace Substitution
variable {s : Substitution} {n : Regex.Node}

/-- The search of a substitution writes an expression that may stand in a group, and its
replacement refers to groups of the expression and to no parameters. -/
structure Seeks (s : Substitution) (n : Regex.Node) : Prop where
  parses : Regex.Token.ofText? s.search.toList >>= Regex.Node.ofTokens? = some n
  fits : n.tooLarge = false
  groupable : Regex.Groupable s.search.toList
  refers : Regex.Replacement.problem? (.ofNode n) s.replacement = none
  plain : '%' ∉ s.replacement.toList

/-- A substitution made ready, with the expression of its search. -/
def ready (s : Substitution) (n : Regex.Node) : ReadyOp :=
  .substitute (RuleSet.delimit s).search (.ofNode n) (RuleSet.delimit s).replacement

theorem Seeks.searchRegex (h : s.Seeks n) : searchRegex s.search = .ok (.ofNode n) := by
  rw [Gedcom.searchRegex, Regex.ofText_eq_ok.mpr ⟨n, h.parses, h.fits, rfl⟩]

/-- Nothing is wrong with a substitution whose expression is known. -/
theorem Seeks.problem? (h : s.Seeks n) : s.problem? = none := by
  rw [Substitution.problem?, h.searchRegex]
  exact h.refers

/-- What becomes of such a substitution does not depend on the parameters. -/
theorem Seeks.becomes (h : s.Seeks n) (ps : Params) :
    Op.Becomes ps (.substitute s) (s.ready n) := by
  have hplain : RuleSet.interpolate ps s = s := by
    rw [RuleSet.interpolate, ps.interpolate_eq_self h.plain, String.ofList_toList]
  have hregex := (RuleSet.searchRegex_delimit h.searchRegex).trans (if_pos h.groupable)
  have hready : Op.Becomes ps (.substitute s) (.substitute (RuleSet.delimit s).search (.ofNode n)
      (RuleSet.delimit (RuleSet.interpolate ps s)).replacement) := .substitute hregex
  rwa [hplain] at hready

/-- A substitution that is ready is one pass over the text. -/
theorem runOps_ready {a : Application} (hn : n.Solid) {t u : Text}
    (h : n.Rewrites n.freshSlots
      (Regex.expansion (.ofNode n) (Regex.Replacement.explicit s.replacement.toList)) none t u)
    (pattern : String) (ops : List ReadyOp) :
    a.runOps pattern (s.ready n :: ops) t = a.runOps pattern ops u := by
  rw [ready, Application.runOps, RuleSet.delimit, String.toList_ofList,
    Regex.substitute_eq_of_rewrites hn h]

end Substitution

/-- Nothing is wrong with a rule that excludes nothing if nothing is wrong with its operations. -/
theorem Rule.problem?_eq_none {macros : Macros} {hasHook : Bool} {r : Rule}
    (hwell : (Pattern.mk r.pattern).wellFormed = true)
    (hkeeps : (Pattern.mk r.pattern).excludes = false)
    (hops : ∀ op ∈ r.ops, op.problem? macros hasHook r.pattern = none) :
    r.problem? macros hasHook = none := by
  rw [problem?, hwell, List.findSome?_eq_none_iff.mpr hops, hkeeps, Bool.not_true,
    if_neg Bool.false_ne_true, Bool.false_and]
  rfl

/-- A rule with which nothing is wrong, and which no rule in front of it dominates, has no fault. -/
theorem RuleSet.ruleFault?_cons {filter : String} {macros : Macros} {hasHook : Bool}
    {earlier : List Pattern} {r : Rule} (hr : r.problem? macros hasHook = none)
    (hdominated : (Pattern.mk r.pattern).dominatedBy? earlier = none) (rs : List Rule) :
    ruleFault? filter macros hasHook earlier (r :: rs) =
      ruleFault? filter macros hasHook (earlier ++ [⟨r.pattern⟩]) rs := by
  rw [ruleFault?, hr]
  dsimp only
  rw [hdominated]

/-- A rule set is valid if nothing is wrong with its macros and rules. -/
theorem RuleSet.validate_eq_ok {filter : String} {macros : Macros} {hasHook : Bool} {s : RuleSet}
    (hsome : s.isEmpty = false) (hmacros : macroProblem? macros = none)
    (hrules : ruleFault? filter macros hasHook [] s.rules = none) :
    s.validate filter macros hasHook = .ok () := by
  rw [validate, fault?, hsome, hmacros, if_neg Bool.false_ne_true]
  dsimp only
  rw [hrules]

end Gedcom
