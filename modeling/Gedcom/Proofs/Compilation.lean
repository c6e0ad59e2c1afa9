import Gedcom.Filter
import Gedcom.Proofs.Results

/-!
# Rule sets made ready

Making a rule set ready keeps its rules and their operations in their places, once its
macros are written out (`compile_eq_ok`).  Whether it succeeds and what the patterns and
searches are does not depend on the parameters; these only have a say in the replacements.
-/
namespace Gedcom

/-! ## What becomes of an operation -/

/-- What becomes of an operation of a rule: a conversion stays, and a substitution gets the
expression of its search and its replacement with the parameters put in. -/
inductive Op.Becomes (ps : Params) : Op → ReadyOp → Prop
  | substitute {s : Substitution} {regex : Regex}
      (h : searchRegex (RuleSet.delimit s).search = .ok regex) :
      Becomes ps (.substitute s)
        (.substitute (RuleSet.delimit s).search regex
          (RuleSet.delimit (RuleSet.interpolate ps s)).replacement)
  | convert : Becomes ps .convert .convert

/-- What becomes of a rule. -/
structure Rule.Becomes (ps : Params) (r : Rule) (q : ReadyRule) : Prop where
  pattern : q.pattern = ⟨r.pattern⟩
  ops : List.Forall₂ (Op.Becomes ps) r.ops q.ops

namespace RuleSet
variable {filter : String} {macros : Macros} {ps qs : Params} {hasHook : Bool} {s : RuleSet}
  {ready : ReadyRules}

/-- An operation with its substitution changed. -/
def changed (f : Substitution → Substitution) : Op → Op
  | .substitute s => .substitute (f s)
  | op => op

theorem rules_mapSubstitutions (f : Substitution → Substitution) (s : RuleSet) :
    (s.mapSubstitutions f).rules =
      s.rules.map fun r => { r with ops := r.ops.map (changed f) } := by
  have hchanged : s.mapSubstitutions f = s.flatMapOps fun op => [changed f op] := by
    rw [mapSubstitutions]
    congr 1
    funext op
    cases op <;> rfl
  rw [hchanged, flatMapOps]
  simp only [← List.map_eq_flatMap]

theorem becomes_iff {op : Op} {q : ReadyOp} :
    Op.ready filter (changed delimit (changed (interpolate ps) op)) = .ok q ↔
      Op.Becomes ps op q := by
  cases op with
  | substitute s =>
    have hsearch : (delimit (interpolate ps s)).search = (delimit s).search := rfl
    rw [changed, changed, Op.ready, hsearch]
    cases hregex : searchRegex (delimit s).search with
    | error e =>
      refine ⟨fun h => ?_, fun h => ?_⟩
      · cases h
      · cases h with
        | substitute h' =>
          rw [hregex] at h'
          cases h'
    | ok regex =>
      constructor
      · intro h
        rw [← Except.ok.inj h]
        exact .substitute hregex
      · intro h
        cases h with
        | substitute h' =>
          obtain rfl := Except.ok.inj (hregex.symm.trans h')
          rfl
  | convert =>
    constructor
    · intro h
      rw [← Except.ok.inj h]
      exact .convert
    · intro h
      cases h
      rfl
  | useMacro name =>
    refine ⟨fun h => ?_, fun h => ?_⟩
    · cases h
    · cases h

theorem ready_eq_ok {r : Rule} {q : ReadyRule} :
    Rule.ready filter
        { r with ops := (r.ops.map (changed (interpolate ps))).map (changed delimit) } = .ok q ↔
      r.Becomes ps q := by
  rw [Rule.ready, map_eq_ok]
  simp only [mapM_eq_ok, List.forall₂_map_left_iff, becomes_iff]
  constructor
  · rintro ⟨ops, hops, rfl⟩
    exact ⟨rfl, hops⟩
  · rintro ⟨hpattern, hops⟩
    refine ⟨q.ops, hops, ?_⟩
    rw [← hpattern]

theorem expand_eq_ok {written : RuleSet} :
    s.expand macros = .ok written ↔
      s.unknownMacro? macros = none ∧ s.flatMapOps (writtenOut macros) = written := by
  rw [expand]
  cases s.unknownMacro? macros with
  | some name =>
    refine ⟨fun h => ?_, fun h => ?_⟩
    · cases h
    · cases h.1
  | none =>
    rw [and_iff_right rfl]
    exact ⟨Except.ok.inj, congrArg Except.ok⟩

/-- **What a rule set becomes.**  It is ready if it is valid, if its macros are known and if
the searches are expressions as groups of their own; the rules and operations stay in their
places. -/
theorem compile_eq_ok :
    s.compile filter macros ps hasHook = .ok ready ↔
      s.validate filter macros hasHook = .ok () ∧ s.unknownMacro? macros = none ∧
        List.Forall₂ (Rule.Becomes ps) (s.flatMapOps (writtenOut macros)).rules ready.rules := by
  have hrules : ∀ {rules : List ReadyRule},
      (((s.flatMapOps (writtenOut macros)).mapSubstitutions (interpolate ps)).delimited.rules.mapM
          (Rule.ready filter)) = .ok rules ↔
        List.Forall₂ (Rule.Becomes ps) (s.flatMapOps (writtenOut macros)).rules rules := by
    intro rules
    rw [mapM_eq_ok, delimited, rules_mapSubstitutions, rules_mapSubstitutions, List.map_map,
      List.forall₂_map_left_iff]
    exact ⟨fun h => h.imp fun _ _ => ready_eq_ok.mp, fun h => h.imp fun _ _ => ready_eq_ok.mpr⟩
  rw [compile, bind_eq_ok]
  constructor
  · rintro ⟨_, hvalid, h⟩
    obtain ⟨written, hwritten, h⟩ := bind_eq_ok.mp h
    obtain ⟨rules, hmapM, hready⟩ := bind_eq_ok.mp h
    obtain ⟨hmacros, rfl⟩ := expand_eq_ok.mp hwritten
    obtain rfl : ⟨rules⟩ = ready := Except.ok.inj hready
    exact ⟨hvalid, hmacros, hrules.mp hmapM⟩
  · rintro ⟨hvalid, hmacros, h⟩
    refine ⟨⟨⟩, hvalid, bind_eq_ok.mpr ⟨_, expand_eq_ok.mpr ⟨hmacros, rfl⟩, ?_⟩⟩
    exact bind_eq_ok.mpr ⟨ready.rules, hrules.mpr h, rfl⟩

/-- **Parameters do not decide whether a rule set can be made ready.** -/
theorem exists_compile (h : s.compile filter macros ps hasHook = .ok ready) (qs : Params) :
    ∃ ready', s.compile filter macros qs hasHook = .ok ready' := by
  obtain ⟨hvalid, hmacros, hrules⟩ := compile_eq_ok.mp h
  obtain ⟨rules, hrules'⟩ : ∃ rules, List.Forall₂ (Rule.Becomes qs) _ rules :=
    exists_forall₂ hrules fun r q hq => by
      obtain ⟨ops, hops⟩ : ∃ ops, List.Forall₂ (Op.Becomes qs) r.ops ops :=
        exists_forall₂ hq.ops fun op op' hop => by
          cases hop with
          | substitute hregex => exact ⟨_, .substitute hregex⟩
          | convert => exact ⟨_, .convert⟩
      exact ⟨⟨⟨r.pattern⟩, ops⟩, rfl, hops⟩
  exact ⟨⟨rules⟩, compile_eq_ok.mpr ⟨hvalid, hmacros, hrules'⟩⟩

/-- The patterns of a rule set that is ready are those of its rules. -/
theorem patterns_of_compile (h : s.compile filter macros ps hasHook = .ok ready) :
    ready.patterns = s.patterns.map Pattern.mk := by
  obtain ⟨_, _, hrules⟩ := compile_eq_ok.mp h
  rw [← patterns_flatMapOps (writtenOut macros) s, patterns, ReadyRules.patterns, List.map_map]
  have hpatterns : List.Forall₂ (· = ·) (ready.rules.map (·.pattern))
      ((s.flatMapOps (writtenOut macros)).rules.map (Pattern.mk ∘ (·.pattern))) := by
    rw [List.forall₂_map_left_iff, List.forall₂_map_right_iff]
    exact hrules.flip.imp fun _ _ hq => hq.pattern
  exact List.forall₂_eq_eq_eq ▸ hpatterns

end RuleSet
/-- A rule that is ready has been made of the rule at its position. -/
theorem Filter.exists_rule_of_compile {f : Filter} {ps : Params} {rules : ReadyRules}
    (hf : f.compile ps = .ok rules) {i : Nat} {q : ReadyRule} (hq : rules.rules[i]? = some q) :
    ∃ r, (f.rules ps).rules[i]? = some r ∧
      Rule.Becomes ps { r with ops := r.ops.flatMap (RuleSet.writtenOut f.macros) } q := by
  obtain ⟨_, _, hrules⟩ := RuleSet.compile_eq_ok.mp hf
  obtain ⟨written, hwritten, hbecomes⟩ := getElem?_of_forall₂ hrules.flip hq
  rw [RuleSet.flatMapOps, List.getElem?_map] at hwritten
  obtain ⟨r, hr, rfl⟩ := Option.map_eq_some_iff.mp hwritten
  exact ⟨r, hr, hbecomes⟩

end Gedcom
