import Gedcom.Proofs.Compilation
import Mathlib.Data.List.Nodup

/-!
# Rule sets put together

The rules of a rule set are tried in order, so what is done with a rule set must not disturb
their places.  However rule sets are put together (`Reached`), no two rules of one have the same
pattern (`nodup_patterns`).

Merging goes through the rules of the second rule set one by one and looks each pattern up among
the rules that it has so far, those of the second rule set included.  Since these have other
patterns, it finds the operations as they are in the first rule set; so a merged rule set has the
patterns of the first one, then the new ones of the second (`patterns_merge`), and each pattern
has the operations of both (`ops?_merge`).  Making a rule set ready changes operations only: the
rules stay where they are (`patterns_in_order`).
-/
namespace Gedcom.RuleSet

/-- The rule sets that can be put together: without rules, from patterns, by adding a rule, by
merging, by writing macros out, and by bringing substitutions into the form in which they are
carried out. -/
inductive Reached : RuleSet → Prop
  | empty : Reached {}
  | ofPatterns (patterns : List String) : Reached (ofPatterns patterns)
  | insert {s : RuleSet} (pattern : String) (ops : List Op) : Reached s →
      Reached (s.insert pattern ops)
  | merge {a b : RuleSet} : Reached a → Reached b → Reached (a.merge b)
  | expand {s s' : RuleSet} {macros : Macros} : Reached s → s.expand macros = .ok s' → Reached s'
  | delimited {s : RuleSet} : Reached s → Reached s.delimited

/-- The operations of a pattern. -/
def ops? (s : RuleSet) (pattern : String) : Option (List Op) := (s.find? pattern).map (·.ops)

/-- What the operations of a pattern become in a merged rule set. -/
def joined : Option (List Op) → Option (List Op) → Option (List Op)
  | some ops, some ops' => some (if ops = ops' then ops else ops ++ ops')
  | some ops, none => some ops
  | none, ops' => ops'

/-! ## Merging rules one by one -/

section Rules
variable {r : Rule} {rs bs : List Rule}

/-- The operations of a pattern in some rules. -/
def opsIn (rs : List Rule) (pattern : String) : Option (List Op) := ops? ⟨rs⟩ pattern

theorem opsIn_nil (pattern : String) : opsIn [] pattern = none := rfl

theorem opsIn_cons (r : Rule) (rs : List Rule) (pattern : String) :
    opsIn (r :: rs) pattern = if r.pattern = pattern then some r.ops else opsIn rs pattern := by
  by_cases h : r.pattern = pattern <;> simp [opsIn, ops?, find?, h]

theorem opsIn_eq_none {pattern : String} :
    opsIn rs pattern = none ↔ pattern ∉ rs.map (·.pattern) := by
  simp [opsIn, ops?, find?]

@[simp] theorem joined_none_right (ops : Option (List Op)) : joined ops none = ops := by
  cases ops <;> rfl

/-- A merged rule leaves the patterns in their order; a new one comes last. -/
theorem map_pattern_mergeRule (r : Rule) (rs : List Rule) :
    (mergeRule r rs).map (·.pattern) =
      if r.pattern ∈ rs.map (·.pattern) then rs.map (·.pattern)
      else rs.map (·.pattern) ++ [r.pattern] := by
  induction rs with
  | nil => rfl
  | cons q qs ih =>
    by_cases h : q.pattern = r.pattern
    · rw [mergeRule, if_pos h]
      split_ifs <;> simp_all
    · have h' : ¬r.pattern = q.pattern := fun e => h e.symm
      simp only [mergeRule, h, if_false, List.map_cons, ih, List.mem_cons, h', false_or]
      split_ifs <;> rfl

/-- A merged rule has an effect on its own pattern only. -/
theorem opsIn_mergeRule (r : Rule) (rs : List Rule) (pattern : String) :
    opsIn (mergeRule r rs) pattern =
      if r.pattern = pattern then joined (opsIn rs pattern) (some r.ops)
      else opsIn rs pattern := by
  induction rs with
  | nil => exact opsIn_cons r [] pattern
  | cons q qs ih =>
    rw [mergeRule]
    by_cases h : q.pattern = r.pattern
    · rw [if_pos h, opsIn_cons, opsIn_cons, h]
      split_ifs <;> simp_all [joined]
    · rw [if_neg h, opsIn_cons, ih, opsIn_cons]
      split_ifs <;> simp_all

/-- What merging some rules with distinct patterns, one by one, makes of the patterns. -/
theorem map_pattern_foldl_mergeRule (hbs : (bs.map (·.pattern)).Nodup) (rs : List Rule) :
    (bs.foldl (fun rs r => mergeRule r rs) rs).map (·.pattern) =
      rs.map (·.pattern) ++ (bs.map (·.pattern)).filter (· ∉ rs.map (·.pattern)) := by
  induction bs generalizing rs with
  | nil => simp
  | cons r bs ih =>
    rw [List.map_cons] at hbs
    obtain ⟨hr, hbs⟩ := List.nodup_cons.mp hbs
    rw [List.foldl_cons, ih hbs, map_pattern_mergeRule, List.map_cons]
    split_ifs with hmem
    · rw [List.filter_cons_of_neg (by simpa using hmem)]
    · -- the patterns that follow differ from the one that has just been added
      have hfilter : (bs.map (·.pattern)).filter (· ∉ rs.map (·.pattern) ++ [r.pattern]) =
          (bs.map (·.pattern)).filter (· ∉ rs.map (·.pattern)) := by
        refine List.filter_congr fun p hp => ?_
        have hne : p ≠ r.pattern := by
          rintro rfl
          exact hr hp
        simp [hne]
      rw [hfilter, List.filter_cons_of_pos (by simpa using hmem), List.append_assoc,
        List.singleton_append]

/-- What merging some rules with distinct patterns, one by one, makes of the operations. -/
theorem opsIn_foldl_mergeRule (hbs : (bs.map (·.pattern)).Nodup) (rs : List Rule)
    (pattern : String) :
    opsIn (bs.foldl (fun rs r => mergeRule r rs) rs) pattern =
      joined (opsIn rs pattern) (opsIn bs pattern) := by
  induction bs generalizing rs with
  | nil => rw [List.foldl_nil, opsIn_nil, joined_none_right]
  | cons r bs ih =>
    rw [List.map_cons] at hbs
    obtain ⟨hr, hbs⟩ := List.nodup_cons.mp hbs
    rw [List.foldl_cons, ih hbs, opsIn_mergeRule, opsIn_cons]
    split_ifs with h
    · -- no rule that follows has the pattern of this one
      have hrest : opsIn bs pattern = none := opsIn_eq_none.mpr (h ▸ hr)
      rw [hrest, joined_none_right]
    · rfl

end Rules

/-! ## Rule sets -/

section RuleSets
variable {a b s : RuleSet}

/-- **A merged rule set** has the patterns of the first rule set and then those of the second
that are new. -/
theorem patterns_merge (hb : b.patterns.Nodup) :
    (a.merge b).patterns = a.patterns ++ b.patterns.filter (· ∉ a.patterns) :=
  map_pattern_foldl_mergeRule hb a.rules

/-- **A pattern of a merged rule set** has the operations of the first rule set and then those
of the second, unless they are the same. -/
theorem ops?_merge (hb : b.patterns.Nodup) (pattern : String) :
    (a.merge b).ops? pattern = joined (a.ops? pattern) (b.ops? pattern) :=
  opsIn_foldl_mergeRule hb a.rules pattern

theorem nodup_insert (h : s.patterns.Nodup) (pattern : String) (ops : List Op) :
    (s.insert pattern ops).patterns.Nodup := by
  rw [patterns_insert]
  split_ifs with hmem
  · exact h
  · exact List.Nodup.append h (List.nodup_singleton _) (List.disjoint_singleton.mpr hmem)

theorem nodup_ofList (rules : List (String × List Op)) : (ofList rules).patterns.Nodup := by
  have hfold : ∀ s : RuleSet, s.patterns.Nodup →
      (rules.foldl (fun s r => s.insert r.1 r.2) s).patterns.Nodup := by
    induction rules with
    | nil => exact fun s hs => hs
    | cons r rules ih => exact fun s hs => ih _ (nodup_insert hs r.1 r.2)
  exact hfold {} List.nodup_nil

theorem nodup_merge (ha : a.patterns.Nodup) (hb : b.patterns.Nodup) :
    (a.merge b).patterns.Nodup := by
  rw [patterns_merge hb]
  refine List.Nodup.append ha (hb.filter _) fun p hpa hpb => ?_
  simpa [hpa] using (List.mem_filter.mp hpb).2

theorem patterns_expand {macros : Macros} {written : RuleSet} (h : s.expand macros = .ok written) :
    written.patterns = s.patterns := by
  obtain ⟨-, rfl⟩ := expand_eq_ok.mp h
  exact patterns_flatMapOps _ s

theorem patterns_delimited (s : RuleSet) : s.delimited.patterns = s.patterns :=
  patterns_flatMapOps _ s

/-- **No two rules of a rule set have the same pattern.** -/
theorem nodup_patterns (h : Reached s) : s.patterns.Nodup := by
  induction h with
  | empty => exact List.nodup_nil
  | ofPatterns patterns => exact nodup_ofList _
  | insert pattern ops _ ih => exact nodup_insert ih pattern ops
  | merge _ _ iha ihb => exact nodup_merge iha ihb
  | expand _ h ih => rwa [patterns_expand h]
  | delimited _ ih => rwa [patterns_delimited]

/-- A rule that is made ready stays at its position. -/
theorem exists_becomes_at {filter : String} {macros : Macros} {ps : Params} {hasHook : Bool}
    {ready : ReadyRules} (h : s.compile filter macros ps hasHook = .ok ready) {i : Nat} {r : Rule}
    (hr : s.rules[i]? = some r) :
    ∃ q, ready.rules[i]? = some q ∧
      Rule.Becomes ps { r with ops := r.ops.flatMap (writtenOut macros) } q := by
  obtain ⟨-, -, hrules⟩ := compile_eq_ok.mp h
  refine getElem?_of_forall₂ hrules ?_
  rw [flatMapOps, List.getElem?_map, hr]
  rfl

/-- **Rules keep their places**, however rule sets are put together and made ready.  No two rules
have the same pattern.  Merging puts the new patterns of the second rule set behind those of the
first one, and gives each pattern the operations of both.  Writing macros out and bringing
substitutions into the form in which they are carried out leave the patterns as they are.  In a
rule set that is ready, what has become of a rule stands at the position of the rule, and so the
same rule as before decides on every path. -/
theorem patterns_in_order :
    (∀ s, Reached s → s.patterns.Nodup) ∧
      (∀ a b, Reached a → Reached b →
        (a.merge b).patterns = a.patterns ++ b.patterns.filter (· ∉ a.patterns) ∧
          ∀ pattern, (a.merge b).ops? pattern = joined (a.ops? pattern) (b.ops? pattern)) ∧
      (∀ (s : RuleSet) (macros : Macros) (written : RuleSet), s.expand macros = .ok written →
        written.patterns = s.patterns) ∧
      (∀ s : RuleSet, s.delimited.patterns = s.patterns) ∧
      ∀ (s : RuleSet) (filter : String) (macros : Macros) (ps : Params) (hasHook : Bool)
        (ready : ReadyRules), s.compile filter macros ps hasHook = .ok ready →
        ready.patterns = s.patterns.map Pattern.mk ∧
          (∀ (i : Nat) (r : Rule), s.rules[i]? = some r → ∃ q, ready.rules[i]? = some q ∧
            Rule.Becomes ps { r with ops := r.ops.flatMap (writtenOut macros) } q) ∧
          ∀ path, firstMatch ready.patterns path = firstMatch (s.patterns.map Pattern.mk) path := by
  refine ⟨fun s => nodup_patterns, fun a b _ hb => ?_, fun s macros written => patterns_expand,
    patterns_delimited, fun s filter macros ps hasHook ready h => ?_⟩
  · exact ⟨patterns_merge (nodup_patterns hb), ops?_merge (nodup_patterns hb)⟩
  · have hpatterns := patterns_of_compile h
    exact ⟨hpatterns, fun i r => exists_becomes_at h, fun path => by rw [hpatterns]⟩

/-- A macro that drops a qualifier. -/
def qualifiers : Macros := .ofList [("Short", [⟨"ABT ", ""⟩])]

/-- Rules of a filter that shortens births. -/
def births : RuleSet := (ofPatterns ["INDI"]).insert "INDI:BIRT" [.useMacro "Short"]

/-- Rules of a filter that converts births and keeps families. -/
def families : RuleSet := (ofPatterns ["FAM", "INDI"]).insert "INDI:BIRT" [.convert]

theorem patterns_in_order_births :
    Reached births ∧ Reached families ∧ (births.merge families).patterns.Nodup ∧
      (births.merge families).patterns = ["INDI", "INDI:BIRT", "FAM"] ∧
      (births.merge families).ops? "INDI:BIRT" = some [.useMacro "Short", .convert] ∧
      (∃ written, (births.merge families).expand qualifiers = .ok written ∧
        written.patterns = (births.merge families).patterns) ∧
      ∃ ready, (births.merge families).compile "Births" qualifiers {} true = .ok ready ∧
        (∀ (i : Nat) (r : Rule), (births.merge families).rules[i]? = some r →
          ∃ q, ready.rules[i]? = some q ∧
            Rule.Becomes {} { r with ops := r.ops.flatMap (writtenOut qualifiers) } q) ∧
        firstMatch ready.patterns ["FAM"] = some 2 := by
  have hbirths : Reached births := .insert _ _ (.ofPatterns _)
  have hfamilies : Reached families := .insert _ _ (.ofPatterns _)
  obtain ⟨hnodup, hmerge, hexpand, -, hcompile⟩ := patterns_in_order
  obtain ⟨hpatterns, hops⟩ := hmerge births families hbirths hfamilies
  have hwritten : (births.merge families).expand qualifiers =
      .ok ((births.merge families).flatMapOps (writtenOut qualifiers)) :=
    expand_eq_ok.mpr ⟨by decide +kernel, rfl⟩
  have hready : ((births.merge families).compile "Births" qualifiers {} true).toOption.isSome =
      true := by decide +kernel
  obtain ⟨ready, hready⟩ := Option.isSome_iff_exists.mp hready
  replace hready := eq_ok_of_toOption hready
  obtain ⟨-, hrules, hmatch⟩ := hcompile _ _ _ _ _ ready hready
  refine ⟨hbirths, hfamilies, hnodup _ (.merge hbirths hfamilies), ?_, ?_,
    ⟨_, hwritten, hexpand _ _ _ hwritten⟩, ready, hready, hrules, ?_⟩
  · rw [hpatterns]
    decide +kernel
  · rw [hops]
    decide +kernel
  · rw [hmatch]
    decide +kernel

end RuleSets
end Gedcom.RuleSet
