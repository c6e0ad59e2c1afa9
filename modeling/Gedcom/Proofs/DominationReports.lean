import Gedcom.Proofs.Coverage

/-!
# Rules that are reported as dominated

A rule set is refused when an earlier rule dominates a later one, with the words that the later
rule will never be executed.  Dominance looks at long paths only, though: a pattern that ends in a
wildcard is filled up to the length of the earlier one, and what it matches below this length is
passed over.  Such a report is conservative.

What the words promise is `Pattern.Hides`: the earlier pattern matches whatever the later one
matches.  By the tags this is dominance without filling up (`hides_iff`), and a rule is out of
reach exactly if a single rule in front of it hides it (`exists_path_iff`).  So
`reachable_of_dominated` can tell which reports are right: all of those about a pattern that was
not filled up, and of the others those behind a shorter pattern that would do.
-/
namespace Gedcom

namespace Pattern
variable {p e : Pattern}

/-- A pattern hides another one if it matches all paths that the other one matches. -/
def Hides (e p : Pattern) : Prop :=
  ∀ path, isPath path = true → p.admits path = true → e.admits path = true

/-- What matches a path of a line has no more tags than the path. -/
theorem length_le_of_admits {path : List String} (hpath : isPath path = true)
    (hadmits : e.admits path = true) : e.tags.length ≤ path.length :=
  length_le_of_matchTags hadmits fun hlast =>
    wildcard_notMem_of_isPath hpath (List.mem_of_getLast? hlast)

/-- A pattern that is not longer than another one, and matches it as if it were a path, hides
it. -/
theorem hides_of_matchTags (hlength : e.tags.length ≤ p.tags.length)
    (hmatch : matchTags e.tags p.tags = true) : e.Hides p := fun _ hpath hadmits =>
  matchTags_trans hmatch hadmits hlength (wildcard_notMem_of_isPath hpath)

/-- What matches the shortest witness of a pattern hides the pattern. -/
theorem hides_of_admits_witness (hp : p.wellFormed = true) {tag : String}
    (htag : Line.isTag tag = true) (hfresh : tag ∉ e.tags)
    (hadmits : e.admits (p.witness tag 0) = true) :
    e.tags.length ≤ p.tags.length ∧ matchTags e.tags p.tags = true := by
  have hwitness : p.witness tag 0 = specimen tag p.tags := by
    rw [witness, ite_self, List.replicate_zero, List.append_nil]
  have hlength := length_le_of_admits (isPath_witness hp htag 0) hadmits
  rw [hwitness, specimen, List.length_map] at hlength
  rw [admits, hwitness] at hadmits
  exact ⟨hlength, matchTags_of_specimen (Line.ne_wildcard_of_isTag htag) hfresh hadmits⟩

/-- **Hiding by the tags**: the pattern matches the other one as it is written, and is not the
longer of the two. -/
theorem hides_iff (hp : p.wellFormed = true) :
    e.Hides p ↔ e.tags.length ≤ p.tags.length ∧ matchTags e.tags p.tags = true := by
  constructor
  · intro h
    obtain ⟨tag, htag, hfresh⟩ := Line.exists_isTag_notMem e.tags
    exact hides_of_admits_witness hp htag hfresh
      (h _ (isPath_witness hp htag 0) (admits_witness hp tag 0))
  · rintro ⟨hlength, hmatch⟩
    exact hides_of_matchTags hlength hmatch

/-- **Several patterns hide nothing together**: if none of them hides a pattern, it matches a path
that none of them matches. -/
theorem exists_path_iff (hp : p.wellFormed = true) (earlier : List Pattern) :
    (∃ path, isPath path = true ∧ p.admits path = true ∧ ∀ e ∈ earlier, e.admits path = false) ↔
      ∀ e ∈ earlier, ¬e.Hides p := by
  constructor
  · rintro ⟨path, hpath, hadmits, hbefore⟩ e he hhides
    have hfalse := hbefore e he
    rw [hhides path hpath hadmits] at hfalse
    cases hfalse
  · intro h
    -- the witness has a tag that stands in none of the patterns
    obtain ⟨tag, htag, hfresh⟩ := Line.exists_isTag_notMem (earlier.flatMap tags)
    refine ⟨p.witness tag 0, isPath_witness hp htag 0, admits_witness hp tag 0, fun e he => ?_⟩
    by_contra hadmits
    have hfresh' : tag ∉ e.tags := fun hmem => hfresh (List.mem_flatMap.mpr ⟨e, he, hmem⟩)
    obtain ⟨hlength, hmatch⟩ :=
      hides_of_admits_witness hp htag hfresh' (Bool.not_eq_false _ ▸ hadmits)
    exact h e he (hides_of_matchTags hlength hmatch)

/-- A pattern that dominates another one hides it, if the other one need not be filled up. -/
theorem hides_of_isDominatedBy (hp : p.wellFormed = true) (h : p.isDominatedBy e = true)
    (hfull : p.tags.getLast? ≠ some wildcard ∨ e.tags.length ≤ p.tags.length) : e.Hides p := by
  obtain ⟨_, hmatch⟩ := isDominatedBy_eq_true.mp h
  by_cases hopen : p.tags.getLast? = some wildcard
  · have hlength := hfull.resolve_left (not_not_intro hopen)
    rw [filledTo_of_open hp hopen, Nat.sub_eq_zero_of_le hlength, List.replicate_zero,
      List.append_nil] at hmatch
    exact hides_of_matchTags hlength hmatch
  · rw [filledTo_of_closed hp hopen] at hmatch
    exact hides_of_matchTags (length_le_of_matchTags hmatch hopen) hmatch

/-- What matches nothing but wildcards, read as a path, has no tag in it. -/
theorem eq_wildcard_of_matchTags {tags : List String} {n : Nat}
    (h : matchTags tags (List.replicate n wildcard) = true) (hlength : tags.length ≤ n) :
    ∀ tag ∈ tags, tag = wildcard := by
  have hagrees : ∀ {p : String}, (p == wildcard || p == wildcard) = true → p = wildcard := by
    intro p hp
    rwa [Bool.or_self, beq_iff_eq] at hp
  induction tags generalizing n with
  | nil => exact List.forall_mem_nil _
  | cons p ps ih =>
    cases ps with
    | nil =>
      refine List.forall_mem_singleton.mpr ?_
      rcases n with _ | _ | n
      · simp at hlength
      · exact hagrees h
      · exact beq_iff_eq.mp h
    | cons q qs =>
      obtain ⟨n, rfl⟩ : ∃ k, n = k + 2 := ⟨n - 2, by simp at hlength; omega⟩
      obtain ⟨hp, hrest⟩ := Bool.and_eq_true_iff.mp h
      have hrest : matchTags (q :: qs) (List.replicate (n + 1) wildcard) = true := hrest
      exact List.forall_mem_cons.mpr ⟨hagrees hp, ih hrest (Nat.le_of_succ_le_succ hlength)⟩

/-- A lone wildcard is dominated by nothing that has a tag in it. -/
theorem dominatedBy?_of_isLone (hp : p.isLone = true) {earlier : List Pattern}
    (h : ∀ e ∈ earlier, ∃ tag ∈ e.tags, tag ≠ wildcard) : p.dominatedBy? earlier = none := by
  rw [dominatedBy?, List.find?_eq_none]
  intro e he hdominated
  obtain ⟨_, hmatch⟩ := isDominatedBy_eq_true.mp hdominated
  obtain ⟨tag, htag, hne⟩ := h e he
  have hfilled : p.filledTo e.tags.length =
      List.replicate (1 + (e.tags.length - 1)) wildcard := by
    rw [filledTo, beq_iff_eq.mp hp, if_pos (by rfl), tags_of_isLone hp, List.replicate_add]
    rfl
  rw [hfilled] at hmatch
  exact hne (eq_wildcard_of_matchTags hmatch (by omega) tag htag)

end Pattern

namespace RuleSet
variable {filter : String} {macros : Macros} {hasHook : Bool}

/-! ## Where a report comes from -/

/-- A report is about the first rule that is dominated, and all patterns up to it are well
formed. -/
theorem exists_of_ruleFault?_dominated {earlier : List Pattern} {rs : List Rule} {f p e : String}
    (h : ruleFault? filter macros hasHook earlier rs = some (.dominated f p e)) :
    f = filter ∧ ∃ before r after, rs = before ++ r :: after ∧ r.pattern = p ∧
      (Pattern.mk p).wellFormed = true ∧
      (Pattern.mk p).dominatedBy? (earlier ++ before.map (⟨·.pattern⟩)) = some ⟨e⟩ := by
  induction rs generalizing earlier with
  | nil => cases h
  | cons r rs ih =>
    rw [ruleFault?] at h
    cases hproblem : r.problem? macros hasHook with
    | some problem =>
      rw [hproblem] at h
      cases h
    | none =>
      rw [hproblem] at h
      cases hdominated : (Pattern.mk r.pattern).dominatedBy? earlier with
      | some d =>
        rw [hdominated] at h
        cases h
        refine ⟨rfl, [], r, rs, rfl, rfl, wellFormed_of_problem? hproblem, ?_⟩
        rw [List.map_nil, List.append_nil]
        exact hdominated
      | none =>
        rw [hdominated] at h
        obtain ⟨hf, before, q, after, rfl, hq, hwell, hfirst⟩ := ih h
        refine ⟨hf, r :: before, q, after, rfl, hq, hwell, ?_⟩
        rw [List.append_assoc] at hfirst
        exact hfirst

/-- A report names a pattern of the rule set, and one that stands in front of it and dominates
it. -/
theorem exists_of_validate_dominated {s : RuleSet} {f p e : String}
    (h : s.validate filter macros hasHook = .error (.dominated f p e)) :
    f = filter ∧ ∃ i, s.patterns[i]? = some p ∧ e ∈ s.patterns.take i ∧
      (Pattern.mk p).wellFormed = true ∧ (Pattern.mk p).isDominatedBy ⟨e⟩ = true := by
  have hfault : ruleFault? filter macros hasHook [] s.rules = some (.dominated f p e) := by
    unfold validate fault? at h
    split at h
    · rename_i fault hfault
      obtain rfl := Except.error.inj h
      split at hfault
      · cases hfault
      · split at hfault
        · cases hfault
        · exact hfault
    · cases h
  obtain ⟨hf, before, r, after, hrules, rfl, hwell, hfirst⟩ :=
    exists_of_ruleFault?_dominated hfault
  have hpatterns : s.patterns = before.map (·.pattern) ++ r.pattern :: after.map (·.pattern) := by
    rw [patterns, hrules, List.map_append, List.map_cons]
  have hlength : before.length = (before.map (·.pattern)).length := (List.length_map _).symm
  refine ⟨hf, before.length, ?_, ?_, hwell, List.find?_some hfirst⟩
  · rw [hpatterns, hlength, List.getElem?_append_right (Nat.le_refl _), Nat.sub_self]
    rfl
  · obtain ⟨q, hq, hpattern⟩ := List.mem_map.mp (List.mem_of_find?_eq_some hfirst)
    rw [hpatterns, hlength, List.take_left']
    · exact List.mem_map.mpr ⟨q, hq, congrArg Pattern.text hpattern⟩
    · rfl

/-! ## What a report says -/

/-- **What it means to be reported.**  If a rule set is refused because one pattern dominates
another, then both are patterns of the rule set, the dominating one in front.  It matches every
path that the other one matches, of those with at least as many tags as itself; it matches all of
them, and the report is right, unless the other one ends in a wildcard and is shorter.  A rule
that is reported can be the first to match some path exactly if no rule in front of it hides its
pattern, and this can be told by the tags.

A lone wildcard is not reported behind patterns each of which has a tag in it. -/
theorem reachable_of_dominated {s : RuleSet} {f p e : String}
    (h : s.validate filter macros hasHook = .error (.dominated f p e)) :
    (f = filter ∧ ∃ i, s.patterns[i]? = some p ∧ e ∈ s.patterns.take i ∧
      (∀ path, isPath path = true → (Pattern.mk e).tags.length ≤ path.length →
        (Pattern.mk p).admits path = true → (Pattern.mk e).admits path = true) ∧
      ((Pattern.mk p).tags.getLast? ≠ some wildcard ∨
          (Pattern.mk e).tags.length ≤ (Pattern.mk p).tags.length →
        ∀ path, isPath path = true → (Pattern.mk p).admits path = true →
          (Pattern.mk e).admits path = true) ∧
      ((∃ path, isPath path = true ∧
          s.patterns.findIdx? (fun q => (Pattern.mk q).admits path) = some i) ↔
        ∀ d ∈ s.patterns.take i, (Pattern.mk d).tags.length ≤ (Pattern.mk p).tags.length →
          matchTags (Pattern.mk d).tags (Pattern.mk p).tags = false)) ∧
      ∀ (lone : Pattern) (earlier : List Pattern), lone.isLone = true →
        (∀ d ∈ earlier, ∃ tag ∈ d.tags, tag ≠ wildcard) → lone.dominatedBy? earlier = none := by
  obtain ⟨hf, i, hp, he, hwell, hdominated⟩ := exists_of_validate_dominated h
  refine ⟨⟨hf, i, hp, he, ?_, ?_, ?_⟩, fun _ _ hlone hearlier =>
    Pattern.dominatedBy?_of_isLone hlone hearlier⟩
  · exact (Pattern.covers_of_isDominatedBy hwell hdominated).admits
  · exact Pattern.hides_of_isDominatedBy hwell hdominated
  · have hreach := Pattern.exists_path_iff hwell ((s.patterns.take i).map Pattern.mk)
    rw [List.forall_mem_map] at hreach
    simp only [findIdx?_patterns hp, List.forall_mem_map] at hreach ⊢
    rw [hreach]
    refine forall₂_congr fun d _ => ?_
    rw [Pattern.hides_iff hwell, not_and, Bool.not_eq_true]

/-- The rule for all structures of individuals is reported because of a rule for deeper ones, and
decides on births all the same. -/
theorem reachable_of_dominated_structures :
    let s := ofPatterns ["INDI:NAME", "!*:*:*", "INDI:*"]
    s.validate "Structures" {} false = .error (.dominated "Structures" "INDI:*" "!*:*:*") ∧
      (∃ path, isPath path = true ∧
        s.patterns.findIdx? (fun q => (Pattern.mk q).admits path) = some 2) ∧
      (Pattern.mk "*").dominatedBy? [⟨"INDI:NAME"⟩, ⟨"!*:CHAN:*"⟩] = none := by
  intro s
  have hreport : s.validate "Structures" {} false =
      .error (.dominated "Structures" "INDI:*" "!*:*:*") := by
    rfl
  obtain ⟨⟨_, i, hp, _, _, _, hreach⟩, hlone⟩ := reachable_of_dominated hreport
  have hi : i = 2 := by
    rcases i with _ | _ | _ | i
    · exact absurd hp (by decide)
    · exact absurd hp (by decide)
    · rfl
    · cases hp
  subst hi
  exact ⟨hreport, hreach.mpr (by decide), hlone ⟨"*"⟩ _ (by decide) (by decide)⟩

/-- Filled up, the rule for all structures of individuals is dominated by the rule for deeper
ones.  It matches names, and no rule in front of it does. -/
theorem not_hidden_structures :
    let s := ofPatterns ["INDI:*:*", "INDI:*"]
    s.validate "Structures" {} false = .error (.dominated "Structures" "INDI:*" "INDI:*:*") ∧
      isPath ["INDI", "NAME"] = true ∧ (Pattern.mk "INDI:*").admits ["INDI", "NAME"] = true ∧
      s.patterns.findIdx? (fun q => (Pattern.mk q).admits ["INDI", "NAME"]) = some 1 := by
  intro s
  refine ⟨by rfl, by decide, by decide, by decide⟩

end RuleSet
end Gedcom
