import Gedcom.Proofs.Dropping
import Gedcom.Proofs.LiveRules

/-!
# What dominance means

Dominance compares two patterns by their tags: the later one is filled up with wildcards and
then read as if it were a path.  What this says about paths is `Pattern.Covers`.  A pattern
covers another one if it matches all paths that the other one matches, of those that have at
least as many tags as itself, and if there are such paths; two lone wildcards do not count.

`isDominatedBy_iff_covers` says that the two are the same.  In one direction, whatever
matches a pattern matches its filled form (`matchTags_filled`), and one match may be put
behind the other (`matchTags_trans`).  In the other direction, a single path is enough: the
witness of the pattern, with a new tag in the place of its wildcards.
-/
namespace Gedcom

/-! ## Patterns that match patterns -/

section Match
variable {earlier tags path : List String}

/-- What a pattern with a closed end is matched by, read as a path, is not longer than it. -/
theorem length_le_of_matchTags (h : matchTags earlier tags = true)
    (hclosed : tags.getLast? ≠ some wildcard) : earlier.length ≤ tags.length := by
  fun_induction matchTags earlier tags with
  | case1 => cases h
  | case2 => cases h
  | case3 p t => exact Nat.le_refl _
  | case4 p t u ts => simp
  | case5 p q ps t => exact absurd (congrArg some (beq_iff_eq.mp h)) hclosed
  | case6 p q ps t u ts ih =>
    obtain ⟨_, hrest⟩ := Bool.and_eq_true_iff.mp h
    rw [List.getLast?_cons_cons] at hclosed
    exact Nat.succ_le_succ (ih hrest hclosed)

/-- Agreeing with what agrees with a tag. -/
theorem agrees_trans {p t u : String} (hp : (p == wildcard || p == t) = true)
    (ht : (t == wildcard || t == u) = true) : (p == wildcard || p == u) = true := by
  rw [Bool.or_eq_true, beq_iff_eq, beq_iff_eq] at hp ht ⊢
  rcases hp with rfl | rfl
  · exact .inl rfl
  · exact ht

/-- **A pattern that matches another one matches what the other one matches**, if it is not
the longer of the two. -/
theorem matchTags_trans (hearlier : matchTags earlier tags = true)
    (htags : matchTags tags path = true) (hlength : earlier.length ≤ tags.length)
    (hpath : wildcard ∉ path) : matchTags earlier path = true := by
  fun_induction matchTags earlier tags generalizing path with
  | case1 => cases hearlier
  | case2 => cases hearlier
  | case3 p t =>
    rcases path with _ | ⟨u, _ | ⟨v, path⟩⟩
    · cases htags
    · exact agrees_trans hearlier htags
    · have ht : t = wildcard := beq_iff_eq.mp htags
      rwa [ht, Bool.or_self] at hearlier
  | case4 p t u ts =>
    obtain rfl : p = wildcard := beq_iff_eq.mp hearlier
    refine matchTags_wildcard ?_
    rintro rfl
    cases htags
  | case5 p q ps t => simp at hlength
  | case6 p q ps t u ts ih =>
    obtain ⟨hp, hrest⟩ := Bool.and_eq_true_iff.mp hearlier
    rcases path with _ | ⟨v, _ | ⟨w, path⟩⟩
    · cases htags
    · exact absurd (beq_iff_eq.mp htags ▸ List.mem_singleton_self v) hpath
    · obtain ⟨ht, htags⟩ := Bool.and_eq_true_iff.mp htags
      rw [matchTags, agrees_trans hp ht, Bool.true_and]
      refine ih hrest htags (Nat.le_of_succ_le_succ hlength) fun hmem => ?_
      exact hpath (List.mem_cons_of_mem _ hmem)

/-- An open end may be written as one more wildcard, if the path is long enough. -/
theorem matchTags_concat_wildcard (h : matchTags tags path = true)
    (hopen : tags.getLast? = some wildcard) (hlength : tags.length < path.length) :
    matchTags (tags ++ [wildcard]) path = true := by
  fun_induction matchTags tags path with
  | case1 => cases h
  | case2 => cases h
  | case3 p t => exact absurd hlength (Nat.lt_irrefl _)
  | case4 p t u ts =>
    obtain rfl : p = wildcard := beq_iff_eq.mp h
    exact matchTags_wildcard (List.cons_ne_nil u ts)
  | case5 p q ps t => simp at hlength
  | case6 p q ps t u ts ih =>
    obtain ⟨hp, hrest⟩ := Bool.and_eq_true_iff.mp h
    rw [List.getLast?_cons_cons] at hopen
    rw [List.cons_append, List.cons_append, matchTags, hp, Bool.true_and]
    exact ih hrest hopen (Nat.lt_of_succ_lt_succ hlength)

/-- A pattern with an open end that matches a path still does so filled up with wildcards to a
length that the path has. -/
theorem matchTags_filled (h : matchTags tags path = true) (hopen : tags.getLast? = some wildcard)
    {more : Nat} (hlength : tags.length + more ≤ path.length) :
    matchTags (tags ++ List.replicate more wildcard) path = true := by
  induction more with
  | zero =>
    rw [List.replicate_zero, List.append_nil]
    exact h
  | succ more ih =>
    have hopen' : (tags ++ List.replicate more wildcard).getLast? = some wildcard := by
      rw [List.getLast?_append, hopen, List.getLast?_replicate]
      split <;> rfl
    rw [List.replicate_succ', ← List.append_assoc]
    refine matchTags_concat_wildcard (ih (by omega)) hopen' ?_
    rw [List.length_append, List.length_replicate]
    omega

end Match

namespace Pattern
variable {p e : Pattern}

/-! ## Covering -/

/-- An earlier pattern covers a pattern: of the paths that have as many tags as the earlier
one or more, it matches all that the pattern matches. -/
structure Covers (e p : Pattern) : Prop where
  /-- They are not both lone wildcards. -/
  notLone : ¬(p.isLone = true ∧ e.isLone = true)
  /-- The pattern matches a path of this length. -/
  reaches : ∃ path, isPath path = true ∧ e.tags.length ≤ path.length ∧ p.admits path = true
  /-- Whatever it matches of this length is matched by the earlier one. -/
  admits : ∀ path, isPath path = true → e.tags.length ≤ path.length → p.admits path = true →
    e.admits path = true

/-- The witness of a pattern has at least a given number of tags, if any path that the pattern
matches has. -/
theorem length_le_witness {path : List String} (hpath : wildcard ∉ path)
    (hadmits : p.admits path = true) {n : Nat} (hn : n ≤ path.length) (tag : String) :
    n ≤ (p.witness tag n).length := by
  rw [witness, List.length_append, specimen, List.length_map, List.length_replicate]
  split
  · omega
  · rename_i hclosed
    have := length_eq_of_matchTags hadmits hclosed hpath
    omega

/-- A pattern that dominates another one covers it. -/
theorem covers_of_isDominatedBy (hp : p.wellFormed = true) (h : p.isDominatedBy e = true) :
    e.Covers p := by
  obtain ⟨hlone, hmatch⟩ := isDominatedBy_eq_true.mp h
  obtain ⟨tag, htag, _⟩ := Line.exists_isTag_notMem []
  have hnotLone : ¬(p.isLone = true ∧ e.isLone = true) := by
    rintro ⟨hplone, helone⟩
    refine hlone ⟨hplone, ?_⟩
    rw [tags_of_isLone helone]
    exact Nat.le_refl _
  by_cases hopen : p.tags.getLast? = some wildcard
  · rw [filledTo_of_open hp hopen] at hmatch
    refine ⟨hnotLone, ⟨p.witness tag e.tags.length, isPath_witness hp htag _, ?_,
      admits_witness hp tag _⟩, fun path hpath hlength hadmits => ?_⟩
    · rw [witness, if_pos hopen, List.length_append, List.length_replicate]
      exact Nat.le_add_left _ _
    · by_cases hshort : e.tags.length ≤ p.tags.length
      · rw [Nat.sub_eq_zero_of_le hshort, List.replicate_zero, List.append_nil] at hmatch
        exact matchTags_trans hmatch hadmits hshort (wildcard_notMem_of_isPath hpath)
      · refine matchTags_trans hmatch (matchTags_filled hadmits hopen (by omega)) ?_
          (wildcard_notMem_of_isPath hpath)
        rw [List.length_append, List.length_replicate]
        omega
  · -- a closed pattern is long enough itself
    rw [filledTo_of_closed hp hopen] at hmatch
    have hlong := length_le_of_matchTags hmatch hopen
    refine ⟨hnotLone, ⟨p.witness tag 0, isPath_witness hp htag _, ?_, admits_witness hp tag _⟩,
      fun path hpath _ hadmits => ?_⟩
    · rw [witness, if_neg hopen, List.replicate_zero, List.append_nil, specimen, List.length_map]
      exact hlong
    · exact matchTags_trans hmatch hadmits hlong (wildcard_notMem_of_isPath hpath)

/-- **Dominance is covering.** -/
theorem isDominatedBy_iff_covers (hp : p.wellFormed = true) (he : e.wellFormed = true) :
    p.isDominatedBy e = true ↔ e.Covers p := by
  refine ⟨covers_of_isDominatedBy hp, fun h => ?_⟩
  obtain ⟨tag, htag, hfresh⟩ := Line.exists_isTag_notMem e.tags
  obtain ⟨path, hpath, hlength, hadmits⟩ := h.reaches
  have hwitness : e.admits (p.witness tag e.tags.length) = true :=
    h.admits _ (isPath_witness hp htag _)
      (length_le_witness (wildcard_notMem_of_isPath hpath) hadmits hlength tag)
      (admits_witness hp tag _)
  exact (isDominatedBy_of_admits_witness hp he htag hfresh (Nat.le_refl _) hwitness).resolve_right
    h.notLone

/-- **The dominating pattern is the first one that covers**; there is none exactly if no
pattern covers. -/
theorem dominated_by_first_covering (hp : p.wellFormed = true) {earlier : List Pattern}
    (hearlier : ∀ e ∈ earlier, e.wellFormed = true) :
    (∀ e, p.dominatedBy? earlier = some e ↔
      ∃ before after, earlier = before ++ e :: after ∧ e.Covers p ∧ ∀ d ∈ before, ¬d.Covers p) ∧
    (p.dominatedBy? earlier = none ↔ ∀ e ∈ earlier, ¬e.Covers p) := by
  have hcovers : ∀ e ∈ earlier, (p.isDominatedBy e = true ↔ e.Covers p) :=
    fun e he => isDominatedBy_iff_covers hp (hearlier e he)
  refine ⟨fun e => ?_, ?_⟩
  · rw [dominatedBy?, List.find?_eq_some_iff_append]
    constructor
    · rintro ⟨hdominated, before, after, rfl, hbefore⟩
      refine ⟨before, after, rfl, (hcovers e (by simp)).mp hdominated, fun d hd hcovering => ?_⟩
      have hnot := hbefore d hd
      rw [(hcovers d (List.mem_append_left _ hd)).mpr hcovering] at hnot
      cases hnot
    · rintro ⟨before, after, rfl, hcovering, hbefore⟩
      refine ⟨(hcovers e (by simp)).mpr hcovering, before, after, rfl, fun d hd => ?_⟩
      rw [Bool.not_eq_true', ← Bool.not_eq_true, hcovers d (List.mem_append_left _ hd)]
      exact hbefore d hd
  · rw [dominatedBy?, List.find?_eq_none]
    exact forall₂_congr fun e he => not_congr (hcovers e he)

/-- Paths with three tags or more, of the structures of individuals, are matched by a pattern
that excludes all such paths; that it matches no shorter one does not count. -/
theorem dominated_by_first_covering_structures :
    (Pattern.mk "INDI:*").wellFormed = true ∧
      (∀ e ∈ [Pattern.mk "INDI:NAME", ⟨"!*:*:*"⟩, ⟨"*"⟩], e.wellFormed = true) ∧
      (Pattern.mk "INDI:*").dominatedBy? [⟨"INDI:NAME"⟩, ⟨"!*:*:*"⟩, ⟨"*"⟩] = some ⟨"!*:*:*"⟩ ∧
      (Pattern.mk "!*:*:*").Covers ⟨"INDI:*"⟩ ∧ ¬(Pattern.mk "INDI:NAME").Covers ⟨"INDI:*"⟩ := by
  have hp : (Pattern.mk "INDI:*").wellFormed = true := by decide
  have hearlier : ∀ e ∈ [Pattern.mk "INDI:NAME", ⟨"!*:*:*"⟩, ⟨"*"⟩], e.wellFormed = true := by
    decide
  have hfirst : (Pattern.mk "INDI:*").dominatedBy? [⟨"INDI:NAME"⟩, ⟨"!*:*:*"⟩, ⟨"*"⟩] =
      some ⟨"!*:*:*"⟩ := by
    decide
  obtain ⟨before, after, hsplit, hcovers, hbefore⟩ :=
    ((dominated_by_first_covering hp hearlier).1 _).mp hfirst
  refine ⟨hp, hearlier, hfirst, hcovers, hbefore _ ?_⟩
  cases before with
  | nil =>
    have hhead := (List.cons.inj hsplit).1
    exact absurd hhead (by decide)
  | cons d before =>
    obtain ⟨rfl, _⟩ := List.cons.inj hsplit
    exact List.mem_cons_self

end Pattern
end Gedcom
