import Gedcom.Proofs.TagRemoval

/-!
# Restriction notices

The rules that remove restriction notices list the tag without companions, and for three depths
only.  So of a notice the line alone is dropped, and what stands below it stays; and a notice
on level four or deeper stays itself.  `run_removeRestrictions` says which lines are left, and
when no notice is among them.
-/
namespace Gedcom.Catalog

/-- Wildcards with a tag behind them match the paths of their length that end in the tag. -/
theorem tagsAgree_deepTags_iff {tag : String} (htag : tag ≠ wildcard) {depth : Nat}
    {path : List String} :
    tagsAgree (deepTags depth tag) path = true ↔
      path.length = depth + 1 ∧ path.getLast? = some tag := by
  have hlast : path.length = depth + 1 →
      (path.getLast? = some tag ↔ tagsAgree (deepTags depth tag) path = true) := by
    intro hpath
    have hagree : tagsAgree (deepTags depth tag) (path.take (depth + 1)) = true ↔
        path[depth]? = some tag :=
      tagsAgree_deepTags htag depth
    rw [List.take_of_length_le (Nat.le_of_eq hpath)] at hagree
    rw [hagree, List.getLast?_eq_getElem?, hpath, Nat.add_sub_cancel]
  constructor
  · intro h
    have hpath := (length_eq_of_tagsAgree h).symm.trans (length_deepTags depth tag)
    exact ⟨hpath, (hlast hpath).mpr h⟩
  · rintro ⟨hpath, h⟩
    exact (hlast hpath).mp h

/-- **Which lines are dropped as restriction notices**: those with the tag on the levels one to
three. -/
theorem firstMatch_removeRestrictions (ps : Params) {path : List String} (hne : path ≠ [])
    (hpath : wildcard ∉ path) :
    firstMatch ((removeRestrictions.rules ps).patterns.map Pattern.mk) path = none ↔
      path.getLast? = some "RESN" ∧ 2 ≤ path.length ∧ path.length ≤ 4 := by
  have htag : Line.isTag "RESN" = true := by decide
  have hresn := Line.ne_wildcard_of_isTag htag
  have hpatterns : (removeRestrictions.rules ps).patterns.map Pattern.mk =
      ([1, 2, 3].map fun depth => Pattern.mk ("!" ++ deep depth "RESN")) ++ [⟨"*"⟩] := rfl
  have hadmits : ∀ depth, Pattern.admits ⟨"!" ++ deep depth "RESN"⟩ path = true ↔
      path.length = depth + 1 ∧ path.getLast? = some "RESN" := by
    intro depth
    rw [Pattern.admits, (tags_excluding htag depth).1,
      matchTags_eq_tagsAgree (deepTags_ne_nil _ _) (getLast?_deepTags hresn depth) hpath,
      tagsAgree_deepTags_iff hresn]
  rw [hpatterns, firstMatch_concat_wildcard _ hne]
  · rw [List.map_cons, List.map_cons, List.map_singleton, List.exists_mem_cons_iff,
      List.exists_mem_cons_iff, List.exists_mem_cons_iff, hadmits, hadmits, hadmits]
    simp only [List.not_mem_nil, false_and, exists_false, or_false, ← or_and_right]
    rw [and_comm]
    refine and_congr_right fun _ => ?_
    omega
  · rw [List.forall_mem_map]
    exact fun depth _ => (Pattern.body_excluding _).2

/-- The lines below the line of a record, without the restriction notices that are dropped. -/
def unrestricted (r : Record) : List Text :=
  ((r.below.entries [r.tag]).filter fun e =>
    ¬(Line.tagOf e.2 = "RESN" ∧ e.1.length ≤ 4)).map (·.2)

section Unrestricted
variable {r : Record} {e : List String × Text}

theorem two_le_length_of_mem_below (he : e ∈ r.below.entries [r.tag]) : 2 ≤ e.1.length := by
  obtain ⟨⟨rest, hrest⟩, hne⟩ := Outline.prefix_of_mem_entries he
  cases rest with
  | nil => exact absurd hrest.symm hne
  | cons t ts =>
    rw [← hrest]
    simp

theorem keptLines_removeRestrictions (ps : Params) (hr : r.isLegible = true) :
    keptLines ((removeRestrictions.rules ps).patterns.map Pattern.mk) r.entries =
      r.head :: unrestricted r := by
  have hentries : r.entries = ([r.tag], r.head) :: r.below.entries [r.tag] := rfl
  have hmatch : ∀ e ∈ r.entries,
      firstMatch ((removeRestrictions.rules ps).patterns.map Pattern.mk) e.1 = none ↔
        Line.tagOf e.2 = "RESN" ∧ 2 ≤ e.1.length ∧ e.1.length ≤ 4 := by
    intro e he
    rw [firstMatch_removeRestrictions ps (Record.ne_nil_of_mem_entries he)
      (Record.wildcard_notMem_of_mem_entries hr he), Record.getLast?_of_mem_entries he,
      Option.some.injEq]
  have hhead :
      firstMatch ((removeRestrictions.rules ps).patterns.map Pattern.mk) [r.tag] ≠ none := by
    rw [ne_eq, hmatch ([r.tag], r.head) (hentries ▸ List.mem_cons_self)]
    exact fun h => absurd h.2.1 (by simp)
  rw [hentries, keptLines_cons, if_pos (Option.isSome_iff_ne_none.mpr hhead), List.singleton_append,
    keptLines, unrestricted]
  refine congrArg (fun es => r.head :: List.map Prod.snd es) (List.filter_congr fun e he => ?_)
  rw [Bool.eq_iff_iff, Option.isSome_iff_ne_none, ne_eq,
    hmatch e (hentries ▸ List.mem_cons_of_mem _ he), decide_eq_true_eq]
  simp only [two_le_length_of_mem_below he, true_and]

/-- A line with no restriction notice on its path is kept. -/
theorem unrestricted_spares (r : Record) :
    (((r.below.entries [r.tag]).filter fun e => "RESN" ∉ e.1.tail).map (·.2)).Sublist
      (unrestricted r) := by
  have hkept : ∀ e ∈ r.below.entries [r.tag], "RESN" ∉ e.1.tail →
      ¬(Line.tagOf e.2 = "RESN" ∧ e.1.length ≤ 4) := by
    rintro e he hspared ⟨htag, _⟩
    have hlength := two_le_length_of_mem_below he
    have hlast := Outline.getLast?_of_mem_entries he
    match hpath : e.1 with
    | [] => simp [hpath] at hlength
    | [t] => simp [hpath] at hlength
    | t :: u :: us =>
      rw [hpath, List.getLast?_cons_cons, htag] at hlast
      rw [hpath] at hspared
      exact hspared (List.mem_of_getLast? hlast)
  have hfilter : (r.below.entries [r.tag]).filter (fun e => "RESN" ∉ e.1.tail) =
      ((r.below.entries [r.tag]).filter fun e =>
        ¬(Line.tagOf e.2 = "RESN" ∧ e.1.length ≤ 4)).filter fun e => "RESN" ∉ e.1.tail := by
    rw [List.filter_filter]
    refine List.filter_congr fun e he => ?_
    rw [Bool.eq_iff_iff, Bool.and_eq_true, decide_eq_true_eq, decide_eq_true_eq]
    exact (and_iff_left_of_imp (hkept e he)).symm
  rw [hfilter]
  exact List.filter_sublist.map _

/-- No restriction notice is left if none stands deeper than on level three. -/
theorem forall_unrestricted_iff (r : Record) :
    (∀ l ∈ unrestricted r, Line.tagOf l ≠ "RESN") ↔
      ∀ e ∈ r.below.entries [r.tag], Line.tagOf e.2 = "RESN" → e.1.length ≤ 4 := by
  simp only [unrestricted, List.forall_mem_map, List.mem_filter, decide_eq_true_eq, and_imp]
  refine forall₂_congr fun e _ => ?_
  constructor
  · intro h htag
    by_contra hdeep
    exact h (fun hkept => hdeep hkept.2) htag
  · intro h hkept htag
    exact hkept ⟨htag, h htag⟩

end Unrestricted

/-- **Restriction notices.**  Of every record the line is left and, as they were and in their
order, the lines below it but for the restriction notices on the levels one to three.  So
whatever has no such notice on its path is left.  No notice is left below a record line if and
only if none stands deeper. -/
theorem run_removeRestrictions (ps : Params) (d : Transmission) {ts : List Text}
    (hts : ts.flatMap recordBlocks = recordBlocks d.text) (s : Run) :
    ∃ trace s', (removeRestrictions.run ps ts).run s =
        (.ok ((records d.text).map fun r => Text.unlines (r.head :: unrestricted r), trace), s') ∧
      (∀ r ∈ records d.text,
        (((r.below.entries [r.tag]).filter fun e => "RESN" ∉ e.1.tail).map (·.2)).Sublist
          (unrestricted r)) ∧
      ((∀ r ∈ records d.text, ∀ l ∈ unrestricted r, Line.tagOf l ≠ "RESN") ↔
        ∀ r ∈ records d.text, ∀ e ∈ r.below.entries [r.tag],
          Line.tagOf e.2 = "RESN" → e.1.length ≤ 4) := by
  have hdelivers := d.delivers hts
  have hvalid : removeRestrictions.validate ps = .ok () := rfl
  have hops : ∀ r ∈ (removeRestrictions.rules ps).rules, r.ops = [] :=
    (by decide : ∀ r ∈ (removeRestrictions.rules {}).rules, r.ops = [])
  obtain ⟨a, ha, hrules, happly⟩ := Filter.exists_application_of_idle hvalid hops
  obtain ⟨trace, s', hrun⟩ := Application.exists_run_of_idle ha hdelivers s
  have hkept : ∀ r ∈ records d.text, keptLines a.rules.patterns r.entries =
      r.head :: unrestricted r := by
    intro r hr
    rw [hrules, keptLines_removeRestrictions ps (hdelivers.legible r hr)]
  have hleftovers : a.leftovers (records d.text) =
      (records d.text).map fun r => r.head :: unrestricted r := by
    rw [Application.leftovers, List.map_congr_left hkept, List.filter_eq_self, List.forall_mem_map]
    exact fun _ _ => rfl
  refine ⟨trace, s', ?_, fun r _ => unrestricted_spares r, ?_⟩
  · rw [happly, hrun, hleftovers, List.map_map]
    rfl
  · exact forall₂_congr fun r _ => forall_unrestricted_iff r

/-- An individual with restriction notices on the levels one to three. -/
def secret : Transmission where
  lines := ["0 @I1@ INDI", "1 RESN privacy", "1 BIRT", "2 RESN privacy", "2 SOUR @S1@",
    "3 RESN locked", "3 PAGE 7"].map String.toList
  stepwise := by decide

/-- All of them are dropped. -/
theorem run_removeRestrictions_secret :
    (∃ trace s', (removeRestrictions.run {} (recordBlocks secret.text)).run {} =
        (.ok ((records secret.text).map fun r => Text.unlines (r.head :: unrestricted r), trace),
          s') ∧
      ∀ r ∈ records secret.text, ∀ l ∈ unrestricted r, Line.tagOf l ≠ "RESN") ∧
      ((removeRestrictions.run {} (recordBlocks secret.text)).run {}).1.toOption.map (·.1) =
        some ["0 @I1@ INDI\n1 BIRT\n2 SOUR @S1@\n3 PAGE 7\n".toList] := by
  obtain ⟨trace, s', hrun, _, hnone⟩ :=
    run_removeRestrictions {} secret secret.flatMap_recordBlocks {}
  exact ⟨⟨trace, s', hrun, hnone.mpr (by decide +kernel)⟩, by decide +kernel⟩

/-- A birth whose source keeps its data secret. -/
def sealed : Transmission where
  lines := ["0 @I1@ INDI", "1 BIRT", "2 SOUR @S1@", "3 DATA", "4 RESN privacy"].map String.toList
  stepwise := by decide

/-- A restriction notice on level four is left. -/
theorem not_forall_unrestricted_sealed :
    ((removeRestrictions.run {} (recordBlocks sealed.text)).run {}).1.toOption.map (·.1) =
        some [sealed.text] ∧
      ∃ l ∈ (Text.lines sealed.text).tail, Line.tagOf l = "RESN" := by
  refine ⟨?_, ?_⟩ <;> decide +kernel

end Gedcom.Catalog
