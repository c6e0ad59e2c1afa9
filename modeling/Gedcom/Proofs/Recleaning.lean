import Gedcom.Proofs.Leftovers

/-!
# Cleaning again

A cleaner looks at the reference graph of the records as they are before it drops anything.
What it drops may change the records that are left: a record may lose all that it held, and a
record may lose the last line of use that referred to it, if that line stood below a pointer
that was dropped.  Such records are dropped only when the cleaner is applied again.

`rerun_eq_iff` says that the filter of empty or unlinked records leaves its own output as it
is exactly if none of this happens (`Lasting`).  That records are empty or unlinked from the
beginning is no reason to apply it again: what they drag along is dropped the first time.
-/
namespace Gedcom
namespace Cleaner
variable {rs qs : List Record} {r q : Record}

/-! ## Records that stay as they are -/

/-- A record has none of the pointers that are dropped. -/
theorem trimmed_eq_self_iff :
    emptyOrUnlinked.trimmed qs q = q ↔
      ∀ e ∈ q.below.entries [q.tag], looksAt e.1 = true → pointsToEmpty qs e.2 = false := by
  have hdrops : ∀ e : List String × Text, emptyOrUnlinked.drops qs e.1 e.2 = false ↔
      (looksAt e.1 = true → pointsToEmpty qs e.2 = false) := by
    intro e
    rw [drops_emptyOrUnlinked]
    cases looksAt e.1 <;> simp
  constructor
  · intro h e he
    have hbelow : q.below.without (emptyOrUnlinked.drops qs) [q.tag] = q.below :=
      congrArg Record.below h
    rw [← hbelow] at he
    exact (hdrops e).mp (Outline.drops_of_mem_entries_without he)
  · intro h
    have hbelow := Outline.without_eq_self fun e he => (hdrops e).mpr (h e he)
    rw [trimmed, hbelow]

/-- A record stays as it is if it is not dropped for its own sake and has no pointer to a
record that holds nothing. -/
theorem stays_iff :
    ¬emptyOrUnlinked.Discards qs q ∧ emptyOrUnlinked.trimmed qs q = q ↔
      (Removable q → ¬(q.isEmpty = true ∨ q.tag ≠ "INDI" ∧ Dead qs q.key)) ∧
        ∀ e ∈ q.pointerEntries, looksAt e.1 = true → pointsToEmpty qs e.2 = false := by
  rw [trimmed_eq_self_iff, Record.pointerEntries]
  cases hnamed : q.isNamed with
  | true =>
    rw [discards_of_isNamed hnamed, not_and, if_pos rfl, List.nil_append]
  | false =>
    have hnever : ¬Removable q := fun h => absurd (hnamed.symm.trans h.1) Bool.false_ne_true
    have hhead : ¬emptyOrUnlinked.Discards qs q ↔
        (looksAt [q.tag] = true → pointsToEmpty qs q.head = false) := by
      rw [discards_of_not_isNamed hnamed, drops_emptyOrUnlinked]
      cases looksAt [q.tag] <;> simp
    rw [hhead, if_neg Bool.false_ne_true, List.singleton_append, List.forall_mem_cons]
    exact ⟨fun h => ⟨fun hremovable => absurd hremovable hnever, h⟩, fun h => h.2⟩

/-- A pointer that is dropped is missing in the text. -/
theorem written_trimmed_eq_iff :
    (emptyOrUnlinked.trimmed qs q).written = q.written ↔ emptyOrUnlinked.trimmed qs q = q := by
  refine ⟨fun h => ?_, congrArg Record.written⟩
  rw [Record.written_eq, Record.written_eq] at h
  have hrest := List.append_cancel_left h
  have hbelow := Outline.without_eq_self_of_written (List.cons.inj hrest).2
  rw [trimmed, hbelow]

/-- Some of the records come out of the filter as they are if and only if every one of them
is left as it is. -/
theorem written_filterMap_eq_iff (ps : List Record) :
    (ps.filterMap (emptyOrUnlinked.remainder qs)).map Record.written = ps.map Record.written ↔
      ∀ q ∈ ps, emptyOrUnlinked.remainder qs q = some q := by
  induction ps with
  | nil => exact ⟨fun _ _ hq => absurd hq List.not_mem_nil, fun _ => rfl⟩
  | cons q ps ih =>
    rw [List.forall_mem_cons]
    cases hq : emptyOrUnlinked.remainder qs q with
    | none =>
      rw [List.filterMap_cons_none hq]
      constructor
      · -- one record fewer cannot be made up for
        intro h
        have hlength := congrArg List.length h
        have hle := List.length_filterMap_le (emptyOrUnlinked.remainder qs) ps
        rw [List.length_map, List.length_map, List.length_cons] at hlength
        omega
      · rintro ⟨hself, _⟩
        cases hself
    | some p =>
      obtain ⟨_, rfl⟩ := (remainder_eq_some rfl).mp hq
      rw [List.filterMap_cons_some hq, List.map_cons, List.map_cons, List.cons.injEq, ih,
        written_trimmed_eq_iff, Option.some.injEq]

/-- Records come out of the filter as they are if and only if every one of them stays as it
is. -/
theorem written_leftovers_eq_iff :
    (emptyOrUnlinked.leftovers qs).map Record.written = qs.map Record.written ↔
      ∀ q ∈ qs, ¬emptyOrUnlinked.Discards qs q ∧ emptyOrUnlinked.trimmed qs q = q := by
  rw [leftovers, written_filterMap_eq_iff]
  exact forall₂_congr fun q _ => remainder_eq_some rfl

/-! ## Records that change -/

/-- A record that held something and is left with nothing. -/
def Emptied (rs : List Record) (r : Record) : Prop :=
  r.isEmpty = false ∧ (emptyOrUnlinked.trimmed rs r).isEmpty = true

/-- What is dropped makes no other record empty or unlinked. -/
structure Lasting (rs : List Record) : Prop where
  /-- No record that may be dropped is left with nothing. -/
  filled : ∀ r ∈ rs, ¬emptyOrUnlinked.Discards rs r → Removable r → ¬Emptied rs r
  /-- No pointer at which the filter looks is left that leads to a record left with nothing. -/
  pointers : ∀ r ∈ rs, ¬emptyOrUnlinked.Discards rs r →
    ∀ e ∈ (emptyOrUnlinked.trimmed rs r).pointerEntries, looksAt e.1 = true →
      ∀ s ∈ rs, ¬emptyOrUnlinked.Discards rs s → Emptied rs s → Line.target? e.2 ≠ some s.key
  /-- Every record that may be dropped as unlinked is still of use among those that are left. -/
  linked : ∀ r ∈ rs, ¬emptyOrUnlinked.Discards rs r → Removable r → r.tag ≠ "INDI" →
    ¬Dead (emptyOrUnlinked.leftovers rs) r.key

/-- A pointer that is left leads to a record that holds nothing only if that record has become
empty. -/
theorem pointsToEmpty_leftovers (hstays : ¬emptyOrUnlinked.Discards rs r)
    {e : List String × Text} (he : e ∈ (emptyOrUnlinked.trimmed rs r).pointerEntries)
    (hlooks : looksAt e.1 = true) :
    pointsToEmpty (emptyOrUnlinked.leftovers rs) e.2 = true ↔
      ∃ s ∈ rs, ¬emptyOrUnlinked.Discards rs s ∧ Emptied rs s ∧
        Line.target? e.2 = some s.key := by
  have hbefore := pointsToEmpty_of_mem_pointerEntries hstays he hlooks
  rw [pointsToEmpty_eq_true]
  constructor
  · rintro ⟨q, hq, htarget, hempty⟩
    obtain ⟨s, hs, hsstays, rfl⟩ := (mem_leftovers rfl).mp hq
    refine ⟨s, hs, hsstays, ⟨?_, hempty⟩, htarget⟩
    by_contra hsempty
    have hvoid := pointsToEmpty_eq_true.mpr ⟨s, hs, htarget, Bool.not_eq_false _ ▸ hsempty⟩
    rw [hbefore] at hvoid
    cases hvoid
  · rintro ⟨s, hs, hsstays, hemptied, htarget⟩
    exact ⟨_, (mem_leftovers rfl).mpr ⟨s, hs, hsstays, rfl⟩, htarget, hemptied.2⟩

/-- A record that is left and may be dropped is empty only if it has become so. -/
theorem isEmpty_trimmed_iff (hstays : ¬emptyOrUnlinked.Discards rs r) (hr : Removable r) :
    (emptyOrUnlinked.trimmed rs r).isEmpty = true ↔ Emptied rs r := by
  refine ⟨fun hempty => ⟨?_, hempty⟩, fun h => h.2⟩
  by_contra hbefore
  exact hstays ((discards_of_removable hr).mpr (.inl (Bool.not_eq_false _ ▸ hbefore)))

/-- What is left stays as it is exactly if nothing that is dropped makes another record empty
or unlinked. -/
theorem leftovers_stay_iff :
    (∀ q ∈ emptyOrUnlinked.leftovers rs,
        ¬emptyOrUnlinked.Discards (emptyOrUnlinked.leftovers rs) q ∧
          emptyOrUnlinked.trimmed (emptyOrUnlinked.leftovers rs) q = q) ↔ Lasting rs := by
  constructor
  · intro h
    have hstay : ∀ r ∈ rs, ¬emptyOrUnlinked.Discards rs r → _ :=
      fun r hr hstays => stays_iff.mp (h _ ((mem_leftovers rfl).mpr ⟨r, hr, hstays, rfl⟩))
    refine ⟨fun r hr hstays hremovable hemptied => ?_, ?_, ?_⟩
    · exact (hstay r hr hstays).1 hremovable (.inl hemptied.2)
    · intro r hr hstays e he hlooks s hs hsstays hemptied htarget
      have hvoid := (pointsToEmpty_leftovers hstays he hlooks).mpr
        ⟨s, hs, hsstays, hemptied, htarget⟩
      rw [(hstay r hr hstays).2 e he hlooks] at hvoid
      cases hvoid
    · intro r hr hstays hremovable hperson hdead
      exact (hstay r hr hstays).1 hremovable (.inr ⟨hperson, hdead⟩)
  · intro h q hq
    obtain ⟨r, hr, hstays, rfl⟩ := (mem_leftovers rfl).mp hq
    refine stays_iff.mpr ⟨?_, fun e he hlooks => ?_⟩
    · rintro hremovable (hempty | ⟨hperson, hdead⟩)
      · exact h.filled r hr hstays hremovable
          ((isEmpty_trimmed_iff hstays hremovable).mp hempty)
      · exact h.linked r hr hstays hremovable hperson hdead
    · by_contra hvoid
      obtain ⟨s, hs, hsstays, hemptied, htarget⟩ :=
        (pointsToEmpty_leftovers hstays he hlooks).mp (Bool.not_eq_false _ ▸ hvoid)
      exact h.pointers r hr hstays e he hlooks s hs hsstays hemptied htarget

/-- **When cleaning again changes nothing.**  The filter may be applied to what it left; the
result is the same exactly if nothing that was dropped made another record empty or
unlinked. -/
theorem rerun_eq_iff (ps : Params) (d : Transmission) {ts : List Text}
    (hts : ts.flatMap recordBlocks = recordBlocks d.text)
    (hkeys : ((records d.text).map Record.key).Nodup) (s : Run) :
    ∃ outs trace s', (emptyOrUnlinked.toFilter.run ps ts).run s = (.ok (outs, trace), s') ∧
      ∀ s₁, ∃ again trace₁ s₂,
        (emptyOrUnlinked.toFilter.run ps outs).run s₁ = (.ok (again, trace₁), s₂) ∧
          (again = outs ↔ Lasting (records d.text)) := by
  have hdelivers := d.delivers hts
  obtain ⟨trace, s', hrun⟩ := emptyOrUnlinked.run_toFilter_of_delivers ps hdelivers hkeys s
  refine ⟨_, trace, s', hrun, fun s₁ => ?_⟩
  have hleft := delivers_leftovers (k := emptyOrUnlinked) rfl hdelivers.legible
  have hleftkeys := nodup_leftovers (k := emptyOrUnlinked) rfl hkeys
  obtain ⟨trace₁, s₂, hrerun⟩ := emptyOrUnlinked.run_toFilter_of_delivers ps hleft hleftkeys s₁
  exact ⟨_, trace₁, s₂, hrerun, written_leftovers_eq_iff.trans leftovers_stay_iff⟩

/-- An estate is clean after one application. -/
theorem rerun_eq_iff_estate :
    ((records estate.text).map Record.key).Nodup ∧
      (∃ outs trace s', (emptyOrUnlinked.toFilter.run {} (recordBlocks estate.text)).run {} =
          (.ok (outs, trace), s') ∧
        ∃ trace₁ s₂, (emptyOrUnlinked.toFilter.run {} outs).run {} = (.ok (outs, trace₁), s₂)) ∧
      Lasting (records estate.text) := by
  have hkeys : ((records estate.text).map Record.key).Nodup := by decide +kernel
  have hfirst : ((emptyOrUnlinked.toFilter.run {} (recordBlocks estate.text)).run
      {}).1.toOption.map (·.1) =
        some (["0 HEAD\n", "0 @I1@ INDI\n1 NAME Ada\n", "0 TRLR\n"].map String.toList) := by
    decide +kernel
  have hsecond : ((emptyOrUnlinked.toFilter.run {} (["0 HEAD\n", "0 @I1@ INDI\n1 NAME Ada\n",
      "0 TRLR\n"].map String.toList)).run {}).1.toOption.map (·.1) =
        some (["0 HEAD\n", "0 @I1@ INDI\n1 NAME Ada\n", "0 TRLR\n"].map String.toList) := by
    decide +kernel
  obtain ⟨outs, trace, s', hrun, hagain⟩ :=
    rerun_eq_iff {} estate estate.flatMap_recordBlocks hkeys {}
  obtain ⟨again, trace₁, s₂, hrerun, hiff⟩ := hagain {}
  rw [hrun] at hfirst
  obtain rfl := Option.some.inj hfirst
  rw [hrerun] at hsecond
  obtain rfl := Option.some.inj hsecond
  exact ⟨hkeys, ⟨_, trace, s', hrun, trace₁, s₂, hrerun⟩, hiff.mp rfl⟩

/-- An individual of whom nothing is told but a note that holds nothing. -/
def hollow : Transmission where
  lines := ["0 HEAD", "0 @I1@ INDI", "1 NOTE @N1@", "0 @N1@ NOTE", "0 TRLR"].map String.toList
  stepwise := by decide

/-- The filter drops the note and the pointer to it; only when it is applied again does it
drop the individual, which now holds nothing. -/
theorem not_rerun_eq_hollow :
    ((records hollow.text).map Record.key).Nodup ∧
      ((emptyOrUnlinked.toFilter.run {} (recordBlocks hollow.text)).run {}).1.toOption.map (·.1) =
        some (["0 HEAD\n", "0 @I1@ INDI\n", "0 TRLR\n"].map String.toList) ∧
      ((emptyOrUnlinked.toFilter.run {}
          (["0 HEAD\n", "0 @I1@ INDI\n", "0 TRLR\n"].map String.toList)).run
            {}).1.toOption.map (·.1) =
        some (["0 HEAD\n", "0 TRLR\n"].map String.toList) := by
  refine ⟨?_, ?_, ?_⟩ <;> decide +kernel

end Cleaner
end Gedcom
