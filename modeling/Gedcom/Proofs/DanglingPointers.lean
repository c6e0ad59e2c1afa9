import Gedcom.Proofs.Leftovers

/-!
# Pointers that lead nowhere

A cleaner drops records for what they are, and pointers for where they stand: it drops a
record if it holds nothing or is of no use, and a pointer to a record that holds nothing if
it stands on one of certain paths.  The two need not go together, so that a line may be left
that points to a record that is gone.

`closed_leftovers_iff` says of records whose pointers all lead to records (`Closed`) when this
is so of what is left of them: unless some pointer that is left is stranded, for one of the
four reasons of `Stranded`.  `not_closed_marriage` shows the first of them: the line of an
individual that names a family is on no path that the cleaner looks at.
-/
namespace Gedcom

/-- Every line that points to a record points to one of some records, by its key. -/
def Closed (rs : List Record) : Prop :=
  ∀ r ∈ rs, ∀ l ∈ r.lines, ∀ x ∈ Line.target? l, ∃ s ∈ rs, s.key = x

instance (rs : List Record) : Decidable (Closed rs) :=
  inferInstanceAs (Decidable (∀ r ∈ rs, ∀ l ∈ r.lines, ∀ x ∈ Line.target? l, ∃ s ∈ rs, s.key = x))

namespace Cleaner
variable {rs : List Record} {r s : Record} {e : List String × Text}

/-- Why a line of a record `r` that is left points to a record `s` that is not.  The line is
given with its path. -/
inductive Stranded (rs : List Record) (r : Record) (e : List String × Text) (s : Record) : Prop
  /-- The record holds nothing, and the line stands where the filter does not look for
  pointers. -/
  | overlooked (hs : Removable s) (hempty : s.isEmpty = true)
    (hpath : e ∈ (emptyOrUnlinked.trimmed rs r).pointerEntries → looksAt e.1 = false)
  /-- The record is of no use, and neither is the one that points to it, which is of a kind
  that the filter never drops. -/
  | useless (hs : Removable s) (hperson : s.tag ≠ "INDI") (hdead : Dead rs s.key)
    (hr : Dead rs r.key)
  /-- The record is of no use, because the line does not count as a reference: it has an
  identifier itself, or no blank in front of its value. -/
  | unread (hs : Removable s) (hperson : s.tag ≠ "INDI") (hdead : Dead rs s.key)
    (hl : Line.reference? e.2 ≠ some s.key)
  /-- The record is not known by an identifier, and is taken for a pointer to a record that
  holds nothing. -/
  | mistaken (hs : s.isNamed = false) (hdrops : emptyOrUnlinked.drops rs [s.tag] s.head = true)

/-- A pointer is stranded only if the record to which it points is dropped. -/
theorem Stranded.discards (h : Stranded rs r e s) : emptyOrUnlinked.Discards rs s := by
  cases h with
  | overlooked hs hempty _ => exact (discards_of_removable hs).mpr (.inl hempty)
  | useless hs hperson hdead _ => exact (discards_of_removable hs).mpr (.inr ⟨hperson, hdead⟩)
  | unread hs hperson hdead _ => exact (discards_of_removable hs).mpr (.inr ⟨hperson, hdead⟩)
  | mistaken hs hdrops => exact (discards_of_not_isNamed hs).mpr hdrops

/-- A record that holds something is dead only if all who refer to it are. -/
theorem dead_of_reference (hkeys : (rs.map Record.key).Nodup) (hs : s ∈ rs)
    (hempty : s.isEmpty = false) (hdead : Dead rs s.key) (hr : r ∈ rs)
    (hreference : s.key ∈ r.references) : Dead rs r.key := by
  generalize hx : s.key = x at hdead hreference
  cases hdead with
  | @empty q hq _ hqempty =>
    obtain rfl := List.inj_on_of_nodup_map hkeys hs hq hx
    rw [hempty] at hqempty
    cases hqempty
  | unreferenced _ hsources => exact hsources r hr hreference

/-- A line that points to a record that is dropped is stranded for one of four reasons. -/
theorem stranded_of_discards (hkeys : (rs.map Record.key).Nodup) (hr : r ∈ rs)
    (hstays : ¬emptyOrUnlinked.Discards rs r)
    (he : e ∈ (emptyOrUnlinked.trimmed rs r).entries) (hs : s ∈ rs)
    (htarget : Line.target? e.2 = some s.key) (hdiscards : emptyOrUnlinked.Discards rs s) :
    Stranded rs r e s := by
  cases hnamed : s.isNamed with
  | false => exact .mistaken hnamed ((discards_of_not_isNamed hnamed).mp hdiscards)
  | true =>
    obtain ⟨hremovable, hwhy⟩ := (discards_of_isNamed hnamed).mp hdiscards
    cases hempty : s.isEmpty with
    | true =>
      refine .overlooked hremovable hempty fun hpointer => ?_
      by_contra hlooks
      have hvoid := pointsToEmpty_of_mem_pointerEntries hstays hpointer
        (Bool.not_eq_false _ ▸ hlooks)
      rw [pointsToEmpty_eq_true.mpr ⟨s, hs, htarget, hempty⟩] at hvoid
      cases hvoid
    | false =>
      obtain ⟨hperson, hdead⟩ := hwhy.resolve_left (by rw [hempty]; exact Bool.false_ne_true)
      by_cases hreference : Line.reference? e.2 = some s.key
      · have hl : e.2 ∈ r.lines := lines_trimmed_subset (Record.mem_lines_of_mem_entries he)
        have hmem : s.key ∈ r.references := List.mem_filterMap.mpr ⟨e.2, hl, hreference⟩
        exact .useless hremovable hperson hdead
          (dead_of_reference hkeys hs hempty hdead hr hmem)
      · exact .unread hremovable hperson hdead hreference

/-- No pointer that is left is stranded. -/
def NoneStranded (rs : List Record) : Prop :=
  ∀ r ∈ rs, ¬emptyOrUnlinked.Discards rs r → ∀ e ∈ (emptyOrUnlinked.trimmed rs r).entries,
    ∀ s ∈ rs, Line.target? e.2 = some s.key → ¬Stranded rs r e s

theorem closed_leftovers (hkeys : (rs.map Record.key).Nodup) (hclosed : Closed rs) :
    Closed (emptyOrUnlinked.leftovers rs) ↔ NoneStranded rs := by
  have hmem : ∀ {q}, q ∈ emptyOrUnlinked.leftovers rs ↔
      ∃ r ∈ rs, ¬emptyOrUnlinked.Discards rs r ∧ emptyOrUnlinked.trimmed rs r = q :=
    mem_leftovers rfl
  constructor
  · intro hleft r hr hstays e he s hs htarget hstranded
    obtain ⟨q, hq, hkey⟩ := hleft _ (hmem.mpr ⟨r, hr, hstays, rfl⟩) e.2
      (Record.mem_lines_of_mem_entries he) s.key htarget
    obtain ⟨p, hp, hpstays, rfl⟩ := hmem.mp hq
    -- the record that is left with the key is the one that was dropped
    obtain rfl := List.inj_on_of_nodup_map hkeys hp hs hkey
    exact hpstays hstranded.discards
  · intro hnone q hq l hl x htarget
    obtain ⟨r, hr, hstays, rfl⟩ := hmem.mp hq
    obtain ⟨s, hs, rfl⟩ := hclosed r hr l (lines_trimmed_subset hl) x htarget
    rw [← Record.map_snd_entries] at hl
    obtain ⟨e, he, rfl⟩ := List.mem_map.mp hl
    refine ⟨emptyOrUnlinked.trimmed rs s, hmem.mpr ⟨s, hs, fun hdiscards => ?_, rfl⟩, rfl⟩
    exact hnone r hr hstays e he s hs htarget
      (stranded_of_discards hkeys hr hstays he hs htarget hdiscards)

/-- **When the pointers that are left lead to records that are left.**  The filter leaves
records with different keys; if all pointers led to records before, then all that are left do
so exactly if none of them is stranded. -/
theorem closed_leftovers_iff (ps : Params) (d : Transmission) {ts : List Text}
    (hts : ts.flatMap recordBlocks = recordBlocks d.text)
    (hkeys : ((records d.text).map Record.key).Nodup) (hclosed : Closed (records d.text))
    (s : Run) :
    ∃ qs trace s', (emptyOrUnlinked.toFilter.run ps ts).run s =
        (.ok (qs.map Record.written, trace), s') ∧
      Delivers (qs.map Record.written) qs ∧ (qs.map Record.key).Nodup ∧
      (Closed qs ↔ NoneStranded (records d.text)) := by
  have hdelivers := d.delivers hts
  obtain ⟨trace, s', hrun⟩ := emptyOrUnlinked.run_toFilter_of_delivers ps hdelivers hkeys s
  exact ⟨_, trace, s', hrun, delivers_leftovers rfl hdelivers.legible,
    nodup_leftovers rfl hkeys, closed_leftovers hkeys hclosed⟩

/-- In the estate the pointer to a note goes with the note, and no other is left. -/
theorem closed_leftovers_iff_estate :
    ((records estate.text).map Record.key).Nodup ∧ Closed (records estate.text) ∧
      NoneStranded (records estate.text) ∧
      ∃ qs trace s', (emptyOrUnlinked.toFilter.run {} (recordBlocks estate.text)).run {} =
          (.ok (qs.map Record.written, trace), s') ∧
        Delivers (qs.map Record.written) qs ∧ (qs.map Record.key).Nodup ∧ Closed qs := by
  have hkeys : ((records estate.text).map Record.key).Nodup := by decide +kernel
  have hclosed : Closed (records estate.text) := by decide +kernel
  have hnone : ∀ r ∈ records estate.text,
      ∀ e ∈ (emptyOrUnlinked.trimmed (records estate.text) r).entries,
        Line.target? e.2 = none := by decide +kernel
  have hstranded : NoneStranded (records estate.text) := by
    intro r hr _ e he s _ htarget
    rw [hnone r hr e he] at htarget
    cases htarget
  obtain ⟨qs, trace, s', hrun, hdelivers, hleftkeys, hiff⟩ :=
    closed_leftovers_iff {} estate estate.flatMap_recordBlocks hkeys hclosed {}
  exact ⟨hkeys, hclosed, hstranded, qs, trace, s', hrun, hdelivers, hleftkeys,
    hiff.mpr hstranded⟩

/-- An individual in a family of which nothing is told. -/
def marriage : Transmission where
  lines := ["0 @I1@ INDI", "1 NAME Ada", "1 FAMS @F1@", "0 @F1@ FAM"].map String.toList
  stepwise := by decide

/-- The family is dropped, but the line that points to it is not. -/
theorem not_closed_marriage :
    ((records marriage.text).map Record.key).Nodup ∧ Closed (records marriage.text) ∧
      ((emptyOrUnlinked.toFilter.run {} (recordBlocks marriage.text)).run {}).1.toOption.map (·.1) =
        some ["0 @I1@ INDI\n1 NAME Ada\n1 FAMS @F1@\n".toList] ∧
      ¬Closed (records "0 @I1@ INDI\n1 NAME Ada\n1 FAMS @F1@\n".toList) := by
  refine ⟨?_, ?_, ?_, ?_⟩ <;> decide +kernel

end Cleaner
end Gedcom
