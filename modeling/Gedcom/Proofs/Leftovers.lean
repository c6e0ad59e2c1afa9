import Gedcom.Proofs.Cleaning

/-!
# The records that are left

A cleaner finds the identifier of a record in the characters of its first line, and only if
the level number is written without leading zeros; a record that it does not know by an
identifier is a pointer like any other to it.  `run_toFilter_of_delivers` says what it
leaves of records, however they are written.

What is left are records again (`leftovers`): they can be read, they have the keys that they
had before, and a filter may be applied to them (`delivers_leftovers`).
-/
namespace Gedcom

namespace Record

/-- Whether a cleaner knows a record by an identifier: it has one, and its level number is
written without leading zeros. -/
def isNamed (r : Record) : Bool := Line.isPlain r.head && r.xref?.isSome

/-- The lines of a record with their paths. -/
def entries (r : Record) : List (List String × Text) := ([r.tag], r.head) :: r.below.entries [r.tag]

/-- The lines of a record that a cleaner may take for pointers: not the first one, if it
knows the record by an identifier. -/
def pointerEntries (r : Record) : List (List String × Text) :=
  (if r.isNamed then [] else [([r.tag], r.head)]) ++ r.below.entries [r.tag]

theorem map_snd_entries (r : Record) : r.entries.map (·.2) = r.lines := by
  rw [entries, List.map_cons, Outline.map_snd_entries, lines]

theorem mem_lines_of_mem_entries {r : Record} {e : List String × Text} (he : e ∈ r.entries) :
    e.2 ∈ r.lines := by
  rw [← r.map_snd_entries]
  exact List.mem_map_of_mem he

theorem written_eq_text (r : Record) : r.written = r.text 1 := by
  rw [written, Text.flatMap_newline, Text.joinLines_concat_nil (by simp [lines]), text]
  rfl

end Record

/-- Records may be handed over one by one as they are written. -/
theorem delivers_written {rs : List Record} (hlegible : ∀ r ∈ rs, r.isLegible = true) :
    Delivers (rs.map Record.written) rs := by
  refine ⟨?_, hlegible⟩
  induction rs with
  | nil => exact .nil
  | cons r rs ih =>
    rw [List.map_cons, List.flatMap_cons, r.written_eq_text,
      Record.recordBlocks_text (hlegible r List.mem_cons_self), List.singleton_append]
    exact .cons ⟨1, rfl⟩ (ih fun s hs => hlegible s (List.mem_cons_of_mem _ hs))

/-- The record to which a line points. -/
def Line.target? (l : Text) : Option String := (Line.ofLine? l).bind Line.pointer?

namespace Cleaner
variable {rs : List Record} {g : Graph} {r q : Record} {k : Cleaner}

theorem pointsToEmpty_eq_true {l : Text} :
    pointsToEmpty rs l = true ↔
      ∃ r ∈ rs, Line.target? l = some r.key ∧ r.isEmpty = true := by
  rw [pointsToEmpty, Line.target?]
  cases Line.ofLine? l with
  | none => simp
  | some line =>
    rw [Option.any_some, Option.bind_some]
    cases line.pointer? with
    | none => simp
    | some x =>
      rw [Option.any_some, List.any_eq_true]
      refine exists_congr fun r => and_congr_right fun _ => ?_
      rw [Bool.and_eq_true, beq_iff_eq, Option.some.injEq, eq_comm]

/-! ## What is left of a record -/

/-- Whether a cleaner drops a record, however its level number is written. -/
def Discards (k : Cleaner) (rs : List Record) (r : Record) : Prop :=
  if Line.isPlain r.head then k.Removes rs r else k.drops rs [r.tag] r.head = true

open Classical in
/-- What a cleaner leaves of a record, if anything. -/
noncomputable def remainder (k : Cleaner) (rs : List Record) (r : Record) : Option Record :=
  if k.Discards rs r then none
  else some (if Line.isPlain r.head then k.reduced rs r else k.trimmed rs r)

/-- The records that a cleaner leaves. -/
noncomputable def leftovers (k : Cleaner) (rs : List Record) : List Record :=
  rs.filterMap (k.remainder rs)

theorem remainder_of_isPlain (hplain : Line.isPlain r.head = true) :
    k.remainder rs r = k.cleaned rs r := by
  rw [remainder, cleaned, Discards, if_pos hplain, if_pos hplain]

/-- **What is left of a record**, however its level number is written. -/
theorem yields_remainder (k : Cleaner) (ps : Params) (h : g.Shows rs)
    (hkeys : (rs.map Record.key).Nodup) (hr : r ∈ rs) (hlegible : r.isLegible = true) :
    Yields g.prunePass ((k.application ps).recordRemnant r)
      (((k.remainder rs r).map Record.written).getD []) := by
  by_cases hplain : Line.isPlain r.head = true
  · rw [remainder_of_isPlain hplain]
    exact k.yields_recordRemnant ps h hkeys hr hlegible hplain
  · have hzeros : Line.isPlain r.head = false := Bool.not_eq_true _ ▸ hplain
    obtain ⟨hhead, _⟩ := Bool.and_eq_true_iff.mp hlegible
    have hleft : ((k.remainder rs r).map Record.written).getD [] =
        if k.drops rs [r.tag] r.head then [] else (k.trimmed rs r).written := by
      rw [remainder, Discards, if_neg hplain, if_neg hplain]
      split <;> rfl
    rw [hleft]
    -- the hook finds no identifier and takes the record for a structure
    refine k.yields_recordRemnant_of_hook ps h hlegible (fun hlooks => ?_) fun hlooks => ?_
    · have hxref : Line.recordXref? (k.trimmed rs r).written = none := by
        rw [Record.written_eq]
        exact Line.recordXref?_of_not_isPlain hzeros _
      rw [hook, hxref]
      dsimp only
      rw [Record.written_eq, drops, hlooks, Bool.and_true]
      exact congrArg (fun t => Except.ok (t, g.prunePass)) (cleanStructure_eq k h hhead _)
    · rw [drops, hlooks, Bool.and_false, Bool.false_and, if_neg Bool.false_ne_true]

/-- **What a cleaner leaves of records**, handed over in whatever pieces and written with
whatever zeros. -/
theorem run_toFilter_of_delivers (k : Cleaner) (ps : Params) {ts : List Text}
    (hts : Delivers ts rs) (hkeys : (rs.map Record.key).Nodup) (s : Run) :
    ∃ trace s', (k.toFilter.run ps ts).run s =
      (.ok ((k.leftovers rs).map Record.written, trace), s') := by
  have hyields : ∀ r ∈ rs, Yields (Graph.ofTexts ts).prunePass
      ((k.application ps).recordRemnant r) (((k.remainder rs r).map Record.written).getD []) :=
    fun r hr => k.yields_remainder ps hts.shows hkeys hr (hts.legible r hr)
  obtain ⟨trace, s', hrun⟩ :=
    Application.run_of_delivers hts (Application.references_eq rfl ts) hyields s
  refine ⟨trace, s', ?_⟩
  rw [Filter.run_of_compile (k.compile_toFilter ps)]
  rw [filter_map_written] at hrun
  exact hrun

/-! ## Records that are left -/

theorem isLegible_trimmed (hr : r.isLegible = true) : (k.trimmed rs r).isLegible = true := by
  obtain ⟨hhead, hbelow⟩ := Bool.and_eq_true_iff.mp hr
  exact Bool.and_eq_true_iff.mpr ⟨hhead, Outline.isLegible_without hbelow⟩

/-- A record without some of its pointers keeps its first line, and with it its key. -/
@[simp] theorem key_trimmed (k : Cleaner) (rs : List Record) (r : Record) :
    (k.trimmed rs r).key = r.key := rfl

theorem lines_trimmed_subset : (k.trimmed rs r).lines ⊆ r.lines := by
  intro l hl
  rcases List.mem_cons.mp hl with rfl | hl
  · exact List.mem_cons_self
  · exact List.mem_cons_of_mem _ (Outline.lines_without_subset hl)

section Leftovers
variable (hk : k.reducesMinimal = false)
include hk

/-- A cleaner that reduces nobody only drops records and pointers. -/
theorem remainder_eq_some : k.remainder rs r = some q ↔ ¬k.Discards rs r ∧ k.trimmed rs r = q := by
  have hreduced : k.reduced rs r = k.trimmed rs r := by
    rw [reduced, hk, Bool.false_and]
    split <;> rfl
  rw [remainder, hreduced, ite_self]
  by_cases hdiscards : k.Discards rs r
  · rw [if_pos hdiscards]
    refine ⟨fun h => ?_, fun h => absurd hdiscards h.1⟩
    cases h
  · rw [if_neg hdiscards, Option.some.injEq, and_iff_right hdiscards]

theorem mem_leftovers : q ∈ k.leftovers rs ↔ ∃ r ∈ rs, ¬k.Discards rs r ∧ k.trimmed rs r = q := by
  rw [leftovers, List.mem_filterMap]
  exact exists_congr fun r => and_congr_right fun _ => remainder_eq_some hk

theorem nodup_leftovers (hkeys : (rs.map Record.key).Nodup) :
    ((k.leftovers rs).map Record.key).Nodup := by
  have hsublist : ∀ qs : List Record,
      ((qs.filterMap (k.remainder rs)).map Record.key).Sublist (qs.map Record.key) := by
    intro qs
    induction qs with
    | nil => exact .slnil
    | cons r qs ih =>
      cases hr : k.remainder rs r with
      | none =>
        rw [List.filterMap_cons_none hr]
        exact ih.cons _
      | some q =>
        obtain ⟨_, rfl⟩ := (remainder_eq_some hk).mp hr
        rw [List.filterMap_cons_some hr, List.map_cons, List.map_cons, key_trimmed]
        exact ih.cons_cons _
  exact hkeys.sublist (hsublist rs)

/-- What is left of records are records that may be handed over. -/
theorem delivers_leftovers (hlegible : ∀ r ∈ rs, r.isLegible = true) :
    Delivers ((k.leftovers rs).map Record.written) (k.leftovers rs) := by
  refine delivers_written fun q hq => ?_
  obtain ⟨r, hr, _, rfl⟩ := (mem_leftovers hk).mp hq
  exact isLegible_trimmed (hlegible r hr)

end Leftovers

/-! ## Empty or unlinked records -/

/-- Whether a record is one that may be dropped for its own sake: a cleaner knows it by an
identifier, and its type is one of those that a cleaner drops. -/
def Removable (r : Record) : Prop := r.isNamed = true ∧ r.tag ∈ recordTypes

/-- A record that is known by an identifier is dropped if it holds nothing or is of no use. -/
theorem discards_of_isNamed (hr : r.isNamed = true) :
    emptyOrUnlinked.Discards rs r ↔
      Removable r ∧ (r.isEmpty = true ∨ r.tag ≠ "INDI" ∧ Dead rs r.key) := by
  obtain ⟨hplain, hxref⟩ := Bool.and_eq_true_iff.mp hr
  obtain ⟨xref, hxref⟩ := Option.isSome_iff_exists.mp hxref
  rw [Discards, if_pos hplain, Removes, hxref, Removable, and_iff_right hr]
  simp [emptyOrUnlinked]

theorem discards_of_removable (hr : Removable r) :
    emptyOrUnlinked.Discards rs r ↔ r.isEmpty = true ∨ r.tag ≠ "INDI" ∧ Dead rs r.key := by
  rw [discards_of_isNamed hr.1, and_iff_right hr]

/-- A record that is not known by an identifier is dropped like a pointer. -/
theorem discards_of_not_isNamed (hr : r.isNamed = false) :
    k.Discards rs r ↔ k.drops rs [r.tag] r.head = true := by
  rw [Discards]
  split
  · rename_i hplain
    have hxref : r.xref? = none := by
      rw [Record.isNamed, hplain, Bool.true_and] at hr
      exact Option.isNone_iff_eq_none.mp (Option.isSome_eq_false_iff.mp hr)
    rw [Removes, hxref]
  · exact Iff.rfl

theorem drops_emptyOrUnlinked (path : List String) (l : Text) :
    emptyOrUnlinked.drops rs path l = (looksAt path && pointsToEmpty rs l) := by
  rw [drops]
  rfl

/-- Of the pointers at which the filter looks, none that is left leads to a record that held
nothing. -/
theorem pointsToEmpty_of_mem_pointerEntries (hstays : ¬emptyOrUnlinked.Discards rs r)
    {e : List String × Text} (he : e ∈ (emptyOrUnlinked.trimmed rs r).pointerEntries)
    (hlooks : looksAt e.1 = true) : pointsToEmpty rs e.2 = false := by
  have hdrops : emptyOrUnlinked.drops rs e.1 e.2 = false := by
    rcases List.mem_append.mp he with he | he
    · split at he
      · cases he
      · rename_i hnamed
        obtain rfl := List.mem_singleton.mp he
        rw [discards_of_not_isNamed (Bool.not_eq_true _ ▸ hnamed)] at hstays
        exact Bool.not_eq_true _ ▸ hstays
    · exact Outline.drops_of_mem_entries_without he
  rwa [drops_emptyOrUnlinked, hlooks, Bool.true_and] at hdrops

end Cleaner
end Gedcom
