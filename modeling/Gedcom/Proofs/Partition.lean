import Gedcom.Proofs.Recutting

/-!
# How a text is cut

Cutting a text in front of the lines of a level is not one way among others.  What it gives is
told by three conditions (`CutsInto`): joined again the blocks are the text, every block but the
first begins with a line of the level, and no block has another such line.  There is one way to
cut a text like this (`blocksBefore_eq_cons_iff`), whatever the text is: blank lines, numbers that
are no levels, and newlines at the end are all part of some block.

The reason is found among lines: blocks that begin with an opening line each, and have no other,
are found again when their lines are put in a row (`levelBlocks_flatten`).
-/
namespace Gedcom

section Blocks
variable {opens : Text → Bool} {bs : List (List Text)}

/-- Blocks that each begin with an opening line, and have no other one. -/
def OpenOnce (opens : Text → Bool) (bs : List (List Text)) : Prop :=
  ∀ b ∈ bs, ∃ l ls, b = l :: ls ∧ opens l = true ∧ ∀ k ∈ ls, opens k = false

/-- Nothing stands in front of the first opening line. -/
theorem takeWhile_flatten (h : OpenOnce opens bs) {ls : List Text}
    (hls : ∀ k ∈ ls, opens k = false) :
    (ls ++ bs.flatten).takeWhile (fun k => !opens k) = ls := by
  have hall : ∀ k ∈ ls, (!opens k) = true := fun k hk => by rw [hls k hk]; rfl
  rw [List.takeWhile_append_of_pos hall]
  cases bs with
  | nil => exact List.append_nil ls
  | cons b bs =>
    obtain ⟨l, ms, rfl, hl, _⟩ := h b List.mem_cons_self
    rw [List.flatten_cons, List.cons_append, List.takeWhile_cons_of_neg (by simp [hl]),
      List.append_nil]

/-- **Blocks are found again** in their lines. -/
theorem levelBlocks_flatten (h : OpenOnce opens bs) : levelBlocks opens bs.flatten = bs := by
  induction bs with
  | nil => rfl
  | cons b bs ih =>
    obtain ⟨⟨l, ls, rfl, hl, hls⟩, hbs⟩ := List.forall_mem_cons.mp h
    have hbs : OpenOnce opens bs := hbs
    rw [List.flatten_cons, List.cons_append, levelBlocks_cons_of_pos opens hl,
      takeWhile_flatten hbs hls, levelBlocks_append_of_neg opens hls, ih hbs]

end Blocks

namespace Text

/-- Texts that are joined by newlines have their lines one after the other. -/
theorem lines_joinLines_texts {ts : List Text} (hne : ts ≠ []) :
    lines (joinLines ts) = (ts.map lines).flatten := by
  have hlines : ∀ ls ∈ ts.map lines, ls ≠ [] := by
    rw [List.forall_mem_map]
    exact fun t _ => lines_ne_nil t
  have hmap : (ts.map lines).map joinLines = ts := by
    rw [List.map_map]
    exact List.map_id'' joinLines_lines ts
  have hflatten : (ts.map lines).flatten ≠ [] := by
    obtain ⟨t, ts, rfl⟩ := List.exists_cons_of_ne_nil hne
    simp [lines_ne_nil]
  rw [← hmap, joinLines_map_joinLines hlines, hmap, lines_joinLines hflatten]
  intro l hl
  obtain ⟨ls, hls, hl⟩ := List.mem_flatten.mp hl
  obtain ⟨t, _, rfl⟩ := List.mem_map.mp hls
  exact newline_notMem_of_mem_lines hl

end Text

/-! ## The three conditions -/

/-- A text is cut at a level into a first block and others. -/
structure CutsInto (level : Nat) (t first : Text) (later : List Text) : Prop where
  /-- Joined again the blocks are the text. -/
  joined : Text.joinLines (first :: later) = t
  /-- Every block but the first begins with a line of the level. -/
  begins : ∀ b ∈ later, Line.levelOf? (Text.firstLine b) = some level
  /-- No block has another line of the level. -/
  whole : ∀ b ∈ first :: later, ∀ l ∈ (Text.lines b).tail, Line.levelOf? l ≠ some level

theorem hasLevel_eq_true {level : Nat} {l : Text} :
    hasLevel level l = true ↔ Line.levelOf? l = some level := beq_iff_eq

theorem hasLevel_eq_false {level : Nat} {l : Text} :
    hasLevel level l = false ↔ Line.levelOf? l ≠ some level := beq_eq_false_iff_ne

variable {level : Nat} {t first : Text} {later : List Text}

/-- The blocks of a text meet the conditions. -/
theorem cutsInto_of_blocksBefore (h : blocksBefore level t = first :: later) :
    CutsInto level t first later := by
  have hlines : ∀ ls ∈ blocks (hasLevel level) (Text.lines t),
      Text.lines (Text.joinLines ls) = ls := fun ls hls =>
    Text.lines_joinLines (ne_nil_of_mem_blocks ls hls) fun l hl =>
      newline_notMem_of_mem_blocks hls hl
  refine ⟨?_, fun b hb => ?_, fun b hb l hl => ?_⟩
  · rw [← h]
    exact joinLines_blocksBefore level t
  · obtain ⟨ks, hks⟩ := Text.exists_lines_eq t
    rw [blocksBefore, hks, blocks_cons, List.map_cons] at h
    obtain ⟨ls, hls, rfl⟩ := List.mem_map.mp ((List.cons.inj h).2 ▸ hb)
    obtain ⟨l, ms, rfl, hl, _⟩ := exists_of_mem_levelBlocks hls
    have hmem : l :: ms ∈ blocks (hasLevel level) (Text.lines t) := by
      rw [hks, blocks_cons]
      exact List.mem_cons_of_mem _ hls
    rw [Text.firstLine_joinLines (newline_notMem_of_mem_blocks hmem List.mem_cons_self)]
    exact hasLevel_eq_true.mp hl
  · rw [← h] at hb
    obtain ⟨ls, hls, rfl⟩ := List.mem_map.mp hb
    rw [hlines ls hls] at hl
    obtain ⟨k, ms, rfl, hms⟩ := exists_of_mem_blocks hls
    exact hasLevel_eq_false.mp (hms l hl)

/-- Whatever meets the conditions are the blocks of the text. -/
theorem CutsInto.blocksBefore_eq (h : CutsInto level t first later) :
    blocksBefore level t = first :: later := by
  obtain ⟨ls, hfirst⟩ := Text.exists_lines_eq first
  have hls : ∀ k ∈ ls, hasLevel level k = false := fun k hk => by
    refine hasLevel_eq_false.mpr (h.whole first List.mem_cons_self k ?_)
    rw [hfirst]
    exact hk
  have hlater : OpenOnce (hasLevel level) (later.map Text.lines) := by
    rw [OpenOnce, List.forall_mem_map]
    intro b hb
    obtain ⟨ms, hms⟩ := Text.exists_lines_eq b
    refine ⟨Text.firstLine b, ms, hms, hasLevel_eq_true.mpr (h.begins b hb), fun k hk => ?_⟩
    · refine hasLevel_eq_false.mpr (h.whole b (List.mem_cons_of_mem _ hb) k ?_)
      rw [hms]
      exact hk
  have hlines : Text.lines t = Text.firstLine first :: (ls ++ (later.map Text.lines).flatten) := by
    rw [← h.joined, Text.lines_joinLines_texts (List.cons_ne_nil _ _), List.map_cons,
      List.flatten_cons, hfirst, List.cons_append]
  rw [blocksBefore, hlines, blocks_cons, takeWhile_flatten hlater hls,
    levelBlocks_append_of_neg _ hls, levelBlocks_flatten hlater, List.map_cons, ← hfirst,
    Text.joinLines_lines, List.map_map]
  exact congrArg (first :: ·) (List.map_id'' Text.joinLines_lines later)

/-- **The blocks of a text** are what the conditions say, and nothing else is. -/
theorem blocksBefore_eq_cons_iff :
    blocksBefore level t = first :: later ↔ CutsInto level t first later :=
  ⟨cutsInto_of_blocksBefore, CutsInto.blocksBefore_eq⟩

/-! ## The ways in which texts are cut -/

/-- **Cutting a text** at a level gives a first block and others that meet the conditions, and
nothing else meets them.  The structures of the level are the others, and a block that is cut
again at the level stays whole.

The records of a text, joined again, are the text.  They are its blocks at level 0, but for the
text without characters, which is the only one without records; and a record that has characters
is its only record. -/
theorem cutsInto_iff (level : Nat) (t : Text) :
    (∃ first later, blocksBefore level t = first :: later ∧
      substructureBlocks level t = later ∧
      ∀ first' later', CutsInto level t first' later' ↔ first' = first ∧ later' = later) ∧
      (∀ b ∈ blocksBefore level t, blocksBefore level b = [b]) ∧
      Text.joinLines (recordBlocks t) = t ∧
      recordBlocks t = (if t = [] then [] else blocksBefore 0 t) ∧
      (recordBlocks t = [] ↔ t = []) ∧
      ∀ b ∈ recordBlocks t, b ≠ [] → recordBlocks b = [b] := by
  have hne : ∀ (level : Nat) (t : Text), blocksBefore level t ≠ [] := by
    intro level t
    obtain ⟨ls, hls⟩ := Text.exists_lines_eq t
    rw [blocksBefore, hls, blocks_cons]
    exact List.cons_ne_nil _ _
  have hrecords : ∀ t : Text, recordBlocks t = if t = [] then [] else blocksBefore 0 t := by
    intro t
    cases t <;> rfl
  refine ⟨?_, fun b hb => blocksBefore_of_mem hb, ?_, hrecords t, ?_, fun b hb hb' => ?_⟩
  · obtain ⟨first, later, h⟩ := List.exists_cons_of_ne_nil (hne level t)
    refine ⟨first, later, h, ?_, fun first' later' => ?_⟩
    · rw [substructureBlocks, h, List.tail_cons]
    · rw [← blocksBefore_eq_cons_iff, h, List.cons.injEq, eq_comm, @eq_comm _ later]
  · rw [hrecords]
    split
    · rename_i hnil
      rw [hnil]
      rfl
    · exact joinLines_blocksBefore 0 t
  · rw [hrecords]
    split
    · rename_i hnil
      exact iff_of_true rfl hnil
    · rename_i hnil
      exact iff_of_false (hne 0 t) hnil
  · rw [hrecords] at hb
    split at hb
    · cases hb
    · rw [hrecords, if_neg hb', blocksBefore_of_mem hb]

/-- Zeros in front of a level number do not count, a number that does not fit is no level, and a
blank line belongs to the block in which it stands. -/
theorem cutsInto_iff_zeros :
    let t := "0 HEAD\n00 NOTE\n\n4294967296 NOTE\n0".toList
    let b := "00 NOTE\n\n4294967296 NOTE".toList
    CutsInto 0 t "0 HEAD".toList [b, ['0']] ∧ b ∈ recordBlocks t ∧ blocksBefore 0 b = [b] ∧
      recordBlocks b = [b] := by
  intro t b
  have hblocks : blocksBefore 0 t = ["0 HEAD".toList, b, ['0']] := by decide
  have hmem : b ∈ recordBlocks t := by decide
  obtain ⟨⟨first, later, hfirst, _, hcuts⟩, hwhole, _, _, _, hrecord⟩ := cutsInto_iff 0 t
  rw [hblocks] at hfirst
  obtain ⟨rfl, rfl⟩ := List.cons.inj hfirst
  refine ⟨(hcuts _ _).mpr ⟨rfl, rfl⟩, hmem, hwhole b ?_, hrecord b hmem (by decide)⟩
  rw [hblocks]
  exact List.mem_cons_of_mem _ List.mem_cons_self

end Gedcom
