import Gedcom.Proofs.Compilation
import Gedcom.Proofs.Orphans
import Gedcom.Proofs.StrayLines

/-!
# Texts that are cut already

A host may hand over a whole transmission as one text, or cut it into records first.  A filter
cuts every text that it is given, so what has been cut is cut again.  A block that holds
something stays whole then (`blocksBefore_of_mem`), and it makes no difference how the text is
handed over.

A block without characters is another matter, since a text without characters has no records
(`flatMap_recordBlocks`).  There is such a block if the first record has nothing but an empty
line in front of it (`nil_mem_recordBlocks`).  As part of a whole text the block counts as a
record, and the filter stops at it; on its own it is no record at all, and nobody misses it.
`run_recordBlocks` tells both cases.
-/
namespace Gedcom

/-! ## Blocks that are cut again -/

section Blocks
variable {opens : Text → Bool} {ls b : List Text}

/-- A block of a level begins with a line that opens one, and no other of its lines does. -/
theorem exists_of_mem_levelBlocks (hb : b ∈ levelBlocks opens ls) :
    ∃ l ms, b = l :: ms ∧ opens l = true ∧ ∀ m ∈ ms, opens m = false := by
  induction ls with
  | nil => cases hb
  | cons l ls ih =>
    cases hl : opens l with
    | true =>
      rw [levelBlocks_cons_of_pos opens hl] at hb
      rcases List.mem_cons.mp hb with rfl | hb
      · refine ⟨l, _, rfl, hl, fun m hm => ?_⟩
        simpa using List.mem_takeWhile_imp hm
      · exact ih hb
    | false =>
      rw [levelBlocks_cons_of_neg opens hl] at hb
      exact ih hb

/-- No line of a block opens one, but for the first. -/
theorem exists_of_mem_blocks (hb : b ∈ blocks opens ls) :
    ∃ l ms, b = l :: ms ∧ ∀ m ∈ ms, opens m = false := by
  cases ls with
  | nil => cases hb
  | cons l ls =>
    rw [blocks_cons] at hb
    rcases List.mem_cons.mp hb with rfl | hb
    · refine ⟨l, _, rfl, fun m hm => ?_⟩
      simpa using List.mem_takeWhile_imp hm
    · obtain ⟨l, ms, rfl, _, hms⟩ := exists_of_mem_levelBlocks hb
      exact ⟨l, ms, rfl, hms⟩

/-- **A block is one block.** -/
theorem blocks_of_mem_blocks (hb : b ∈ blocks opens ls) : blocks opens b = [b] := by
  obtain ⟨l, ms, rfl, hms⟩ := exists_of_mem_blocks hb
  have hall : ∀ m ∈ ms, (!opens m) = true := by
    intro m hm
    rw [hms m hm]
    rfl
  rw [blocks_cons, List.takeWhile_eq_self_iff.mpr hall, levelBlocks_eq_nil opens hms]

end Blocks

/-- Cutting a block of a text at the level at which it was cut leaves it whole. -/
theorem blocksBefore_of_mem {level : Nat} {b t : Text} (hb : b ∈ blocksBefore level t) :
    blocksBefore level b = [b] := by
  obtain ⟨ls, hls, rfl⟩ := List.mem_map.mp hb
  have hlines : Text.lines (Text.joinLines ls) = ls :=
    Text.lines_joinLines (ne_nil_of_mem_blocks ls hls) fun l hl =>
      newline_notMem_of_mem_blocks hls hl
  rw [blocksBefore, hlines, blocks_of_mem_blocks hls]
  rfl

/-- **Records that are cut again** are the same records, without those that hold nothing. -/
theorem flatMap_recordBlocks (t : Text) :
    (recordBlocks t).flatMap recordBlocks = (recordBlocks t).filter fun b => !b.isEmpty := by
  have hblock : ∀ b ∈ recordBlocks t, recordBlocks b = if b.isEmpty then [] else [b] := by
    intro b hb
    rw [recordBlocks] at hb ⊢
    split at hb
    · cases hb
    · rw [blocksBefore_of_mem hb]
  rw [List.flatMap_congr hblock]
  induction recordBlocks t with
  | nil => rfl
  | cons b bs ih =>
    rw [List.flatMap_cons, ih, List.filter_cons]
    cases b <;> rfl

/-! ## Empty lines in front -/

/-- The level of a text is that of its first line. -/
theorem hasLevel_joinLines (level : Nat) (l : Text) (ls : List Text) :
    hasLevel level (Text.joinLines (l :: ls)) = hasLevel level l := by
  cases ls with
  | nil => rw [Text.joinLines_singleton]
  | cons m ls =>
    have hdigits : (l ++ '\n' :: Text.joinLines (m :: ls)).takeWhile Char.isDigit =
        l.takeWhile Char.isDigit :=
      (Line.takeWhile_append_stop (by decide) l _).1
    rw [Text.joinLines_cons_cons, hasLevel, hasLevel, Line.levelOf?, Line.levelOf?, Line.takeLevel?,
      Line.takeLevel?, hdigits]
    split <;> rfl

/-- Whether the first record of a text has an empty line in front of it, and nothing else. -/
def hasEmptyLead : Text → Bool
  | '\n' :: t => hasLevel 0 t
  | _ => false

/-- An empty line in front of the first record is a block of its own. -/
theorem recordBlocks_of_hasEmptyLead {t : Text} (ht : hasLevel 0 t = true) :
    recordBlocks ('\n' :: t) = [] :: recordBlocks t := by
  obtain ⟨l, ls, hls⟩ := List.exists_cons_of_ne_nil (Text.lines_ne_nil t)
  have hl : hasLevel 0 l = true := by
    rw [← hasLevel_joinLines 0 l ls, ← hls, Text.joinLines_lines]
    exact ht
  have hlines : Text.lines ('\n' :: t) = [] :: l :: ls := by
    rw [← hls]
    exact Text.pieces_append_cons (t := []) (fun _ hd => absurd hd List.not_mem_nil) rfl
  obtain ⟨c, cs, rfl, _⟩ := exists_digit_of_hasLevel ht
  rw [recordBlocks, recordBlocks, blocksBefore, blocksBefore, hlines, hls, blocks_cons,
    List.takeWhile_cons_of_neg (by simp [hl]), levelBlocks, hl]
  rfl

theorem exists_of_hasEmptyLead {t : Text} (h : hasEmptyLead t = true) :
    ∃ u, t = '\n' :: u ∧ hasLevel 0 u = true := by
  unfold hasEmptyLead at h
  split at h
  · exact ⟨_, rfl, h⟩
  · cases h

theorem eq_nil_of_joinLines_eq_nil {l : Text} {ls : List Text}
    (h : Text.joinLines (l :: ls) = []) : l = [] ∧ ls = [] := by
  cases ls with
  | nil => exact ⟨(Text.joinLines_singleton l).symm.trans h, rfl⟩
  | cons m ls =>
    rw [Text.joinLines_cons_cons] at h
    cases (List.append_eq_nil_iff.mp h).2

/-- **A block without characters** is an empty line in front of the first record. -/
theorem nil_mem_recordBlocks {t : Text} : [] ∈ recordBlocks t ↔ hasEmptyLead t = true := by
  constructor
  · intro h
    rw [recordBlocks] at h
    split at h
    · cases h
    · rename_i hne
      obtain ⟨b, hb, hjoin⟩ := List.mem_map.mp h
      obtain ⟨k, ks, hks⟩ := List.exists_cons_of_ne_nil (Text.lines_ne_nil t)
      have ht := Text.joinLines_lines t
      rw [hks] at hb ht
      rw [blocks_cons] at hb
      rcases List.mem_cons.mp hb with rfl | hb
      · obtain ⟨rfl, hnone⟩ := eq_nil_of_joinLines_eq_nil hjoin
        cases ks with
        | nil => exact absurd (by rw [← ht]; rfl) hne
        | cons m ms =>
          rw [← ht, Text.joinLines_cons_cons, List.nil_append, hasEmptyLead, hasLevel_joinLines]
          simpa using hnone
      · obtain ⟨l, ms, rfl, hl, _⟩ := exists_of_mem_levelBlocks hb
        obtain ⟨rfl, _⟩ := eq_nil_of_joinLines_eq_nil hjoin
        cases hl
  · intro h
    obtain ⟨u, rfl, hu⟩ := exists_of_hasEmptyLead h
    rw [recordBlocks_of_hasEmptyLead hu]
    exact List.mem_cons_self

theorem filter_recordBlocks {t : Text} (h : hasEmptyLead t = false) :
    ((recordBlocks t).filter fun b => !b.isEmpty) = recordBlocks t := by
  refine List.filter_eq_self.mpr fun b hb => ?_
  cases b with
  | nil =>
    rw [nil_mem_recordBlocks.mp hb] at h
    cases h
  | cons c cs => rfl

/-! ## Filters on texts that are cut -/

/-- A filter does with texts what it does with their records. -/
theorem Application.run_congr {a : Application} {ts us : List Text}
    (h : ts.flatMap recordBlocks = us.flatMap recordBlocks) : a.run ts = a.run us := by
  simp only [run, references, Graph.ofTexts, h]

namespace Filter

theorem run_congr {ts us : List Text} (h : ts.flatMap recordBlocks = us.flatMap recordBlocks)
    (f : Filter) (ps : Params) : f.run ps ts = f.run ps us := by
  rw [Filter.run, Filter.run]
  exact congrArg (_ >>= ·) (funext fun _ => Application.run_congr h)

/-- A filter stops at a record that holds nothing. -/
theorem run_of_nil_record {f : Filter} {ps : Params} {rules : ReadyRules}
    (hf : f.compile ps = .ok rules) {t : Text} {bs : List Text} (ht : recordBlocks t = [] :: bs)
    (s : Run) : ((f.run ps [t]).run s).1 = .error (.malformed []) := by
  obtain ⟨g, hgraph⟩ := Application.exists_references ⟨f, rules, ps⟩ [t]
  have hnil : ∀ s : Run, (Application.sift ⟨f, rules, ps⟩ 0 [] none []).run s =
      (.error (.malformed []), s) := by
    intro s
    have hline : Line.ofTextAt 0 [] = .error (.malformed []) := rfl
    rw [Application.sift_eq, hline, RunM.run_bind_of_error (RunM.run_ofExcept _ s)]
  have hrecords : (([t].flatMap recordBlocks).mapM (Application.sift ⟨f, rules, ps⟩ 0 [] none)).run
      { s with graph := g, memo := {} } =
        (.error (.malformed []), { s with graph := g, memo := {} }) := by
    rw [List.flatMap_singleton, ht, List.mapM_cons, RunM.run_bind_of_error (hnil _)]
  rw [run_of_compile hf, Application.run_of_mapM_error hgraph hrecords]

/-- **How a text is cut makes no difference**, unless the first record has an empty line in front
of it, and nothing else.  In this case the records are filtered as if the line were not there.
On the text as a whole the filter stops at the line, or fails as on any text if it cannot be made
ready. -/
theorem run_recordBlocks (f : Filter) (ps : Params) (t : Text) :
    if hasEmptyLead t then
      f.run ps (recordBlocks t) = f.run ps [t.tail] ∧
        match f.compile ps with
        | .ok _ => ∀ s : Run, ((f.run ps [t]).run s).1 = .error (.malformed [])
        | .error _ => f.run ps (recordBlocks t) = f.run ps [t]
    else f.run ps (recordBlocks t) = f.run ps [t] := by
  have hcut := flatMap_recordBlocks t
  split
  · rename_i hlead
    obtain ⟨u, rfl, hu⟩ := exists_of_hasEmptyLead hlead
    have hrecords := recordBlocks_of_hasEmptyLead hu
    have hu' : hasEmptyLead u = false := by
      by_contra hlead'
      obtain ⟨v, rfl, _⟩ := exists_of_hasEmptyLead (Bool.not_eq_false _ ▸ hlead')
      cases hu
    refine ⟨run_congr ?_ f ps, ?_⟩
    · rw [hcut, hrecords, List.filter_cons_of_neg (by simp), filter_recordBlocks hu',
        List.flatMap_singleton, List.tail_cons]
    · cases hf : f.compile ps with
      | ok rules => exact fun s => run_of_nil_record hf hrecords s
      | error e =>
        have hfails : ∀ ts, f.run ps ts = MonadExcept.ofExcept (.error e) := by
          intro ts
          rw [Filter.run, hf]
          rfl
        rw [hfails, hfails]
  · rename_i hlead
    refine run_congr ?_ f ps
    rw [hcut, filter_recordBlocks (Bool.not_eq_true _ ▸ hlead), List.flatMap_singleton]

/-- The filter that keeps everything stops at an empty line in front of the header, or keeps the
header, depending on who cuts the text. -/
theorem not_run_recordBlocks_lead :
    let t := "\n0 HEAD\n".toList
    ((Catalog.allRecords.run {} [t]).run {}).1 = .error (.malformed []) ∧
      ((Catalog.allRecords.run {} (recordBlocks t)).run {}).1.toOption.map (·.1) =
        some ["0 HEAD\n".toList] ∧
      ¬∀ (f : Filter) (ps : Params) (t : Text) (s : Run),
        ((f.run ps [t]).run s).1 = ((f.run ps (recordBlocks t)).run s).1 := by
  intro t
  have hstops : error? ((Catalog.allRecords.run {} [t]).run {}).1 = some (.malformed []) := by
    decide +kernel
  have hkeeps : ((Catalog.allRecords.run {} (recordBlocks t)).run {}).1.toOption.map (·.1) =
      some ["0 HEAD\n".toList] := by
    decide +kernel
  refine ⟨error?_eq_some.mp hstops, hkeeps, fun h => ?_⟩
  rw [← h Catalog.allRecords {} t {}, error?_eq_some.mp hstops] at hkeeps
  cases hkeeps

end Filter
end Gedcom
