import Gedcom.Proofs.Traversal

/-!
# Filters on any text

`sift_text` says what a filter leaves of a record whose lines can be read.  Here the same is
said of any text at all.  Its lines are cut into an outline: a line opens an entry if it
begins with the level number that is looked for.  Other lines are skipped, and a line that
opens an entry but cannot be read stops the filter.  `siftOutline` goes through the outline of
any lines in this way, and `siftAll_ofLines` and `mapM_sift` say that sifting a text does just
that.  `checkedOutline` does the same without a memo (`follows_siftOutline`).
-/
namespace Gedcom

namespace Text

theorem newline_notMem_of_mem_lines {l t : Text} (hl : l ∈ lines t) : '\n' ∉ l := by
  induction t generalizing l with
  | nil =>
    rw [lines_nil, List.mem_singleton] at hl
    rw [hl]
    exact List.not_mem_nil
  | cons c t ih =>
    obtain ⟨first, rest, hps⟩ : ∃ first rest, lines t = first :: rest :=
      List.exists_cons_of_ne_nil (lines_ne_nil t)
    rw [hps] at ih
    rw [lines, pieces_cons, ← lines, hps, consPiece] at hl
    split at hl
    · rcases List.mem_cons.mp hl with rfl | hl
      · exact List.not_mem_nil
      · exact ih hl
    · rename_i hc
      rcases List.mem_cons.mp hl with rfl | hl
      · rw [List.mem_cons, not_or]
        exact ⟨fun h => hc (by simp [← h]), ih List.mem_cons_self⟩
      · exact ih (List.mem_cons_of_mem _ hl)

/-- The first of its lines is the first line of a text. -/
theorem exists_lines_eq (t : Text) : ∃ ls, lines t = firstLine t :: ls := by
  obtain ⟨l, ls, hls⟩ := List.exists_cons_of_ne_nil (lines_ne_nil t)
  have hl : '\n' ∉ l := newline_notMem_of_mem_lines (t := t) (hls ▸ List.mem_cons_self)
  refine ⟨ls, ?_⟩
  rw [hls, ← joinLines_lines t, hls, firstLine_joinLines hl]

end Text

/-- What stands in the blocks of a text are lines. -/
theorem newline_notMem_of_mem_blocks {opens : Text → Bool} {t : Text} {b : List Text}
    (hb : b ∈ blocks opens (Text.lines t)) {l : Text} (hl : l ∈ b) : '\n' ∉ l := by
  refine Text.newline_notMem_of_mem_lines (t := t) ?_
  rw [← flatten_blocks opens (Text.lines t)]
  exact List.mem_flatten_of_mem hb hl

namespace Line

/-- A line can be read at its level, or it stops a filter. -/
theorem ofTextAt_eq (level : Nat) {l : Text} (hl : '\n' ∉ l) :
    isLegible level l = true ∧ (∃ line, ofTextAt level l = .ok line) ∨
      isLegible level l = false ∧ ofTextAt level l = .error (.malformed l) := by
  have hcontains : l.contains '\n' = false := by simpa using hl
  rw [isLegible, hcontains, ofTextAt, Text.firstLine_eq_self hl]
  cases hline : ofLine? l with
  | none => exact .inr ⟨rfl, rfl⟩
  | some line =>
    by_cases hlevel : line.level = level
    · exact .inl ⟨by simpa using hlevel, line, if_pos hlevel⟩
    · exact .inr ⟨by simpa using hlevel, if_neg hlevel⟩

end Line

namespace Application
variable {a : Application}

/-! ## Going through an outline -/

/-- What is left of a line with entries below it, unless the line cannot be read at its
level. -/
def checkedEntry (a : Application) (level : Nat) (path : List String) (parent : Option Nat)
    (l : Text) (below : List String → Option Nat → RunM Text) : RunM Text := do
  let _ ← MonadExcept.ofExcept (Line.ofTextAt level l)
  a.entryRemnant path parent l below

/-- What is left of an outline at a level, unless some line of it cannot be read. -/
def checkedOutline (a : Application) (level : Nat) (path : List String) (parent : Option Nat) :
    Outline → RunM Text
  | .empty => return []
  | .entry l below after => do
    let entry ← a.checkedEntry level path parent l fun path found =>
      a.checkedOutline (level + 1) path found below
    let others ← a.checkedOutline level path parent after
    return entry ++ others

/-- What is left of a record, unless some line of it cannot be read. -/
def checkedRecord (a : Application) (r : Record) : RunM Text :=
  a.checkedEntry 0 [] none r.head fun path found => a.checkedOutline 1 path found r.below

/-- A record is an outline with one entry. -/
theorem checkedOutline_entry_empty (r : Record) :
    a.checkedOutline 0 [] none (.entry r.head r.below .empty) = a.checkedRecord r := by
  simp [checkedOutline, checkedRecord]

/-! ## Going through a text -/

/-- What a filter does with an outline at a level. -/
def siftOutline (a : Application) (level : Nat) (path : List String) (parent : Option Nat) :
    Outline → RunM Text
  | .empty => return []
  | .entry l below after => do
    let entry ← a.siftEntry level path parent l fun path found =>
      a.siftOutline (level + 1) path found below
    let others ← a.siftOutline level path parent after
    return entry ++ others

/-- What a filter does with a record. -/
def siftRecord (a : Application) (r : Record) : RunM Text :=
  a.siftEntry 0 [] none r.head fun path found => a.siftOutline 1 path found r.below

/-- **Sifting the structures of any lines goes through their outline.** -/
theorem siftAll_ofLines : ∀ (level : Nat) (ls : List Text), (∀ l ∈ ls, '\n' ∉ l) →
    ∀ (path : List String) (parent : Option Nat),
      a.siftAll level path parent ((levelBlocks (hasLevel level) ls).map Text.joinLines) =
        a.siftOutline level path parent (Outline.ofLines level ls)
  | _, [], _, _, _ => by
    rw [Outline.ofLines]
    rfl
  | level, l :: ls, hls, path, parent => by
    have hrest : ∀ k ∈ ls, '\n' ∉ k := fun k hk => hls k (List.mem_cons_of_mem _ hk)
    cases hl : hasLevel level l with
    | false =>
      rw [levelBlocks_cons_of_neg _ hl, Outline.ofLines_cons_of_neg hl]
      exact siftAll_ofLines level ls hrest path parent
    | true =>
      -- the block of `l` goes on until the next line of its level
      have hinside : ∀ k ∈ ls.takeWhile fun k => !hasLevel level k, '\n' ∉ k :=
        fun k hk => hrest k ((List.takeWhile_sublist _).subset hk)
      have hfurther : ∀ k ∈ ls.dropWhile fun k => !hasLevel level k, '\n' ∉ k :=
        fun k hk => hrest k ((List.dropWhile_sublist _).subset hk)
      have hblock : ∀ k ∈ l :: ls.takeWhile fun k => !hasLevel level k, '\n' ∉ k :=
        List.forall_mem_cons.mpr ⟨hls l List.mem_cons_self, hinside⟩
      rw [levelBlocks_cons_of_pos _ hl, Outline.ofLines_cons_of_pos hl, List.map_cons,
        siftAll_cons, siftOutline, ← levelBlocks_dropWhile, sift_joinLines hblock,
        siftAll_ofLines level _ hfurther path parent]
      simp only [siftAll_ofLines (level + 1) _ hinside]
termination_by _ ls => ls.length
decreasing_by
  · exact Nat.lt_succ_self _
  · exact Nat.lt_succ_of_le (List.dropWhile_sublist _).length_le
  · exact Nat.lt_succ_of_le (List.takeWhile_sublist _).length_le

theorem mapM_sift_blocks {bs : List (List Text)} (hne : ∀ b ∈ bs, b ≠ [])
    (hbs : ∀ b ∈ bs, ∀ l ∈ b, '\n' ∉ l) :
    (bs.map Text.joinLines).mapM (a.sift 0 [] none) =
      (bs.filterMap Record.ofLines?).mapM a.siftRecord := by
  induction bs with
  | nil => rfl
  | cons b bs ih =>
    obtain ⟨l, ls, rfl⟩ := List.exists_cons_of_ne_nil (hne b List.mem_cons_self)
    have hb : ∀ k ∈ l :: ls, '\n' ∉ k := hbs _ List.mem_cons_self
    have hbelow := siftAll_ofLines (a := a) 1 ls fun k hk => hb k (List.mem_cons_of_mem _ hk)
    have hrecord : Record.ofLines? (l :: ls) = some ⟨l, Outline.ofLines 1 ls⟩ := rfl
    rw [List.map_cons, List.filterMap_cons_some hrecord, List.mapM_cons, List.mapM_cons,
      sift_joinLines hb, siftRecord, ih (fun b hb => hne b (List.mem_cons_of_mem _ hb))
        fun b hb => hbs b (List.mem_cons_of_mem _ hb)]
    simp only [hbelow]

/-- **Sifting the records of any text goes through its records.** -/
theorem mapM_sift (t : Text) :
    (recordBlocks t).mapM (a.sift 0 [] none) = (records t).mapM a.siftRecord := by
  rw [recordBlocks, records]
  split
  · rfl
  · exact mapM_sift_blocks ne_nil_of_mem_blocks fun _ hb _ hl => newline_notMem_of_mem_blocks hb hl

/-- The records of some texts are sifted by going through them. -/
theorem mapM_sift_flatMap (ts : List Text) :
    (ts.flatMap recordBlocks).mapM (a.sift 0 [] none) =
      (ts.flatMap records).mapM a.siftRecord := by
  induction ts with
  | nil => rfl
  | cons t ts ih =>
    rw [List.flatMap_cons, List.flatMap_cons, List.mapM_append, List.mapM_append, mapM_sift, ih]

/-! ## Without a memo -/

theorem follows_siftEntry_checkedEntry {level : Nat} {l : Text}
    {below below' : List String → Option Nat → RunM Text}
    (hbelow : ∀ path found, a.Follows (below path found) (below' path found))
    (path : List String) (parent : Option Nat) :
    a.Follows (a.siftEntry level path parent l below)
      (a.checkedEntry level path parent l below') := by
  rw [checkedEntry]
  cases hline : Line.ofTextAt level l with
  | error e =>
    rw [siftEntry, hline]
    exact fun s hs => ⟨hs, rfl⟩
  | ok line => exact follows_siftEntry hline hbelow path parent

theorem follows_siftOutline (level : Nat) (path : List String) (parent : Option Nat)
    (o : Outline) :
    a.Follows (a.siftOutline level path parent o) (a.checkedOutline level path parent o) := by
  induction o generalizing level path parent with
  | empty => exact Follows.pure []
  | entry l below after ihbelow ihafter =>
    refine Follows.bind ?_ fun entry => ?_
    · exact follows_siftEntry_checkedEntry (fun path found => ihbelow _ path found) path parent
    · exact (ihafter level path parent).bind fun _ => Follows.pure _

theorem follows_mapM_siftRecord (rs : List Record) :
    a.Follows (rs.mapM a.siftRecord) (rs.mapM a.checkedRecord) := by
  induction rs with
  | nil => exact Follows.pure []
  | cons r rs ih =>
    rw [List.mapM_cons, List.mapM_cons]
    refine Follows.bind ?_ fun first => ih.bind fun _ => Follows.pure _
    exact follows_siftEntry_checkedEntry
      (fun path found => follows_siftOutline 1 path found r.below) [] none

/-- Sifting the records of any text goes through its records without a memo. -/
theorem follows_mapM_sift (t : Text) :
    a.Follows ((recordBlocks t).mapM (a.sift 0 [] none)) ((records t).mapM a.checkedRecord) := by
  rw [mapM_sift]
  exact follows_mapM_siftRecord _

end Application
end Gedcom
