import Gedcom.Outline
import Mathlib.Data.List.Forall2
import Mathlib.Data.List.TakeWhile

/-!
# Outlines and their text

An outline is written line by line, each line followed by the lines below it.
This module has the two facts on which every statement about records rests.

* Cutting lines at a level gives one block for every line of the level
  (`blocks_cons`): what stands in front of the first one, and then `levelBlocks`.
* An outline is found again in its own lines (`ofLines_lines_append`), provided
  that each of its lines can be read at the level at which it stands.  Blank
  lines may follow.

A transmission is written as lines of which each is at most one level deeper than
the one before it.  `isLegible_lines_ofLines` says that such lines are an outline,
and `Transmission.records_text` that its entries are the records of the written
transmission.
-/
namespace Gedcom

/-! ## Lines -/

namespace Text

theorem firstLine_eq_self {l : Text} (hl : '\n' ∉ l) : firstLine l = l := by
  refine List.takeWhile_eq_self_iff.mpr ?_
  intro c hc
  simpa using fun he : c = '\n' => hl (he ▸ hc)

theorem firstLine_append_newline {l : Text} (hl : '\n' ∉ l) (t : Text) :
    firstLine (l ++ '\n' :: t) = l := by
  have hall : ∀ c ∈ l, (c != '\n') = true := by
    intro c hc
    simpa using fun he : c = '\n' => hl (he ▸ hc)
  rw [firstLine, List.takeWhile_append_of_pos hall]
  simp

/-- The first of some joined lines is found again. -/
theorem firstLine_joinLines {l : Text} (hl : '\n' ∉ l) (ls : List Text) :
    firstLine (joinLines (l :: ls)) = l := by
  cases ls with
  | nil => rw [joinLines_singleton, firstLine_eq_self hl]
  | cons m ls => rw [joinLines_cons_cons, firstLine_append_newline hl]

/-- A line without characters at the end is a newline at the end. -/
theorem joinLines_concat_nil {ls : List Text} (hls : ls ≠ []) :
    joinLines (ls ++ [[]]) = joinLines ls ++ ['\n'] := by
  rw [joinLines_append hls (by simp), joinLines_cons_cons, joinLines_singleton,
    joinLines_singleton]

/-- Lines with newlines at their ends are joined lines with a line without characters at
the end. -/
theorem flatMap_newline (ls : List Text) :
    (ls.flatMap fun l => l ++ ['\n']) = joinLines (ls ++ [[]]) := by
  induction ls with
  | nil => rfl
  | cons l ls ih =>
    obtain ⟨m, ms, hms⟩ := List.exists_cons_of_ne_nil (l := ls ++ [[]]) (by simp)
    rw [List.flatMap_cons, ih, List.cons_append, hms, joinLines_cons_cons, List.append_assoc]
    rfl

end Text

namespace Line

theorem level_of_ofBody? {level : Nat} {xref : Option String} {t : Text} {line : Line}
    (h : ofBody? level xref t = some line) : line.level = level := by
  unfold ofBody? at h
  split at h
  · split at h
    · cases h
    · rw [← Option.some.inj h]
  · cases h

/-- The level of a line that can be read is the number it begins with. -/
theorem levelOf?_of_ofLine? {l : Text} {line : Line} (h : ofLine? l = some line) :
    levelOf? l = some line.level := by
  unfold ofLine? at h
  split at h
  · rename_i level rest hlevel
    have hline : line.level = level := by
      split at h
      · exact level_of_ofBody? h
      · exact level_of_ofBody? h
    rw [levelOf?, hlevel, hline]
    rfl
  · cases h

/-- Whether a text is a single line that can be read and has a level. -/
def isLegible (level : Nat) (l : Text) : Bool :=
  !l.contains '\n' && (ofLine? l).any fun line => line.level == level

theorem newline_notMem_of_isLegible {level : Nat} {l : Text} (h : isLegible level l = true) :
    '\n' ∉ l := by
  rw [isLegible, Bool.and_eq_true] at h
  simpa using h.1

theorem exists_of_isLegible {level : Nat} {l : Text} (h : isLegible level l = true) :
    ∃ line, ofLine? l = some line ∧ line.level = level := by
  rw [isLegible, Bool.and_eq_true] at h
  obtain ⟨line, hline, hlevel⟩ := (Option.any_eq_true _ _).mp h.2
  exact ⟨line, hline, by simpa using hlevel⟩

theorem hasLevel_of_isLegible {level : Nat} {l : Text} (h : isLegible level l = true) (k : Nat) :
    hasLevel k l = (level == k) := by
  obtain ⟨line, hline, rfl⟩ := exists_of_isLegible h
  rw [hasLevel, levelOf?_of_ofLine? hline]
  rfl

theorem hasLevel_self_of_isLegible {level : Nat} {l : Text} (h : isLegible level l = true) :
    hasLevel level l = true := by
  rw [hasLevel_of_isLegible h]
  exact beq_self_eq_true level

/-- A line has one level. -/
theorem level_unique {k n : Nat} {l : Text} (hk : isLegible k l = true)
    (hn : isLegible n l = true) : k = n := by
  have h := hasLevel_self_of_isLegible hn
  rw [hasLevel_of_isLegible hk] at h
  exact eq_of_beq h

end Line

/-- A line that begins with a level number begins with a digit. -/
theorem exists_digit_of_hasLevel {level : Nat} {l : Text} (h : hasLevel level l = true) :
    ∃ c cs, l = c :: cs ∧ c.isDigit = true := by
  cases l with
  | nil => cases h
  | cons c cs =>
    refine ⟨c, cs, rfl, ?_⟩
    by_contra hc
    have hnone : Line.levelOf? (c :: cs) = none := by
      simp [Line.levelOf?, Line.takeLevel?, hc]
    rw [hasLevel, hnone] at h
    cases h

/-! ## Blocks -/

section Blocks
variable (opens : Text → Bool)

/-- The blocks of some lines that begin with an opening line: lines in front of
the first opening line are left out. -/
def levelBlocks : List Text → List (List Text)
  | [] => []
  | l :: ls => if opens l then blocks opens (l :: ls) else levelBlocks ls

/-- **The blocks of a structure**: its first line with what stands in front of the
first opening line, and then a block for every opening line. -/
theorem blocks_cons (l : Text) (ls : List Text) :
    blocks opens (l :: ls) =
      (l :: ls.takeWhile fun k => !opens k) :: levelBlocks opens ls := by
  induction ls generalizing l with
  | nil => rfl
  | cons k ks ih =>
    have hstep : blocks opens (l :: k :: ks) = consBlock opens l (blocks opens (k :: ks)) := rfl
    rw [hstep, ih k]
    cases hk : opens k with
    | true => simp [consBlock, levelBlocks, hk, ih k]
    | false => simp [consBlock, levelBlocks, hk]

theorem levelBlocks_cons_of_pos {l : Text} (hl : opens l = true) (ls : List Text) :
    levelBlocks opens (l :: ls) =
      (l :: ls.takeWhile fun k => !opens k) :: levelBlocks opens ls := by
  rw [levelBlocks, hl, if_pos rfl, blocks_cons]

theorem levelBlocks_cons_of_neg {l : Text} (hl : opens l = false) (ls : List Text) :
    levelBlocks opens (l :: ls) = levelBlocks opens ls := by
  rw [levelBlocks, hl]
  rfl

/-- Lines in front of the first opening line have no say. -/
theorem levelBlocks_append_of_neg {ls : List Text} (hls : ∀ l ∈ ls, opens l = false)
    (ms : List Text) : levelBlocks opens (ls ++ ms) = levelBlocks opens ms := by
  induction ls with
  | nil => rfl
  | cons l ls ih =>
    rw [List.cons_append, levelBlocks_cons_of_neg opens (hls l List.mem_cons_self)]
    exact ih fun k hk => hls k (List.mem_cons_of_mem _ hk)

theorem levelBlocks_eq_nil {ls : List Text} (hls : ∀ l ∈ ls, opens l = false) :
    levelBlocks opens ls = [] := by
  have happend := levelBlocks_append_of_neg opens hls []
  rwa [List.append_nil] at happend

/-- What stands in front of the first opening line has no say. -/
theorem levelBlocks_dropWhile (ls : List Text) :
    levelBlocks opens (ls.dropWhile fun k => !opens k) = levelBlocks opens ls := by
  induction ls with
  | nil => rfl
  | cons l ls ih =>
    cases hl : opens l with
    | true => rw [List.dropWhile_cons_of_neg (by simp [hl])]
    | false => rw [List.dropWhile_cons_of_pos (by simp [hl]), ih, levelBlocks_cons_of_neg _ hl]

end Blocks

/-- The structures of a level in a text are the blocks of its lines, the first
line apart. -/
theorem substructureBlocks_joinLines {l : Text} {ls : List Text}
    (h : ∀ k ∈ l :: ls, '\n' ∉ k) (level : Nat) :
    substructureBlocks level (Text.joinLines (l :: ls)) =
      (levelBlocks (hasLevel level) ls).map Text.joinLines := by
  rw [substructureBlocks, blocksBefore, Text.lines_joinLines (by simp) h, blocks_cons]
  rfl

/-! ## Outlines -/

namespace Outline

/-- The lines of an outline, from the top. -/
def lines : Outline → List Text
  | .empty => []
  | .entry l below after => l :: (below.lines ++ after.lines)

/-- Whether every line of an outline can be read at the level at which it
stands. -/
def isLegible : (level : Nat) → Outline → Bool
  | _, .empty => true
  | level, .entry l below after =>
    Line.isLegible level l && below.isLegible (level + 1) && after.isLegible level

theorem isLegible_entry {level : Nat} {l : Text} {below after : Outline} :
    (entry l below after).isLegible level = true ↔
      Line.isLegible level l = true ∧ below.isLegible (level + 1) = true ∧
        after.isLegible level = true := by
  rw [isLegible, Bool.and_eq_true, Bool.and_eq_true, and_assoc]

/-- The lines of an outline have its level or a deeper one. -/
theorem exists_level_of_mem_lines {level : Nat} {o : Outline} (ho : o.isLegible level = true)
    {l : Text} (hl : l ∈ o.lines) : ∃ k, level ≤ k ∧ Line.isLegible k l = true := by
  induction o generalizing level with
  | empty => cases hl
  | entry m below after ihbelow ihafter =>
    obtain ⟨hm, hbelow, hafter⟩ := isLegible_entry.mp ho
    rcases List.mem_cons.mp hl with rfl | hl
    · exact ⟨level, Nat.le_refl _, hm⟩
    · rcases List.mem_append.mp hl with hl | hl
      · obtain ⟨k, hk, hlegible⟩ := ihbelow hbelow hl
        exact ⟨k, by omega, hlegible⟩
      · exact ihafter hafter hl

theorem newline_notMem_of_mem_lines {level : Nat} {o : Outline} (ho : o.isLegible level = true)
    {l : Text} (hl : l ∈ o.lines) : '\n' ∉ l := by
  obtain ⟨k, _, hlegible⟩ := exists_level_of_mem_lines ho hl
  exact Line.newline_notMem_of_isLegible hlegible

theorem hasLevel_of_mem_lines {level k : Nat} (hk : k < level) {o : Outline}
    (ho : o.isLegible level = true) {l : Text} (hl : l ∈ o.lines) : hasLevel k l = false := by
  obtain ⟨n, hn, hlegible⟩ := exists_level_of_mem_lines ho hl
  rw [Line.hasLevel_of_isLegible hlegible]
  exact beq_false_of_ne (by omega)

theorem ofLines_cons_of_pos {level : Nat} {l : Text} (hl : hasLevel level l = true)
    (ls : List Text) :
    ofLines level (l :: ls) =
      .entry l (ofLines (level + 1) (ls.takeWhile fun k => !hasLevel level k))
        (ofLines level (ls.dropWhile fun k => !hasLevel level k)) := by
  rw [ofLines, if_pos hl]

theorem ofLines_cons_of_neg {level : Nat} {l : Text} (hl : hasLevel level l = false)
    (ls : List Text) : ofLines level (l :: ls) = ofLines level ls := by
  rw [ofLines, hl]
  rfl

/-- Lines without a level open no entry. -/
theorem ofLines_eq_empty {level : Nat} {ls : List Text} (h : ∀ l ∈ ls, hasLevel level l = false) :
    ofLines level ls = .empty := by
  induction ls with
  | nil => rw [ofLines]
  | cons l ls ih =>
    rw [ofLines_cons_of_neg (h l List.mem_cons_self)]
    exact ih fun k hk => h k (List.mem_cons_of_mem _ hk)

section Siblings
variable {level : Nat} {below after : Outline} {rest : List Text}

theorem not_hasLevel_of_mem_lines (hbelow : below.isLegible (level + 1) = true) :
    ∀ k ∈ below.lines, (!hasLevel level k) = true := by
  intro k hk
  rw [hasLevel_of_mem_lines (Nat.lt_succ_self level) hbelow hk]
  rfl

/-- The lines below an entry go on until the next entry, or to the end if there
is none. -/
theorem takeWhile_lines (hbelow : below.isLegible (level + 1) = true)
    (hafter : after.isLegible level = true) (hrest : ∀ l ∈ rest, ∀ k, hasLevel k l = false) :
    ((below.lines ++ (after.lines ++ rest)).takeWhile fun k => !hasLevel level k) =
      below.lines ++ if after = .empty then rest else [] := by
  rw [List.takeWhile_append_of_pos (not_hasLevel_of_mem_lines hbelow)]
  cases after with
  | empty =>
    have hall : ∀ k ∈ rest, (!hasLevel level k) = true := by
      intro k hk
      rw [hrest k hk level]
      rfl
    rw [if_pos rfl, lines, List.nil_append, List.takeWhile_eq_self_iff.mpr hall]
  | entry m inner further =>
    have hm := Line.hasLevel_self_of_isLegible (isLegible_entry.mp hafter).1
    rw [if_neg (by simp), lines, List.cons_append, List.takeWhile_cons_of_neg (by simp [hm])]

/-- What follows the lines below an entry begins with the next entry. -/
theorem dropWhile_lines (hbelow : below.isLegible (level + 1) = true)
    (hafter : after.isLegible level = true) (hrest : ∀ l ∈ rest, ∀ k, hasLevel k l = false) :
    ((below.lines ++ (after.lines ++ rest)).dropWhile fun k => !hasLevel level k) =
      if after = .empty then [] else after.lines ++ rest := by
  rw [List.dropWhile_append_of_pos (not_hasLevel_of_mem_lines hbelow)]
  cases after with
  | empty =>
    have hall : ∀ k ∈ rest, (!hasLevel level k) = true := by
      intro k hk
      rw [hrest k hk level]
      rfl
    rw [if_pos rfl, lines, List.nil_append, List.dropWhile_eq_nil_iff.mpr hall]
  | entry m inner further =>
    have hm := Line.hasLevel_self_of_isLegible (isLegible_entry.mp hafter).1
    rw [if_neg (by simp), lines, List.cons_append, List.dropWhile_cons_of_neg (by simp [hm])]

end Siblings

/-- **An outline is found again in its own lines**, also if lines without any
level follow. -/
theorem ofLines_lines_append {level : Nat} {o : Outline} (ho : o.isLegible level = true)
    {rest : List Text} (hrest : ∀ l ∈ rest, ∀ k, hasLevel k l = false) :
    ofLines level (o.lines ++ rest) = o := by
  induction o generalizing level rest with
  | empty => exact ofLines_eq_empty fun l hl => hrest l hl level
  | entry l below after ihbelow ihafter =>
    obtain ⟨hl, hbelow, hafter⟩ := isLegible_entry.mp ho
    rw [lines, List.cons_append, List.append_assoc,
      ofLines_cons_of_pos (Line.hasLevel_self_of_isLegible hl),
      takeWhile_lines hbelow hafter hrest, dropWhile_lines hbelow hafter hrest]
    -- what follows the last entry is read with what stands below it
    by_cases he : after = .empty
    · rw [if_pos he, if_pos he, ihbelow hbelow hrest, he, ofLines]
    · have hnone : ∀ k ∈ ([] : List Text), ∀ n, hasLevel n k = false :=
        fun _ hk => absurd hk List.not_mem_nil
      rw [if_neg he, if_neg he, ihbelow hbelow hnone, ihafter hafter hrest]

theorem hasLevel_of_mem_replicate {newlines : Nat} {l : Text}
    (hl : l ∈ List.replicate newlines ([] : Text)) (k : Nat) : hasLevel k l = false := by
  rw [List.eq_of_mem_replicate hl]
  rfl

/-- Lines without characters open no block. -/
theorem levelBlocks_replicate_nil (level newlines : Nat) :
    levelBlocks (hasLevel level) (List.replicate newlines []) = [] :=
  levelBlocks_eq_nil _ fun _ hl => hasLevel_of_mem_replicate hl level

theorem newline_notMem_of_mem_append {level newlines : Nat} {o : Outline}
    (ho : o.isLegible level = true) {l : Text}
    (hl : l ∈ o.lines ++ List.replicate newlines []) : '\n' ∉ l := by
  rcases List.mem_append.mp hl with hl | hl
  · exact newline_notMem_of_mem_lines ho hl
  · rw [List.eq_of_mem_replicate hl]
    exact List.not_mem_nil

/-- **The block of an entry** has its line and all lines below it; lines without
characters that follow belong to the last entry. -/
theorem levelBlocks_entry_append {level : Nat} {l : Text} {below after : Outline}
    (ho : (entry l below after).isLegible level = true) (newlines : Nat) :
    levelBlocks (hasLevel level) ((entry l below after).lines ++ List.replicate newlines []) =
      (l :: (below.lines ++ List.replicate (if after = .empty then newlines else 0) [])) ::
        levelBlocks (hasLevel level) (after.lines ++ List.replicate newlines []) := by
  obtain ⟨hl, hbelow, hafter⟩ := isLegible_entry.mp ho
  have hinside : ∀ k ∈ below.lines, hasLevel level k = false :=
    fun k hk => hasLevel_of_mem_lines (Nat.lt_succ_self level) hbelow hk
  rw [lines, List.cons_append, List.append_assoc,
    levelBlocks_cons_of_pos _ (Line.hasLevel_self_of_isLegible hl),
    takeWhile_lines hbelow hafter fun k hk n => hasLevel_of_mem_replicate hk n,
    levelBlocks_append_of_neg _ hinside]
  by_cases he : after = .empty
  · rw [if_pos he, if_pos he]
  · rw [if_neg he, if_neg he]
    rfl

end Outline

namespace Record

/-- The lines of a record, from the top. -/
def lines (r : Record) : List Text := r.head :: r.below.lines

/-- Whether every line of a record can be read at the level at which it stands. -/
def isLegible (r : Record) : Bool := Line.isLegible 0 r.head && r.below.isLegible 1

end Record

namespace Outline

/-- The entries of an outline as records. -/
def roots : Outline → List Record
  | .empty => []
  | .entry l below after => ⟨l, below⟩ :: after.roots

/-- The blocks of level 0 are the entries of the outline at this level. -/
theorem roots_ofLines : ∀ ls : List Text,
    (ofLines 0 ls).roots = (levelBlocks (hasLevel 0) ls).filterMap Record.ofLines?
  | [] => by
    rw [ofLines]
    rfl
  | l :: ls => by
    cases hl : hasLevel 0 l with
    | true =>
      rw [ofLines_cons_of_pos hl, roots, roots_ofLines (ls.dropWhile fun k => !hasLevel 0 k),
        levelBlocks_dropWhile, levelBlocks_cons_of_pos _ hl]
      rfl
    | false => rw [ofLines_cons_of_neg hl, levelBlocks_cons_of_neg _ hl, roots_ofLines ls]
termination_by ls => ls.length
decreasing_by
  · exact Nat.lt_succ_self _
  · exact Nat.lt_succ_of_le (List.dropWhile_sublist _).length_le

theorem flatMap_lines_roots (o : Outline) : o.roots.flatMap Record.lines = o.lines := by
  induction o with
  | empty => rfl
  | entry l below after _ ihafter =>
    rw [roots, List.flatMap_cons, ihafter]
    rfl

theorem isLegible_of_mem_roots {o : Outline} (ho : o.isLegible 0 = true) {r : Record}
    (hr : r ∈ o.roots) : r.isLegible = true := by
  induction o with
  | empty => cases hr
  | entry l below after _ ihafter =>
    obtain ⟨hl, hbelow, hafter⟩ := isLegible_entry.mp ho
    rcases List.mem_cons.mp hr with rfl | hr
    · exact Bool.and_eq_true_iff.mpr ⟨hl, hbelow⟩
    · exact ihafter hafter hr

end Outline

namespace Record

/-- A record as it is written, with some newlines at its end. -/
def text (r : Record) (newlines : Nat) : Text :=
  Text.joinLines r.lines ++ List.replicate newlines '\n'

/-- Newlines at the end of a record are lines without characters. -/
theorem text_eq_joinLines (r : Record) (newlines : Nat) :
    r.text newlines = Text.joinLines (r.head :: (r.below.lines ++ List.replicate newlines [])) := by
  induction newlines with
  | zero => simp [text, lines]
  | succ n ih =>
    have hlast : r.text (n + 1) = r.text n ++ ['\n'] := by
      rw [text, text, List.replicate_succ', List.append_assoc]
    rw [hlast, ih, ← Text.joinLines_concat_nil (by simp), List.replicate_succ', List.cons_append,
      List.append_assoc]

end Record

/-- The blocks of the lines of an outline are its entries as they are written;
lines without characters that follow are newlines at the end of the last one. -/
theorem Outline.levelBlocks_lines_append {o : Outline} (ho : o.isLegible 0 = true)
    (newlines : Nat) :
    List.Forall₂ (fun b (r : Record) => ∃ n, Text.joinLines b = r.text n)
      (levelBlocks (hasLevel 0) (o.lines ++ List.replicate newlines [])) o.roots := by
  induction o with
  | empty =>
    rw [lines, List.nil_append, levelBlocks_replicate_nil]
    exact .nil
  | entry l below after _ ihafter =>
    obtain ⟨_, _, hafter⟩ := isLegible_entry.mp ho
    rw [levelBlocks_entry_append ho]
    exact .cons ⟨_, (Record.text_eq_joinLines ⟨l, below⟩ _).symm⟩ (ihafter hafter)

/-! ## Transmissions -/

/-- Whether lines can be read one after the other: the first one is at most as
deep as a level, and each of the others at most one level deeper than the one
before it. -/
def isStepwise : (deepest : Nat) → List Text → Bool
  | _, [] => true
  | deepest, l :: ls =>
    match Line.ofLine? l with
    | none => false
    | some line =>
      !l.contains '\n' && decide (line.level ≤ deepest) && isStepwise (line.level + 1) ls

theorem exists_of_isStepwise_cons {deepest : Nat} {l : Text} {ls : List Text}
    (h : isStepwise deepest (l :: ls) = true) :
    ∃ k, k ≤ deepest ∧ Line.isLegible k l = true ∧ isStepwise (k + 1) ls = true := by
  rw [isStepwise] at h
  split at h
  · cases h
  · rename_i line hline
    obtain ⟨h, hls⟩ := Bool.and_eq_true_iff.mp h
    obtain ⟨hl, hlevel⟩ := Bool.and_eq_true_iff.mp h
    refine ⟨line.level, of_decide_eq_true hlevel, ?_, hls⟩
    rw [Line.isLegible, hl, hline]
    exact beq_self_eq_true line.level

theorem isStepwise_cons {deepest k : Nat} {l : Text} {ls : List Text} (hk : k ≤ deepest)
    (hl : Line.isLegible k l = true) (hls : isStepwise (k + 1) ls = true) :
    isStepwise deepest (l :: ls) = true := by
  obtain ⟨line, hline, rfl⟩ := Line.exists_of_isLegible hl
  obtain ⟨hnewline, _⟩ := Bool.and_eq_true_iff.mp hl
  rw [isStepwise, hline]
  exact Bool.and_eq_true_iff.mpr
    ⟨Bool.and_eq_true_iff.mpr ⟨hnewline, decide_eq_true hk⟩, hls⟩

theorem isLegible_of_isStepwise {deepest : Nat} {ls : List Text}
    (h : isStepwise deepest ls = true) : ∀ l ∈ ls, ∃ k, 0 ≤ k ∧ Line.isLegible k l = true := by
  induction ls generalizing deepest with
  | nil => exact fun _ hl => absurd hl List.not_mem_nil
  | cons l ls ih =>
    obtain ⟨k, _, hl, hls⟩ := exists_of_isStepwise_cons h
    intro m hm
    rcases List.mem_cons.mp hm with rfl | hm
    · exact ⟨k, Nat.zero_le k, hl⟩
    · exact ih hls m hm

/-- A beginning of stepwise lines is stepwise. -/
theorem isStepwise_of_append {deepest : Nat} {ls ms : List Text}
    (h : isStepwise deepest (ls ++ ms) = true) : isStepwise deepest ls = true := by
  induction ls generalizing deepest with
  | nil => rfl
  | cons l ls ih =>
    obtain ⟨k, hk, hl, hls⟩ := exists_of_isStepwise_cons h
    exact isStepwise_cons hk hl (ih hls)

/-- Stepwise lines go on being stepwise from any line on. -/
theorem isStepwise_of_append_cons {deepest k : Nat} {ls ms : List Text} {m : Text}
    (hm : Line.isLegible k m = true) (h : isStepwise deepest (ls ++ m :: ms) = true) :
    isStepwise k (m :: ms) = true := by
  induction ls generalizing deepest with
  | nil =>
    obtain ⟨n, _, hn, hms⟩ := exists_of_isStepwise_cons h
    obtain rfl := Line.level_unique hm hn
    exact isStepwise_cons (Nat.le_refl _) hm hms
  | cons l ls ih =>
    obtain ⟨n, _, _, hls⟩ := exists_of_isStepwise_cons h
    exact ih hls

/-- **Stepwise lines are an outline**: if none of them is less deep than the
first one may be, then each of them stands at its level, and none is lost. -/
theorem isLegible_lines_ofLines : ∀ (level : Nat) (ls : List Text),
    isStepwise level ls = true →
    (∀ l ∈ ls, ∃ k, level ≤ k ∧ Line.isLegible k l = true) →
    (Outline.ofLines level ls).isLegible level = true ∧ (Outline.ofLines level ls).lines = ls
  | level, [], _, _ => by
    rw [Outline.ofLines]
    exact ⟨rfl, rfl⟩
  | level, l :: ls, hstep, hdeep => by
    obtain ⟨k, hk, hl, hls⟩ := exists_of_isStepwise_cons hstep
    obtain ⟨n, hn, hl'⟩ := hdeep l List.mem_cons_self
    obtain rfl := Line.level_unique hl hl'
    obtain rfl : k = level := Nat.le_antisymm hk hn
    have hopens := Line.hasLevel_self_of_isLegible hl
    have hdeep' : ∀ m ∈ ls, ∃ n, k ≤ n ∧ Line.isLegible n m = true :=
      fun m hm => hdeep m (List.mem_cons_of_mem _ hm)
    have hsplit := List.takeWhile_append_dropWhile (p := fun m => !hasLevel k m) (l := ls)
    -- what stands below `l` is deeper, since it is not at its level
    have hbelow := isLegible_lines_ofLines (k + 1) (ls.takeWhile fun m => !hasLevel k m)
      (isStepwise_of_append (by rw [hsplit]; exact hls)) (by
        intro m hm
        obtain ⟨n, hn, hm'⟩ := hdeep' m ((List.takeWhile_sublist _).subset hm)
        have hne : hasLevel k m = false := by
          simpa using List.mem_takeWhile_imp hm
        rw [Line.hasLevel_of_isLegible hm'] at hne
        exact ⟨n, by have := ne_of_beq_false hne; omega, hm'⟩)
    -- the first line that is not deeper is as deep as `l`
    have hafter := isLegible_lines_ofLines k (ls.dropWhile fun m => !hasLevel k m)
      (by
        cases hdrop : ls.dropWhile fun m => !hasLevel k m with
        | nil => rfl
        | cons m ms =>
          have hm : hasLevel k m = true := by
            have := List.head?_dropWhile_not (fun m => !hasLevel k m) ls
            rw [hdrop] at this
            simpa using this
          obtain ⟨n, _, hm'⟩ := hdeep' m ((List.dropWhile_sublist _).subset
            (hdrop ▸ List.mem_cons_self))
          rw [Line.hasLevel_of_isLegible hm'] at hm
          obtain rfl := eq_of_beq hm
          rw [← hsplit, hdrop] at hls
          exact isStepwise_of_append_cons hm' hls)
      (fun m hm => hdeep' m ((List.dropWhile_sublist _).subset hm))
    rw [Outline.ofLines_cons_of_pos hopens]
    refine ⟨Outline.isLegible_entry.mpr ⟨hl, hbelow.1, hafter.1⟩, ?_⟩
    rw [Outline.lines, hbelow.2, hafter.2, hsplit]
termination_by _ ls => ls.length
decreasing_by
  · exact Nat.lt_succ_of_le (List.takeWhile_sublist _).length_le
  · exact Nat.lt_succ_of_le (List.dropWhile_sublist _).length_le

/-- A transmission: lines that can be read one after the other, the first of
them at level 0. -/
structure Transmission where
  lines : List Text
  stepwise : isStepwise 0 lines = true

namespace Transmission
variable (d : Transmission)

/-- A transmission as it is written, every line with its newline. -/
def text : Text := d.lines.flatMap fun l => l ++ ['\n']

/-- The outline of a transmission. -/
def outline : Outline := Outline.ofLines 0 d.lines

theorem isLegible_outline : d.outline.isLegible 0 = true :=
  (isLegible_lines_ofLines 0 d.lines d.stepwise (isLegible_of_isStepwise d.stepwise)).1

/-- **The outline of a transmission has all of its lines.** -/
theorem lines_outline : d.outline.lines = d.lines :=
  (isLegible_lines_ofLines 0 d.lines d.stepwise (isLegible_of_isStepwise d.stepwise)).2

theorem text_eq_joinLines : d.text = Text.joinLines (d.lines ++ [[]]) :=
  Text.flatMap_newline d.lines

/-- The blocks of a transmission are those of its lines at level 0. -/
theorem levelBlocks_lines :
    (if d.text.isEmpty then [] else blocks (hasLevel 0) (Text.lines d.text)) =
      levelBlocks (hasLevel 0) (d.lines ++ [[]]) := by
  have hnewline : ∀ l ∈ d.lines ++ [[]], '\n' ∉ l := by
    intro l hl
    have hline : l ∈ d.outline.lines ++ List.replicate 1 [] := d.lines_outline ▸ hl
    exact Outline.newline_notMem_of_mem_append d.isLegible_outline hline
  cases hls : d.lines with
  | nil =>
    rw [text, hls]
    rfl
  | cons l ls =>
    have hl : hasLevel 0 l = true := by
      obtain ⟨k, hk, hl, _⟩ := exists_of_isStepwise_cons (hls ▸ d.stepwise)
      obtain rfl : k = 0 := Nat.le_zero.mp hk
      exact Line.hasLevel_self_of_isLegible hl
    have hne : d.text.isEmpty = false := by
      rw [text, hls, List.flatMap_cons]
      cases l <;> rfl
    rw [hne, if_neg Bool.false_ne_true, d.text_eq_joinLines,
      Text.lines_joinLines (by simp) hnewline, hls, List.cons_append, levelBlocks, hl, if_pos rfl]

/-- The records of a transmission are the entries of its outline. -/
theorem records_text : records d.text = d.outline.roots := by
  have hrecords : records d.text =
      (levelBlocks (hasLevel 0) (d.lines ++ [[]])).filterMap Record.ofLines? := by
    rw [← d.levelBlocks_lines, records]
    split <;> rfl
  have hblank : ∀ l ∈ [([] : Text)], ∀ k, hasLevel k l = false := by
    intro l hl k
    rw [List.mem_singleton.mp hl]
    rfl
  rw [hrecords, ← Outline.roots_ofLines, ← d.lines_outline,
    Outline.ofLines_lines_append d.isLegible_outline hblank]

/-- The blocks of a transmission are its records as they are written. -/
theorem recordBlocks_text :
    List.Forall₂ (fun b (r : Record) => ∃ newlines, b = r.text newlines) (recordBlocks d.text)
      (records d.text) := by
  have hblocks : recordBlocks d.text =
      (levelBlocks (hasLevel 0) (d.lines ++ [[]])).map Text.joinLines := by
    rw [← d.levelBlocks_lines, recordBlocks]
    split <;> rfl
  rw [hblocks, d.records_text, List.forall₂_map_left_iff, ← d.lines_outline]
  exact Outline.levelBlocks_lines_append d.isLegible_outline 1

theorem isLegible_of_mem_records {r : Record} (hr : r ∈ records d.text) : r.isLegible = true :=
  Outline.isLegible_of_mem_roots d.isLegible_outline (d.records_text ▸ hr)

/-- The records of a transmission, one after the other, have all of its lines. -/
theorem flatMap_lines_records : (records d.text).flatMap Record.lines = d.lines := by
  rw [d.records_text, Outline.flatMap_lines_roots, d.lines_outline]

end Transmission

end Gedcom
