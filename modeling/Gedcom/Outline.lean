import Gedcom.Line

/-!
# Outlines

The lines of a transmission form an outline: a line of level `n` opens an entry
that goes on until the next line of the same level, and the lines of level
`n + 1` in between open the entries below it.  Only the level number at the
beginning of a line counts, and only the exact level: lines without a number,
and lines more than one level deeper than the entry they stand in, belong to
the text of that entry and open none.

The same rule cuts a text into blocks, one for every line of a given level;
`joinLines_blocksBefore` says that the blocks make up the whole text.
-/
namespace Gedcom

/-! ### Blocks -/

/-- Put one line in front of lines that are already grouped into blocks: it
stays alone if the first block begins with an opening line. -/
def consBlock (opens : Text → Bool) (l : Text) : List (List Text) → List (List Text)
  | [] => [[l]]
  | block :: rest =>
    if block.head?.any opens then [l] :: block :: rest else (l :: block) :: rest

/-- Lines grouped into blocks.  A block begins at the first line and at every
later line that opens one. -/
def blocks (opens : Text → Bool) (ls : List Text) : List (List Text) :=
  ls.foldr (consBlock opens) []

/-- Whether a text begins with exactly this level number. -/
def hasLevel (level : Nat) (l : Text) : Bool := Line.levelOf? l == some level

/-- A text cut in front of every line of a level.  The first block holds
whatever stands in front of the first such line. -/
def blocksBefore (level : Nat) (t : Text) : List Text :=
  (blocks (hasLevel level) (Text.lines t)).map Text.joinLines

/-- The records of a transmission: the text cut in front of every line of
level 0.  A text without characters has no records. -/
def recordBlocks (t : Text) : List Text := if t.isEmpty then [] else blocksBefore 0 t

/-- The structures of a level inside a structure, without what stands in front
of the first one. -/
def substructureBlocks (level : Nat) (t : Text) : List Text := (blocksBefore level t).tail

theorem flatten_consBlock (opens : Text → Bool) (l : Text) (bs : List (List Text)) :
    (consBlock opens l bs).flatten = l :: bs.flatten := by
  cases bs with
  | nil => rfl
  | cons b rest => by_cases h : b.head?.any opens <;> simp [consBlock, h]

/-- Grouping lines into blocks keeps every line in its place. -/
theorem flatten_blocks (opens : Text → Bool) (ls : List Text) :
    (blocks opens ls).flatten = ls := by
  induction ls with
  | nil => rfl
  | cons l ls ih =>
    rw [blocks, List.foldr_cons, flatten_consBlock]
    exact congrArg (l :: ·) ih

theorem consBlock_forall_ne_nil {opens : Text → Bool} {l : Text} {bs : List (List Text)}
    (h : ∀ b ∈ bs, b ≠ []) : ∀ b ∈ consBlock opens l bs, b ≠ [] := by
  cases bs with
  | nil => simp [consBlock]
  | cons b rest =>
    by_cases hb : b.head?.any opens <;> simp_all [consBlock]

/-- Every block has at least one line. -/
theorem ne_nil_of_mem_blocks {opens : Text → Bool} {ls : List Text} :
    ∀ b ∈ blocks opens ls, b ≠ [] := by
  induction ls with
  | nil => simp [blocks]
  | cons l ls ih => exact consBlock_forall_ne_nil ih

theorem joinLines_append {ls ms : List Text} (hl : ls ≠ []) (hm : ms ≠ []) :
    Text.joinLines (ls ++ ms) = Text.joinLines [Text.joinLines ls, Text.joinLines ms] := by
  induction ls with
  | nil => exact absurd rfl hl
  | cons l ls ih =>
    cases ls with
    | nil =>
      cases ms with
      | nil => exact absurd rfl hm
      | cons m ms => simp [Text.joinLines, List.intercalate]
    | cons k ls =>
      have := ih (by simp)
      simp [Text.joinLines, List.intercalate] at this ⊢
      exact this

theorem joinLines_map_joinLines {bs : List (List Text)} (h : ∀ b ∈ bs, b ≠ []) :
    Text.joinLines (bs.map Text.joinLines) = Text.joinLines bs.flatten := by
  induction bs with
  | nil => rfl
  | cons b bs ih =>
    have hb := h b List.mem_cons_self
    have ih := ih fun c hc => h c (List.mem_cons_of_mem _ hc)
    cases bs with
    | nil => simp [Text.joinLines, List.intercalate]
    | cons c cs =>
      have hne : (c :: cs).flatten ≠ [] := by
        have := h c (by simp)
        simp [this]
      rw [List.flatten_cons, joinLines_append hb hne, ← ih]
      simp [Text.joinLines, List.intercalate]

/-- The blocks of a text make up the whole text. -/
theorem joinLines_blocksBefore (level : Nat) (t : Text) :
    Text.joinLines (blocksBefore level t) = t := by
  rw [blocksBefore, joinLines_map_joinLines ne_nil_of_mem_blocks, flatten_blocks,
    Text.joinLines_lines]

theorem length_le_joinLines {b : Text} {ls : List Text} (hb : b ∈ ls) :
    b.length ≤ (Text.joinLines ls).length := by
  induction ls with
  | nil => cases hb
  | cons l ls ih =>
    cases ls with
    | nil =>
      obtain rfl := List.mem_singleton.mp hb
      exact Nat.le_of_eq (congrArg List.length (Text.joinLines_singleton b).symm)
    | cons m ls =>
      rw [Text.joinLines_cons_cons, List.length_append, List.length_cons]
      rcases List.mem_cons.mp hb with rfl | hb
      · omega
      · have := ih hb
        omega

/-- A structure inside a structure is shorter than it. -/
theorem length_lt_of_mem_substructureBlocks {level : Nat} {b t : Text}
    (hb : b ∈ substructureBlocks level t) : b.length < t.length := by
  unfold substructureBlocks at hb
  have ht := joinLines_blocksBefore level t
  cases hbs : blocksBefore level t with
  | nil => rw [hbs] at hb; cases hb
  | cons c cs =>
    rw [hbs] at ht hb
    cases cs with
    | nil => cases hb
    | cons d cs =>
      rw [← ht, Text.joinLines_cons_cons, List.length_append, List.length_cons]
      have := length_le_joinLines (List.tail_cons ▸ hb)
      omega

/-! ### Outlines -/

/-- A sequence of entries, each a line with the entries below it. -/
inductive Outline
  /-- No entry. -/
  | empty
  /-- A line, the entries below it, and the entries after it. -/
  | entry (line : Text) (below after : Outline)
deriving DecidableEq, Repr

/-- The outline of some lines at a level.  Lines in front of the first line of
the level open no entry. -/
def Outline.ofLines (level : Nat) : List Text → Outline
  | [] => .empty
  | l :: ls =>
    if hasLevel level l then
      .entry l (ofLines (level + 1) (ls.takeWhile fun k => !hasLevel level k))
        (ofLines level (ls.dropWhile fun k => !hasLevel level k))
    else ofLines level ls
termination_by ls => ls.length
decreasing_by
  · exact Nat.lt_succ_of_le (List.takeWhile_sublist _).length_le
  · exact Nat.lt_succ_of_le (List.dropWhile_sublist _).length_le
  · exact Nat.lt_succ_self _

/-- A record: its first line, whatever it is, and the outline below it. -/
structure Record where
  head : Text
  below : Outline
deriving DecidableEq, Repr

/-- The record of the lines of a block. -/
def Record.ofLines? : List Text → Option Record
  | [] => none
  | l :: ls => some ⟨l, Outline.ofLines 1 ls⟩

/-- The records of a transmission. -/
def records (t : Text) : List Record :=
  if t.isEmpty then []
  else (blocks (hasLevel 0) (Text.lines t)).filterMap Record.ofLines?

end Gedcom
