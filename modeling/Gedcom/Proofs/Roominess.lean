import Gedcom.Regex.Room
import Mathlib

/-!
# Expressions that have room

How much room the automata of an expression take is counted while they are laid out; what the
backward one takes for a set of characters depends on what a hash table remembers.  `Node.cost` is
a bound that takes no notice of it: a set takes at most so much for each of its ranges
(`rangeCost`), and parts add up.  An expression with small costs is not too large
(`tooLarge_eq_false`).
-/
namespace Gedcom.Regex

namespace Layout
variable {l : Layout}

theorem room_add (l : Layout) (states arcs branches : Nat) :
    (l.add states arcs branches).room = l.room + (32 * states + 8 * arcs + 4 * branches) := by
  have harcs : arcRoom = 8 := rfl
  have hbranches : branchRoom = 4 := rfl
  have hstates : stateRoom = 32 := rfl
  rw [room, room, add, harcs, hbranches, hstates]
  dsimp only
  omega

theorem room_addStates (l : Layout) (states : Nat) :
    (l.addStates states).room = l.room + 32 * states := by
  exact room_add l states 0 0

theorem room_endBranch_le (l : Layout) (number : Nat) :
    (l.endBranch number).room ≤ l.room + 68 := by
  unfold endBranch
  split
  · omega
  · rw [room_add]
  · rw [room_add]
    omega

/-- Copies take at most what each of them takes. -/
theorem room_repeated_le {f : Layout → Layout} {cost : Nat}
    (hf : ∀ l, (f l).room ≤ l.room + cost) (n : Nat) (l : Layout) :
    (repeated f n l).room ≤ l.room + n * cost := by
  induction n generalizing l with
  | zero => exact Nat.le_add_right _ _
  | succ n ih =>
    rw [repeated]
    split
    · exact Nat.le_add_right _ _
    · have hfirst := hf l
      have hothers := ih (f l)
      rw [Nat.succ_mul]
      omega

/-! ## Sets of characters -/

section Trees
variable {α : Type} [BEq α]

/-- Sequences are grouped by their first elements, and none is lost. -/
theorem sum_length_tailsByHead (ss : List (List α)) :
    ((tailsByHead ss).map List.length).sum = ss.length := by
  have hlength : (List.length ∘ fun g : List (List α) => g.map List.tail) = List.length :=
    funext fun g => List.length_map _
  rw [tailsByHead, List.map_map, hlength, ← List.length_flatten, List.flatten_splitBy]

theorem length_tailsByHead_le (ss : List (List α)) : (tailsByHead ss).length ≤ ss.length := by
  have hpos : ∀ n ∈ (tailsByHead ss).map List.length, 1 ≤ n := by
    refine List.forall_mem_map.mpr fun g hg => ?_
    rw [tailsByHead] at hg
    obtain ⟨run, hrun, rfl⟩ := List.mem_map.mp hg
    rw [List.length_map]
    exact List.length_pos_of_ne_nil (List.ne_nil_of_mem_splitBy hrun)
  have hle := List.length_le_sum_of_one_le _ hpos
  rwa [List.length_map, sum_length_tailsByHead] at hle

end Trees

/-- The ways through some sequences, and the arcs that they begin with, are at most so many as
there are sequences, at each place. -/
theorem length_waysOn_le (depth : Nat) (ss : List (List ByteRange)) :
    (waysOn depth ss).length ≤ depth * ss.length ∧
      ((waysOn depth ss).map fun ss => (tailsByHead ss).length).sum ≤ depth * ss.length := by
  induction depth generalizing ss with
  | zero => exact ⟨Nat.zero_le _, Nat.zero_le _⟩
  | succ depth ih =>
    rw [waysOn]
    split
    · exact ⟨Nat.zero_le _, Nat.zero_le _⟩
    · rename_i hempty
      have hpos : 0 < ss.length := by
        refine List.length_pos_of_ne_nil fun hnil => hempty ?_
        rw [hnil]
        rfl
      have hsum : ((tailsByHead ss).map fun g => depth * g.length).sum = depth * ss.length := by
        rw [List.sum_map_mul_left, sum_length_tailsByHead]
      have hgroups := length_tailsByHead_le ss
      have hways := List.sum_le_sum fun g (_ : g ∈ tailsByHead ss) => (ih g).1
      have harcs := List.sum_le_sum fun g (_ : g ∈ tailsByHead ss) => (ih g).2
      rw [hsum] at hways harcs
      rw [List.length_cons, List.length_flatMap, List.map_cons, List.sum_cons, List.map_flatMap,
        List.flatMap_def, List.sum_flatten, List.map_map, Nat.succ_mul]
      refine ⟨by omega, ?_⟩
      show _ + ((tailsByHead ss).map fun g =>
        ((waysOn depth g).map fun ss => (tailsByHead ss).length).sum).sum ≤ _
      omega

theorem eraseDups_sublist {α : Type} [BEq α] [LawfulBEq α] (as : List α) :
    as.eraseDups.Sublist as := by
  induction hn : as.length using Nat.strong_induction_on generalizing as with
  | _ n ih =>
    cases as with
    | nil => exact .slnil
    | cons a as =>
      rw [List.eraseDups_cons]
      have hle := (List.filter_sublist (p := fun b => !b == a) (l := as)).length_le
      refine (ih _ ?_ _ rfl |>.trans List.filter_sublist).cons_cons a
      rw [← hn, List.length_cons]
      omega

/-- What a set takes at most for each of its ranges. -/
def rangeCost : Nat := 5280

/-- At most so many sequences, all of one length. -/
structure Short (count length : Nat) (ss : List (List (Nat × Nat))) : Prop where
  count_le : ss.length ≤ count
  length_eq : ∀ s ∈ ss, s.length = length

namespace Short
variable {a b n : Nat} {ss ts : List (List (Nat × Nat))}

theorem nil (a n : Nat) : Short a n [] := ⟨Nat.zero_le a, fun _ hs => absurd hs List.not_mem_nil⟩

theorem mono (h : Short a n ss) (hab : a ≤ b) : Short b n ss :=
  ⟨h.count_le.trans hab, h.length_eq⟩

theorem append (hss : Short a n ss) (hts : Short b n ts) : Short (a + b) n (ss ++ ts) where
  count_le := by
    rw [List.length_append]
    exact Nat.add_le_add hss.count_le hts.count_le
  length_eq s hs := (List.mem_append.mp hs).elim (hss.length_eq s) (hts.length_eq s)

theorem map (h : Short a n ss) {m : Nat} {f : List (Nat × Nat) → List (Nat × Nat)}
    (hf : ∀ s, s.length = n → (f s).length = m) : Short a m (ss.map f) where
  count_le := by
    rw [List.length_map]
    exact h.count_le
  length_eq s hs := by
    obtain ⟨r, hr, rfl⟩ := List.mem_map.mp hs
    exact hf r (h.length_eq r hr)

theorem cons (h : Short a n ss) (d : Nat × Nat) : Short a (n + 1) (ss.map (d :: ·)) :=
  h.map fun s hs => by rw [List.length_cons, hs]

theorem otherwise {p : Prop} [Decidable p] (h : Short a n ss) :
    Short a n (if p then [] else ss) := by
  split
  · exact nil a n
  · exact h

end Short

/-- With every digit there may be one range more on either side. -/
theorem short_digitSequences (k lo hi : Nat) :
    Short (2 ^ (k + 1) - 1) (k + 1) (digitSequences k lo hi) := by
  induction k generalizing lo hi with
  | zero => exact ⟨Nat.le_refl _, fun ds hds => List.mem_singleton.mp hds ▸ rfl⟩
  | succ k ih =>
    have hpow : 2 ^ (k + 2) - 1 = 2 ^ (k + 1) - 1 + 1 + (2 ^ (k + 1) - 1) := by
      have hpos := Nat.one_le_two_pow (n := k + 1)
      rw [Nat.pow_succ]
      omega
    have hmiddle : ∀ (p : Prop) [Decidable p] (d : Nat × Nat),
        Short 1 (k + 2) (if p then [d :: List.replicate (k + 1) (0, 63)] else []) := by
      intro p _ d
      split
      · refine ⟨Nat.le_refl _, fun ds hds => ?_⟩
        rw [List.mem_singleton.mp hds, List.length_cons, List.length_replicate]
      · exact Short.nil _ _
    rw [digitSequences]
    dsimp only
    split
    · exact ((ih _ _).cons _).mono (by omega)
    · rw [hpow]
      exact (((ih _ _).cons _).otherwise.append (hmiddle _ _)).append ((ih _ _).cons _).otherwise

/-- The characters of a range are written by few sequences of few bytes. -/
theorem length_byteSequences_le (s : CharSet) :
    s.byteSequences.length ≤ 33 * s.ranges.length ∧
      ∀ bs ∈ s.byteSequences, bs.length ≤ 4 := by
  have hblock : ∀ (p : Prop) [Decidable p] (lo hi k lead : Nat),
      Short (2 ^ (k + 1) - 1) (k + 1)
        (if p then (digitSequences k lo hi).map (bytesOfDigits lead) else []) := by
    intro p _ lo hi k lead
    split
    · refine (short_digitSequences k lo hi).map fun ds hds => ?_
      rw [← hds]
      cases ds with
      | nil => rfl
      | cons d ds => simp [bytesOfDigits]
    · exact Short.nil _ _
  have hcount : ∀ lo hi, (byteSequences lo hi).length ≤ 33 := by
    intro lo hi
    rw [byteSequences, List.length_flatMap]
    refine (List.sum_le_sum (g := fun b : Nat × Nat × Nat × Nat => 2 ^ (b.2.2.1 + 1) - 1)
      fun b _ => ?_).trans (by decide)
    exact (hblock _ _ _ _ _).count_le
  have hlength : ∀ lo hi, ∀ bs ∈ byteSequences lo hi, bs.length ≤ 4 := by
    intro lo hi bs hbs
    obtain ⟨b, hb, hbs⟩ := List.mem_flatMap.mp hbs
    have hk := (by decide : ∀ b ∈ utf8Blocks, b.2.2.1 + 1 ≤ 4) b hb
    exact (hblock _ _ _ _ _).length_eq bs hbs ▸ hk
  constructor
  · have hsum := List.sum_le_sum fun r (_ : r ∈ s.ranges) => hcount r.1 r.2
    rw [List.map_const', List.sum_replicate_nat, Nat.mul_comm] at hsum
    rw [CharSet.byteSequences, List.length_flatMap]
    exact hsum
  · intro bs hbs
    obtain ⟨r, _, hbs⟩ := List.mem_flatMap.mp hbs
    exact hlength r.1 r.2 bs hbs

theorem room_forwardSet_le (s : CharSet) (l : Layout) :
    (forwardSet s l).room ≤ l.room + 32 + 160 * s.byteSequences.length := by
  obtain ⟨hways, harcs⟩ := length_waysOn_le 4 s.byteSequences
  have hsub := eraseDups_sublist (waysOn 4 s.byteSequences)
  have hlength := hsub.length_le
  have hsum := (hsub.map fun ss => (tailsByHead ss).length).sum_le_sum fun _ _ => Nat.zero_le _
  have hfold : ∀ (states : List (List (List ByteRange))) (n : Nat),
      states.foldl (fun n ss => n + (tailsByHead ss).length) n =
        n + (states.map fun ss => (tailsByHead ss).length).sum := by
    intro states
    induction states with
    | nil => exact fun n => rfl
    | cons ss states ih =>
      intro n
      rw [List.foldl_cons, ih, List.map_cons, List.sum_cons, Nat.add_assoc]
  rw [forwardSet, room_add, hfold]
  omega

theorem room_backwardSequence_le (bs : List ByteRange) (target : Nat) (lc : Layout × Cache) :
    (backwardSequence bs target lc).1.room ≤ lc.1.room + (32 * bs.length + 4) := by
  induction bs generalizing target lc with
  | nil =>
    rw [backwardSequence, room_add]
    omega
  | cons r rs ih =>
    obtain ⟨l, c⟩ := lc
    rw [backwardSequence, List.length_cons]
    split
    · rename_i state _
      have hrest := ih state (l, c)
      omega
    · have hrest := ih l.states (l.addStates 1, c.insert ⟨target, r⟩ l.states)
      dsimp only at hrest ⊢
      rw [room_addStates] at hrest
      omega

theorem room_backwardSet_le (s : CharSet) (l : Layout) :
    (backwardSet s l).room ≤ l.room + 64 + 132 * s.byteSequences.length := by
  have hfold : ∀ (bss : List (List ByteRange)) (target : Nat) (lc : Layout × Cache),
      (∀ bs ∈ bss, bs.length ≤ 4) →
      (bss.foldl (fun lc bs => backwardSequence bs target lc) lc).1.room ≤
        lc.1.room + 132 * bss.length := by
    intro bss target
    induction bss with
    | nil => exact fun lc _ => Nat.le_refl _
    | cons bs bss ih =>
      intro lc hlength
      have hfirst := room_backwardSequence_le bs target lc
      have hbs := hlength bs List.mem_cons_self
      have hothers := ih (backwardSequence bs target lc)
        fun b hb => hlength b (List.mem_cons_of_mem _ hb)
      rw [List.foldl_cons, List.length_cons]
      omega
  have hall := hfold s.byteSequences (l.states + 1) (l.addStates 2, {})
    (length_byteSequences_le s).2
  rw [room_addStates] at hall
  rw [backwardSet]
  exact hall

/-- **A set of characters** takes at most so much for each of its ranges. -/
theorem room_chars_le (d : Direction) (s : CharSet) (l : Layout) :
    (l.chars d s).room ≤ l.room + (64 + rangeCost * s.ranges.length) := by
  obtain ⟨hcount, _⟩ := length_byteSequences_le s
  have hforward := room_forwardSet_le s l
  have hbackward := room_backwardSet_le s l
  have hcost : rangeCost = 33 * 160 := rfl
  rw [hcost]
  unfold chars
  split
  · rw [room_add]
    omega
  · cases d with
    | forward =>
      dsimp only
      omega
    | backward =>
      dsimp only
      omega

/-! ## Alternations of plain texts -/

/-- What a step takes does not depend on what has been laid out. -/
def Adds (f : Layout → Layout) : Prop := ∀ l, (f l).room = l.room + (f {}).room

theorem adds_foldl {α : Type} {f : Layout → α → Layout} {as : List α}
    (hf : ∀ a ∈ as, Adds fun l => f l a) : Adds fun l => as.foldl f l := by
  induction as with
  | nil => exact fun l => rfl
  | cons a as ih =>
    obtain ⟨ha, has⟩ := List.forall_mem_cons.mp hf
    intro l
    have hrest := ih has
    have hl := hrest (f l a)
    have hnone := hrest (f {} a)
    dsimp only at hl hnone ⊢
    rw [List.foldl_cons, List.foldl_cons, hl, hnone, ha l, Nat.add_assoc]

theorem adds_add (states arcs branches : Nat) : Adds fun l => l.add states arcs branches := by
  intro l
  have hnone : room {} = 0 := rfl
  dsimp only
  rw [room_add, room_add, hnone, Nat.zero_add]

theorem Adds.comp {f g : Layout → Layout} (hg : Adds g) (hf : Adds f) : Adds fun l => g (f l) := by
  intro l
  have hl := hg (f l)
  have hnone := hg (f {})
  dsimp only
  rw [hl, hnone, hf l, Nat.add_assoc]

theorem adds_words (depth : Nat) (ws : List (List UInt8)) : Adds (words depth ws) := by
  induction depth generalizing ws with
  | zero => exact fun l => rfl
  | succ depth ih =>
    show Adds fun l => words (depth + 1) ws l
    simp only [words]
    split
    · exact fun l => rfl
    · refine Adds.comp (adds_foldl fun c _ => adds_foldl fun ws _ => ih ws) ?_
      exact (adds_add _ _ _).comp (adds_foldl fun c _ => adds_add _ _ _)

theorem adds_texts (d : Direction) (ts : List Text) : Adds (texts d ts) :=
  (adds_words _ _).comp (adds_add 1 0 0)

end Layout

/-! ## Expressions -/

namespace Node

/-- What an expression takes at most. -/
def cost (d : Direction) : Node → Nat
  | empty | look _ => 100
  | chars s _ => 260 + Layout.rangeCost * s.ranges.length
  | seq a b => a.cost d + b.cost d + 68
  | alt a b =>
    a.cost d + b.cost d + 136 +
      (((alt a b).branches.mapM text?).map fun ts => (Layout.texts d ts {}).room).getD 0
  | group _ _ a => a.cost d + 132
  | times min max _ a => (max.elim (min + 1) (Nat.max min)) * (a.cost d + 40) + 180

/-- A node takes at most what it costs, as whichever branch it is laid out. -/
def Fits (d : Direction) (n : Node) : Prop := ∀ i l, (n.layOut d i l).room ≤ l.room + n.cost d

section Fits
variable {d : Direction} {a b : Node}

theorem fits_chars (d : Direction) (s : CharSet) (bytes : Bool) : (chars s bytes).Fits d := by
  intro i l
  rw [layOut, cost]
  refine (Layout.room_endBranch_le _ i).trans ?_
  split
  · rename_i c _
    have hsize := c.utf8Size_le_four
    rw [Layout.room_addStates]
    omega
  · have hset := Layout.room_chars_le d s l
    omega

theorem Fits.seq (ha : a.Fits d) (hb : b.Fits d) : (a.seq b).Fits d := by
  intro i l
  unfold layOut
  rw [cost]
  refine (Layout.room_endBranch_le _ i).trans ?_
  cases d with
  | forward =>
    have hfirst := ha 0 l
    have hsecond := hb 0 (a.layOut .forward 0 l)
    dsimp only
    omega
  | backward =>
    have hfirst := hb 0 l
    have hsecond := ha 0 (b.layOut .backward 0 l)
    dsimp only
    omega

theorem Fits.alt (ha : a.Fits d) (hb : b.Fits d) : (a.alt b).Fits d := by
  intro i l
  unfold layOut
  rw [cost]
  split
  · rename_i ts hts
    rw [hts, Option.map_some, Option.getD_some, Layout.adds_texts d ts l]
    omega
  · have hbranch : ∀ number, (b.layOut d (number + 1)
        ((a.layOut d 0 l).endBranch number)).room ≤ l.room + (a.cost d + b.cost d + 136) := by
      intro number
      have hfirst := ha 0 l
      have hfork := Layout.room_endBranch_le (a.layOut d 0 l) number
      have hsecond := hb (number + 1) ((a.layOut d 0 l).endBranch number)
      omega
    exact (hbranch _).trans (by omega)

theorem Fits.group (ha : a.Fits d) (index : Nat) (name : Option String) :
    (group index name a).Fits d := by
  intro i l
  unfold layOut
  rw [cost]
  refine (Layout.room_endBranch_le _ i).trans ?_
  cases d with
  | forward =>
    have hinner := ha 0 (l.addStates 1)
    rw [Layout.room_addStates] at hinner
    dsimp only
    rw [Layout.room_addStates]
    omega
  | backward =>
    have hinner := ha 0 l
    dsimp only
    omega

/-- The copies that have to be there. -/
theorem Fits.room_required_le (ha : a.Fits d) (min : Nat) (l : Layout) :
    (if min = 0 then l.addStates 1 else Layout.repeated (a.layOut d 0) min l).room ≤
      l.room + 32 + min * (a.cost d + 40) := by
  split
  · rw [Layout.room_addStates]
    omega
  · have hall := Layout.room_repeated_le (ha 0) min l
    have hle := Nat.mul_le_mul_left min (Nat.le_add_right (a.cost d) 40)
    omega

/-- The copies that may be left out, each behind a fork. -/
theorem Fits.room_optional_le (ha : a.Fits d) (n : Nat) (l : Layout) :
    (Layout.repeated (fun l => a.layOut d 0 (l.add 1 0 2)) n l).room ≤
      l.room + n * (a.cost d + 40) := by
  refine Layout.room_repeated_le (fun l => ?_) n l
  have hinner := ha 0 (l.add 1 0 2)
  rw [Layout.room_add] at hinner
  omega

theorem Fits.times (ha : a.Fits d) (min : Nat) (max : Option Nat) (greedy : Bool) :
    (a.times min max greedy).Fits d := by
  intro i l
  unfold layOut
  rw [cost]
  refine (Layout.room_endBranch_le _ i).trans ?_
  have hinner := ha 0 (l.addStates 1)
  rw [Layout.room_addStates] at hinner
  split
  · have hplain := ha 0 l
    rw [Option.elim_none, Nat.zero_add, Nat.one_mul]
    split
    · rw [Layout.room_add]
      omega
    · rw [Layout.room_add]
      omega
  · rw [Option.elim_some, Nat.max_eq_max, Nat.zero_max, Nat.one_mul, Layout.room_add]
    omega
  · have hall := Layout.room_repeated_le (ha 0) min l
    have hle := Nat.mul_le_mul (Nat.le_add_right min 1) (Nat.le_add_right (a.cost d) 40)
    rw [Option.elim_none, Layout.room_add]
    omega
  · rename_i m _
    have hmax : min * (a.cost d + 40) + (m - min) * (a.cost d + 40) =
        min.max m * (a.cost d + 40) := by
      rw [← Nat.add_mul]
      refine congrArg (· * (a.cost d + 40)) ?_
      rw [Nat.max_eq_max]
      omega
    have hrequired := ha.room_required_le min l
    have hothers := ha.room_optional_le (m - min) (Layout.addStates
      (if min = 0 then l.addStates 1 else Layout.repeated (a.layOut d 0) min l) 1)
    rw [Layout.room_addStates] at hothers
    rw [Option.elim_some]
    dsimp only
    split
    · omega
    · omega

end Fits

theorem room_layOut_le (d : Direction) (n : Node) : n.Fits d := by
  -- a node without parts is one state
  have hstate : ∀ (i : Nat) (l : Layout), ((l.addStates 1).endBranch i).room ≤ l.room + 100 := by
    intro i l
    have hend := (l.addStates 1).room_endBranch_le i
    rw [Layout.room_addStates] at hend
    omega
  induction n with
  | empty | look _ => exact hstate
  | chars s bytes => exact fits_chars d s bytes
  | seq a b iha ihb => exact iha.seq ihb
  | alt a b iha ihb => exact iha.alt ihb
  | times min max greedy a ih => exact ih.times min max greedy
  | group index name a ih => exact ih.group index name

/-- **An expression with small costs is not too large.** -/
theorem tooLarge_eq_false {n : Node} (h : ∀ d, n.cost d ≤ 10000000) : n.tooLarge = false := by
  have hmax : Layout.maxRoom = 10485760 := rfl
  have hloop : ∀ p : Prop, ∀ [Decidable p],
      (if p then Layout.addStates {} 1 else Layout.add {} 3 1 2).room ≤ 112 := by
    intro p _
    split <;> decide
  have hfull : ∀ d, (n.layout d).isFull = false := by
    intro d
    have hn := h d
    rw [Layout.isFull, hmax, decide_eq_false_iff_not]
    unfold layout
    cases d with
    | forward =>
      have hroom := room_layOut_le .forward n 0
        (((if n.onlyAtStart then Layout.addStates {} 1 else Layout.add {} 3 1 2)).addStates 1)
      have hstart := hloop (n.onlyAtStart = true)
      rw [Layout.room_addStates] at hroom
      dsimp only
      rw [Layout.room_addStates]
      omega
    | backward =>
      have hroom := room_layOut_le .backward n 0
        (if n.onlyAtEnd then Layout.addStates {} 1 else Layout.add {} 3 1 2)
      have hstart := hloop (n.onlyAtEnd = true)
      dsimp only
      rw [Layout.room_addStates]
      omega
  rw [tooLarge, hfull, hfull]
  rfl

end Node
end Gedcom.Regex
