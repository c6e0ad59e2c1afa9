import Gedcom.Text

/-!
# Sets of characters

A set of characters is a list of closed ranges of code points, in ascending
order, disjoint and never adjacent, so that a set has one representation.
Insertion of a range and the union of two sets keep this form; intersection and
differences are built from union and complement.

`inRanges_insertRange`, `inRanges_gaps` and `contains_union` say which code
points the operations hold.
-/
namespace Gedcom

/-- A set of characters, as ascending ranges of code points. -/
structure CharSet where
  ranges : List (Nat × Nat) := []
deriving DecidableEq, Repr

namespace CharSet

/-- The greatest code point. -/
def lastCode : Nat := 0x10FFFF

/-- Whether a code point lies in one of some ascending ranges. -/
def inRanges (n : Nat) : List (Nat × Nat) → Bool
  | [] => false
  | (lo, hi) :: rest => if n < lo then false else n ≤ hi || inRanges n rest

/-- Whether the set holds a character. -/
def contains (s : CharSet) (c : Char) : Bool := inRanges c.toNat s.ranges

/-- Add a range, joined with every range that it meets or touches. -/
def insertRange (lo hi : Nat) : List (Nat × Nat) → List (Nat × Nat)
  | [] => [(lo, hi)]
  | (a, b) :: rest =>
    if hi + 1 < a then (lo, hi) :: (a, b) :: rest
    else if b + 1 < lo then (a, b) :: insertRange lo hi rest
    else insertRange (min lo a) (max hi b) rest

/-- The ranges between some ascending ranges, from the code point `start` on. -/
def gaps (start : Nat) : List (Nat × Nat) → List (Nat × Nat)
  | [] => if start ≤ lastCode then [(start, lastCode)] else []
  | (lo, hi) :: rest =>
    if start < lo then (start, lo - 1) :: gaps (hi + 1) rest else gaps (hi + 1) rest

/-- A range woven into ascending ranges, and what `more` makes of the ranges
behind it. -/
def weave (r : Nat × Nat) (more : List (Nat × Nat) → List (Nat × Nat)) :
    List (Nat × Nat) → List (Nat × Nat)
  | [] => r :: more []
  | s :: rest => if r.1 ≤ s.1 then r :: more (s :: rest) else s :: weave r more rest

/-- The ranges of two ascending lists, in the order of their first code points. -/
def merge : List (Nat × Nat) → List (Nat × Nat) → List (Nat × Nat)
  | [], ts => ts
  | r :: rest, ts => weave r (merge rest) ts

/-- A range and the ranges that begin after it, joined where they meet or touch. -/
def joinFrom (lo hi : Nat) : List (Nat × Nat) → List (Nat × Nat)
  | [] => [(lo, hi)]
  | (a, b) :: rest =>
    if a ≤ hi + 1 then joinFrom lo (max hi b) rest else (lo, hi) :: joinFrom a b rest

/-- Ranges in the order of their first code points, joined where they meet or touch. -/
def join : List (Nat × Nat) → List (Nat × Nat)
  | [] => []
  | (lo, hi) :: rest => joinFrom lo hi rest

/-- The set without characters. -/
def empty : CharSet := ⟨[]⟩

/-- The set of all characters. -/
def all : CharSet := ⟨[(0, lastCode)]⟩

/-- The set of the ASCII characters. -/
def ascii : CharSet := ⟨[(0x0, 0x7f)]⟩

/-- The set of one character. -/
def single (c : Char) : CharSet := ⟨[(c.toNat, c.toNat)]⟩

/-- The set of the characters from `lo` to `hi`. -/
def range (lo hi : Char) : CharSet := ⟨[(lo.toNat, hi.toNat)]⟩

/-- The set of the characters of a text. -/
def ofText (t : Text) : CharSet :=
  ⟨t.foldr (fun c rs => insertRange c.toNat c.toNat rs) []⟩

/-- The set of some ranges of code points, given in any order. -/
def ofRanges (rs : List (Nat × Nat)) : CharSet :=
  ⟨rs.foldr (fun r acc => insertRange r.1 r.2 acc) []⟩

/-- The characters of either set. -/
def union (s t : CharSet) : CharSet := ⟨join (merge s.ranges t.ranges)⟩

/-- The characters of any of some sets. -/
def unions (sets : List CharSet) : CharSet := sets.foldr union empty

/-- The characters that are not in the set. -/
def complement (s : CharSet) : CharSet := ⟨gaps 0 s.ranges⟩

/-- The characters of both sets. -/
def inter (s t : CharSet) : CharSet := (s.complement.union t.complement).complement

/-- The characters of the first set that are not in the second. -/
def diff (s t : CharSet) : CharSet := s.inter t.complement

/-- The characters of exactly one of two sets. -/
def symmDiff (s t : CharSet) : CharSet := (s.diff t).union (t.diff s)

/-- The character of a set that has exactly one. -/
def single? (s : CharSet) : Option Char :=
  match s.ranges with
  | [(lo, hi)] => if lo = hi then some (Char.ofNat lo) else none
  | _ => none

/-- Whether all characters of the set are ASCII characters. -/
def isAscii (s : CharSet) : Bool := s.ranges.all fun r => r.2 ≤ 0x7f

/-! ### Membership -/

theorem inRanges_cons {n lo hi : Nat} {rest : List (Nat × Nat)} :
    inRanges n ((lo, hi) :: rest) = (decide (lo ≤ n) && (decide (n ≤ hi) || inRanges n rest)) := by
  by_cases h : n < lo
  · simp [inRanges, h, Nat.not_le.2 h]
  · simp [inRanges, h, Nat.le_of_not_lt h]

/-- Ranges are ascending, disjoint and not adjacent, and begin at `from` or later. -/
def Ascending : (start : Nat) → List (Nat × Nat) → Prop
  | _, [] => True
  | start, (lo, hi) :: rest => start ≤ lo ∧ lo ≤ hi ∧ Ascending (hi + 2) rest

theorem Ascending.mono {a b : Nat} {rs : List (Nat × Nat)} (h : Ascending b rs)
    (hab : a ≤ b) : Ascending a rs := by
  cases rs with
  | nil => trivial
  | cons r rs => exact ⟨Nat.le_trans hab h.1, h.2⟩

theorem inRanges_eq_false_of_lt {n start : Nat} {rs : List (Nat × Nat)}
    (h : Ascending start rs) (hn : n < start) : inRanges n rs = false := by
  cases rs with
  | nil => rfl
  | cons r rs => simp [inRanges, Nat.lt_of_lt_of_le hn h.1]

/-- Inserting a range keeps the form of a set. -/
theorem ascending_insertRange {lo hi start : Nat} {rs : List (Nat × Nat)}
    (h : Ascending start rs) (hs : start ≤ lo) (hlh : lo ≤ hi) :
    Ascending start (insertRange lo hi rs) := by
  induction rs generalizing lo hi start with
  | nil => exact ⟨hs, hlh, trivial⟩
  | cons r rs ih =>
    obtain ⟨a, b⟩ := r
    obtain ⟨ha, hab, hr⟩ := h
    unfold insertRange
    split
    · exact ⟨hs, hlh, by omega, hab, hr⟩
    · split
      · exact ⟨ha, hab, ih hr (by omega) hlh⟩
      · exact ih (hr.mono (by omega)) (by omega) (by omega)

/-- Inserting a range adds its code points and no others. -/
theorem inRanges_insertRange {n lo hi start : Nat} {rs : List (Nat × Nat)}
    (h : Ascending start rs) (hlh : lo ≤ hi) :
    inRanges n (insertRange lo hi rs) = (decide (lo ≤ n ∧ n ≤ hi) || inRanges n rs) := by
  induction rs generalizing lo hi start with
  | nil =>
    by_cases h1 : lo ≤ n <;> by_cases h2 : n ≤ hi <;>
      simp [insertRange, inRanges_cons, inRanges, h1, h2]
  | cons r rs ih =>
    obtain ⟨a, b⟩ := r
    obtain ⟨ha, hab, hr⟩ := h
    unfold insertRange
    split
    · rw [inRanges_cons]
      by_cases h1 : lo ≤ n <;> by_cases h2 : n ≤ hi
      · simp [h1, h2]
      · simp [h1, h2]
      · have : n < a := by omega
        simp [h1, inRanges, this]
      · omega
    · split
      · rw [inRanges_cons, inRanges_cons, ih hr hlh]
        by_cases h1 : a ≤ n <;> by_cases h2 : n ≤ b <;> simp [h1, h2] <;> omega
      · rw [ih (hr.mono (Nat.le_refl _)) (by omega), inRanges_cons]
        have hlow : n < b + 2 → inRanges n rs = false := inRanges_eq_false_of_lt hr
        by_cases h1 : a ≤ n <;> by_cases h2 : n ≤ b <;> by_cases h3 : lo ≤ n <;>
          by_cases h4 : n ≤ hi <;> simp [h1, h2, h3, h4] <;>
          grind

/-- The gaps between ascending ranges have the form of a set. -/
theorem ascending_gaps {start : Nat} {rs : List (Nat × Nat)} (h : Ascending start rs) :
    Ascending start (gaps start rs) := by
  induction rs generalizing start with
  | nil =>
    unfold gaps
    split
    · exact ⟨Nat.le_refl _, by assumption, trivial⟩
    · trivial
  | cons r rs ih =>
    obtain ⟨lo, hi⟩ := r
    obtain ⟨hlo, hlh, hr⟩ := h
    unfold gaps
    split
    · exact ⟨Nat.le_refl _, by omega, (ih (hr.mono (by omega))).mono (by omega)⟩
    · exact (ih (hr.mono (by omega))).mono (by omega)

/-- The gaps between ascending ranges hold the code points that the ranges do not. -/
theorem inRanges_gaps {n start : Nat} {rs : List (Nat × Nat)} (h : Ascending start rs)
    (hs : start ≤ n) (hn : n ≤ lastCode) : inRanges n (gaps start rs) = !inRanges n rs := by
  induction rs generalizing start with
  | nil =>
    have : start ≤ lastCode := Nat.le_trans hs hn
    simp [gaps, this, inRanges_cons, inRanges, hs, hn]
  | cons r rs ih =>
    obtain ⟨lo, hi⟩ := r
    obtain ⟨hlo, hlh, hr⟩ := h
    have key : hi + 1 ≤ n → inRanges n (gaps (hi + 1) rs) = !inRanges n rs := fun hhi =>
      ih (hr.mono (by omega)) hhi
    have low : n < hi + 1 → inRanges n (gaps (hi + 1) rs) = false := fun hlt =>
      inRanges_eq_false_of_lt (ascending_gaps (hr.mono (by omega))) hlt
    unfold gaps
    rw [inRanges_cons]
    split
    · rw [inRanges_cons]
      by_cases h1 : lo ≤ n
      · have h3 : ¬n ≤ lo - 1 := by omega
        by_cases h2 : n ≤ hi
        · simp [h1, h2, h3, low (Nat.lt_succ_of_le h2)]
        · simp [hs, h1, h2, h3, key (Nat.lt_of_not_le h2)]
      · have h3 : n ≤ lo - 1 := by omega
        simp [hs, h1, h3]
    · have h1 : lo ≤ n := by omega
      by_cases h2 : n ≤ hi
      · simp [h1, h2, low (Nat.lt_succ_of_le h2)]
      · simp [h1, h2, key (Nat.lt_of_not_le h2)]

/-! ### Unions -/

/-- Ranges are in the order of their first code points, from `start` on. -/
def Ordered : (start : Nat) → List (Nat × Nat) → Prop
  | _, [] => True
  | start, (lo, hi) :: rest => start ≤ lo ∧ lo ≤ hi ∧ Ordered lo rest

theorem Ordered.mono {a b : Nat} {rs : List (Nat × Nat)} (h : Ordered b rs) (hab : a ≤ b) :
    Ordered a rs := by
  cases rs with
  | nil => trivial
  | cons r rs => exact ⟨Nat.le_trans hab h.1, h.2⟩

theorem Ascending.ordered {start : Nat} {rs : List (Nat × Nat)} (h : Ascending start rs) :
    Ordered start rs := by
  induction rs generalizing start with
  | nil => trivial
  | cons r rs ih => exact ⟨h.1, h.2.1, (ih h.2.2).mono (by have := h.2.1; omega)⟩

theorem Ordered.inRanges_eq_false {n start : Nat} {rs : List (Nat × Nat)} (h : Ordered start rs)
    (hn : n < start) : inRanges n rs = false := by
  cases rs with
  | nil => rfl
  | cons r rs => simp [inRanges, Nat.lt_of_lt_of_le hn h.1]

theorem Ordered.inRanges_cons {n start lo hi : Nat} {rs : List (Nat × Nat)}
    (h : Ordered start ((lo, hi) :: rs)) :
    inRanges n ((lo, hi) :: rs) = (decide (lo ≤ n ∧ n ≤ hi) || inRanges n rs) := by
  rw [CharSet.inRanges_cons]
  by_cases h1 : lo ≤ n
  · simp [h1]
  · simp [h1, h.2.2.inRanges_eq_false (Nat.lt_of_not_le h1)]

/-- Weaving keeps the order and the code points, if what is woven behind does. -/
theorem weave_keeps {lo hi : Nat} {more : List (Nat × Nat) → List (Nat × Nat)}
    {held : Nat → Bool} {ts : List (Nat × Nat)} {start : Nat} (hs : start ≤ lo) (hlh : lo ≤ hi)
    (hmore : ∀ us, Ordered lo us →
      Ordered lo (more us) ∧ ∀ n, inRanges n (more us) = (held n || inRanges n us))
    (ht : Ordered start ts) :
    Ordered start (weave (lo, hi) more ts) ∧
      ∀ n, inRanges n (weave (lo, hi) more ts) =
        ((decide (lo ≤ n ∧ n ≤ hi) || held n) || inRanges n ts) := by
  induction ts generalizing start with
  | nil =>
    obtain ⟨ho, hm⟩ := hmore [] trivial
    have h : Ordered start ((lo, hi) :: more []) := ⟨hs, hlh, ho⟩
    exact ⟨h, fun n => by rw [weave, h.inRanges_cons, hm, Bool.or_assoc]⟩
  | cons t ts ih =>
    obtain ⟨a, b⟩ := t
    unfold weave
    split
    · rename_i hle
      obtain ⟨ho, hm⟩ := hmore ((a, b) :: ts) ⟨hle, ht.2⟩
      have h : Ordered start ((lo, hi) :: more ((a, b) :: ts)) := ⟨hs, hlh, ho⟩
      exact ⟨h, fun n => by rw [h.inRanges_cons, hm, Bool.or_assoc]⟩
    · rename_i hle
      obtain ⟨ho, hm⟩ := ih (show a ≤ lo by simp at hle; omega) ht.2.2
      have h : Ordered start ((a, b) :: weave (lo, hi) more ts) := ⟨ht.1, ht.2.1, ho⟩
      exact ⟨h, fun n => by
        rw [h.inRanges_cons, hm, ht.inRanges_cons]
        cases decide (a ≤ n ∧ n ≤ b) <;> cases held n <;> simp⟩

/-- Merging keeps the order and holds the code points of both lists. -/
theorem merge_keeps {start : Nat} {rs ts : List (Nat × Nat)} (hr : Ordered start rs)
    (ht : Ordered start ts) :
    Ordered start (merge rs ts) ∧
      ∀ n, inRanges n (merge rs ts) = (inRanges n rs || inRanges n ts) := by
  induction rs generalizing start ts with
  | nil => exact ⟨ht, fun n => by simp [merge, inRanges]⟩
  | cons r rs ih =>
    obtain ⟨lo, hi⟩ := r
    obtain ⟨ho, hm⟩ := @weave_keeps lo hi (merge rs) (fun n => inRanges n rs) ts start hr.1 hr.2.1
      (fun us hu => ih hr.2.2 hu) ht
    exact ⟨ho, fun n => by rw [merge, hm, hr.inRanges_cons]⟩

theorem joinFrom_keeps {start lo hi : Nat} {rs : List (Nat × Nat)} (hs : start ≤ lo)
    (hlh : lo ≤ hi) (h : Ordered lo rs) :
    Ascending start (joinFrom lo hi rs) ∧
      ∀ n, inRanges n (joinFrom lo hi rs) = (decide (lo ≤ n ∧ n ≤ hi) || inRanges n rs) := by
  induction rs generalizing start lo hi with
  | nil => exact ⟨⟨hs, hlh, trivial⟩, fun n => by simp [joinFrom, inRanges_cons, inRanges]⟩
  | cons r rs ih =>
    obtain ⟨a, b⟩ := r
    have ordered : Ordered lo ((a, b) :: rs) := h
    obtain ⟨ha, hab, hr⟩ := h
    unfold joinFrom
    split
    · obtain ⟨ho, hm⟩ := ih hs (show lo ≤ max hi b by omega) (hr.mono ha)
      refine ⟨ho, fun n => ?_⟩
      rw [hm, ordered.inRanges_cons]
      by_cases h1 : lo ≤ n <;> by_cases h2 : n ≤ hi <;> by_cases h3 : a ≤ n <;>
        by_cases h4 : n ≤ b <;> simp [h1, h2, h3, h4] <;> grind
    · obtain ⟨ho, hm⟩ := ih (show hi + 2 ≤ a by omega) hab hr
      refine ⟨⟨hs, hlh, ho⟩, fun n => ?_⟩
      have joined : Ordered start ((lo, hi) :: joinFrom a b rs) :=
        Ascending.ordered ⟨hs, hlh, ho⟩
      rw [joined.inRanges_cons, hm, ordered.inRanges_cons]

/-- A union holds the characters of both sets. -/
theorem contains_union {s t : CharSet} (hs : Ascending 0 s.ranges) (ht : Ascending 0 t.ranges)
    (c : Char) : (s.union t).contains c = (s.contains c || t.contains c) := by
  obtain ⟨ho, hm⟩ := merge_keeps hs.ordered ht.ordered
  rw [contains, contains, contains, ← hm, union]
  generalize merge s.ranges t.ranges = rs at ho
  cases rs with
  | nil => rfl
  | cons r rs =>
    rw [join, (joinFrom_keeps ho.1 ho.2.1 ho.2.2).2, ho.inRanges_cons]

/-- A union has the form of a set. -/
theorem ascending_union {s t : CharSet} (hs : Ascending 0 s.ranges)
    (ht : Ascending 0 t.ranges) : Ascending 0 (s.union t).ranges := by
  obtain ⟨ho, -⟩ := merge_keeps hs.ordered ht.ordered
  rw [union]
  generalize merge s.ranges t.ranges = rs at ho
  cases rs with
  | nil => trivial
  | cons r rs => exact (joinFrom_keeps ho.1 ho.2.1 ho.2.2).1

end CharSet
end Gedcom
