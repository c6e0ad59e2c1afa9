import Gedcom.Proofs.Rewriting
import Mathlib.Logic.Function.Basic

/-!
# Matching part by part

Whether an expression matches at a place, and how, is found out by taking its parts one after the
other: the first way of a part counts from which the rest of the expression leads on
(`Node.via`).  A part that matches texts of one length only, and each of them in one way, leaves
nothing to choose (`Node.Fixed`): literal texts are such parts, characters of a set, and what is
made up of them.

What is noted on the way are the texts of groups.  `Reading` says which these are, so that nobody
has to count places.
-/
namespace Gedcom

/-- What stands behind a line: nothing, or a newline first. -/
def EndsLine (tail : Text) : Prop := ∀ c, tail.head? = some c → c = '\n'

theorem isPrefixOf_append {tail : Text} (htail : EndsLine tail) {w : Text} (hw : '\n' ∉ w)
    (u : Text) : w.isPrefixOf (u ++ tail) = w.isPrefixOf u := by
  induction w generalizing u with
  | nil => rfl
  | cons c w ih =>
    have hc := List.ne_of_not_mem_cons hw
    have hw := List.not_mem_of_not_mem_cons hw
    cases u with
    | nil =>
      cases tail with
      | nil => rfl
      | cons d tail =>
        have hd := htail d rfl
        have hne : (c == d) = false := beq_false_of_ne fun h => hc (hd.symm.trans h.symm)
        rw [List.nil_append, List.isPrefixOf_cons_cons, hne, Bool.false_and]
        rfl
    | cons d u =>
      rw [List.cons_append, List.isPrefixOf_cons_cons, List.isPrefixOf_cons_cons, ih hw]

theorem any_isPrefixOf_append {tail : Text} (htail : EndsLine tail) {ws : List Text}
    (hws : ∀ w ∈ ws, '\n' ∉ w) (u : Text) :
    (ws.any fun w => w.isPrefixOf (u ++ tail)) = ws.any fun w => w.isPrefixOf u := by
  rw [Bool.eq_iff_iff, List.any_eq_true, List.any_eq_true]
  refine exists_congr fun w => and_congr_right fun hw => ?_
  rw [isPrefixOf_append htail (hws w hw)]

namespace Regex
namespace Spot

/-- The spot behind a text that stands there. -/
def along (s : Spot) (w : Text) : Spot := w.foldl (fun s c => s.past c (s.rest.drop 1)) s

/-- The spot behind a text that is noted as the text of a group. -/
def mark (s : Spot) (i : Nat) (w : Text) : Spot := ((s.note (2 * i)).along w).note (2 * i + 1)

variable (s : Spot) (w : Text)

@[simp] theorem along_nil : s.along [] = s := rfl

@[simp] theorem along_cons (c : Char) : s.along (c :: w) = (s.past c (s.rest.drop 1)).along w := rfl

theorem along_append (u : Text) : s.along (w ++ u) = (s.along w).along u := List.foldl_append

@[simp] theorem rest_along : (s.along w).rest = s.rest.drop w.length := by
  induction w generalizing s with
  | nil => rfl
  | cons c w ih =>
    rw [along_cons, ih, past, List.drop_drop, List.length_cons, Nat.add_comm]

@[simp] theorem offset_along : (s.along w).offset = s.offset + w.length := by
  induction w generalizing s with
  | nil => rfl
  | cons c w ih =>
    have hpast : (s.past c (s.rest.drop 1)).offset = s.offset + 1 := rfl
    rw [along_cons, ih, hpast, List.length_cons, Nat.add_assoc, Nat.add_comm 1]

@[simp] theorem slots_along : (s.along w).slots = s.slots := by
  induction w generalizing s with
  | nil => rfl
  | cons c w ih =>
    rw [along_cons, ih]
    rfl

@[simp] theorem rest_note (i : Nat) : (s.note i).rest = s.rest := rfl

@[simp] theorem rest_mark (i : Nat) : (s.mark i w).rest = s.rest.drop w.length := rest_along _ w

@[simp] theorem offset_mark (i : Nat) : (s.mark i w).offset = s.offset + w.length :=
  offset_along _ w

theorem slots_mark (i : Nat) :
    (s.mark i w).slots =
      (s.slots.set (2 * i) (some s.offset)).set (2 * i + 1) (some (s.offset + w.length)) := by
  rw [mark, note, offset_along, slots_along]
  rfl

end Spot

namespace Node
variable {α : Type} {n a b : Node} {ns : List Node} {k : Spot → Option α} {s : Spot}

/-- A literal text as a sequence of nodes. -/
def literal (w : Text) : List Node := w.map fun c => chars (.single c) false

/-- One of some words. -/
def oneOf (ws : List Text) : Node := ofBranches (ws.map fun w => ofItems (literal w))

theorem ways_ofItems_cons (n : Node) (ns : List Node) (s : Spot) :
    (ofItems (n :: ns)).ways s = (n.ways s).flatMap (ofItems ns).ways := by
  cases ns with
  | nil => exact (List.flatMap_singleton' (n.ways s)).symm
  | cons m ns => rfl

theorem ways_ofItems_append (ms ns : List Node) (s : Spot) :
    (ofItems (ms ++ ns)).ways s = ((ofItems ms).ways s).flatMap (ofItems ns).ways := by
  induction ms generalizing s with
  | nil => exact (List.flatMap_singleton _ s).symm
  | cons m ms ih =>
    rw [List.cons_append, ways_ofItems_cons, ways_ofItems_cons, List.flatMap_assoc]
    exact List.flatMap_congr fun t _ => ih t

/-! ## The first way that leads on -/

/-- What the first way of an expression comes to from which one can go on. -/
def via (n : Node) (k : Spot → Option α) (s : Spot) : Option α := (n.ways s).findSome? k

theorem via_ofItems_append {ms : List Node} :
    (ofItems (ms ++ ns)).via k s = (ofItems ms).via ((ofItems ns).via k) s := by
  rw [via, ways_ofItems_append, findSome?_flatMap]
  rfl

theorem via_ofItems_cons : (ofItems (n :: ns)).via k s = n.via ((ofItems ns).via k) s := by
  rw [via, ways_ofItems_cons, findSome?_flatMap]
  rfl

theorem via_look {c : Assertion} :
    (look c).via k s = if c.holds s.before s.rest.head? then k s else none := by
  rw [via, ways]
  split
  · exact List.findSome?_singleton
  · rfl

theorem via_chars_nil {set : CharSet} {bytes : Bool} (hs : s.rest = []) :
    (chars set bytes).via k s = none := by
  rw [via, ways, hs]
  rfl

theorem via_chars_cons {set : CharSet} {bytes : Bool} {c : Char} {cs : Text}
    (hs : s.rest = c :: cs) :
    (chars set bytes).via k s = if set.contains c then k (s.along [c]) else none := by
  have halong : s.along [c] = s.past c cs := by
    rw [Spot.along_cons, Spot.along_nil, hs]
    rfl
  rw [halong, via, ways, hs]
  dsimp only
  split
  · exact List.findSome?_singleton
  · rfl

theorem via_group {i : Nat} {name : Option String} :
    (group i name a).via k s = a.via (fun t => k (t.note (2 * i + 1))) (s.note (2 * i)) :=
  List.findSome?_map

/-- **A repetition takes one more turn**, if that leads on, or ends. -/
theorem via_star (hn : n.nullable = false) :
    (times 0 none true n).via k s =
      (n.via ((times 0 none true n).via k) s).or (k s) := by
  have hstar : (times 0 none true n).ways = star true n.ways := funext fun s => by
    rw [ways, again, List.flatMap_singleton]
  rw [via, hstar, star_eq (consumes_of_nullable_eq_false hn), if_pos rfl, List.findSome?_append,
    findSome?_flatMap, List.findSome?_singleton, via, ← hstar]
  rfl

theorem ways_upTo (max : Nat) (n : Node) :
    (times 0 (some max) true n).ways = upTo true n.ways max := funext fun s => by
  rw [ways, again, List.flatMap_singleton, Nat.sub_zero]

/-- A repetition that may take no turn ends. -/
theorem via_upTo_zero : (times 0 (some 0) true n).via k s = k s := by
  rw [via, ways_upTo]
  exact List.findSome?_singleton

/-- A repetition that may take some turns takes one more, if that leads on, or ends. -/
theorem via_upTo_succ {max : Nat} :
    (times 0 (some (max + 1)) true n).via k s =
      (n.via ((times 0 (some max) true n).via k) s).or (k s) := by
  rw [via, ways_upTo, upTo, if_pos rfl, List.findSome?_append, findSome?_flatMap,
    List.findSome?_singleton, via, ← ways_upTo]
  rfl

theorem ways_times_succ (min max : Nat) (n : Node) (s : Spot) :
    (times (min + 1) (some (max + 1)) true n).ways s =
      (n.ways s).flatMap (times min (some max) true n).ways := by
  rw [ways, again, List.flatMap_assoc, Nat.add_sub_add_right]
  rfl

/-- A repetition that has to take a turn takes it. -/
theorem via_times_succ {min max : Nat} :
    (times (min + 1) (some (max + 1)) true n).via k s =
      n.via ((times min (some max) true n).via k) s := by
  rw [via, ways_times_succ, findSome?_flatMap]
  rfl

/-- **Characters of a set**: a repetition takes as many as there are, if it may, where nothing that
comes after it begins with one of them. -/
theorem via_run {set : CharSet} {bytes : Bool}
    (hk : ∀ s, s.rest.head?.any set.contains = true → k s = none) (max : Nat) (s : Spot) :
    (times 0 (some max) true (chars set bytes)).via k s =
      if (s.rest.takeWhile set.contains).length ≤ max then
        k (s.along (s.rest.takeWhile set.contains)) else none := by
  induction max generalizing s with
  | zero =>
    rw [via_upTo_zero]
    cases hs : s.rest with
    | nil => rfl
    | cons c cs =>
      cases hc : set.contains c with
      | false => simp [hc]
      | true => simp [hc, hk s (by simp [hs, hc])]
  | succ max ih =>
    rw [via_upTo_succ]
    cases hs : s.rest with
    | nil =>
      rw [via_chars_nil hs, Option.none_or]
      rfl
    | cons c cs =>
      have hnext : (s.along [c]).rest = cs := by
        rw [Spot.rest_along, hs]
        rfl
      rw [via_chars_cons hs, ih, hnext]
      cases hc : set.contains c with
      | false => simp [hc]
      | true => simp [hc, hk s (by simp [hs, hc])]

/-- The end of a match. -/
def finish (s : Spot) : Option Spot := some (s.note 1)

/-- The first way of an expression. -/
theorem first?_eq_via (n : Node) (fresh : Slots) (before : Option Char) (t : Text) :
    n.first? fresh before t = n.via finish (Spot.note ⟨0, before, t, fresh⟩ 0) := by
  have hhead : ∀ l : List Spot, l.head? = l.findSome? some := fun l => by
    cases l <;> rfl
  rw [first?, hhead]
  exact via_group

/-! ## Parts that leave nothing to choose -/

/-- An expression that matches texts of one length only, each of them in one way: where a text
begins with one of them. -/
def Fixed (n : Node) (length : Nat) (p : Text → Bool) : Prop :=
  ∀ s : Spot, n.ways s = if p s.rest then [s.along (s.rest.take length)] else []

section Fixed
variable {l m : Nat} {p q : Text → Bool}

theorem Fixed.via (h : n.Fixed m p) (k : Spot → Option α) (s : Spot) :
    n.via k s = if p s.rest then k (s.along (s.rest.take m)) else none := by
  rw [Node.via, h s]
  split
  · exact List.findSome?_singleton
  · rfl

theorem Fixed.via_group {i : Nat} {name : Option String} (h : n.Fixed m p)
    (k : Spot → Option α) (s : Spot) :
    (group i name n).via k s = if p s.rest then k (s.mark i (s.rest.take m)) else none := by
  rw [Node.via_group, h.via]
  rfl

theorem Fixed.congr (h : n.Fixed m p) (hpq : ∀ t, p t = q t) : n.Fixed m q := by
  rwa [← funext hpq]

theorem Fixed.of_flatMap {c : Node} (ha : a.Fixed l p) (hb : b.Fixed m q)
    (hc : ∀ s, c.ways s = (a.ways s).flatMap b.ways) :
    c.Fixed (l + m) fun t => p t && q (t.drop l) := by
  intro s
  have hdrop : s.rest.drop (s.rest.take l).length = s.rest.drop l := by
    rw [List.length_take, ← List.drop_eq_drop_min]
  rw [hc, ha s]
  cases hp : p s.rest with
  | false =>
    simp only [hp, Bool.false_and, if_neg Bool.false_ne_true]
    rfl
  | true =>
    simp only [hp, Bool.true_and, if_true, List.flatMap_singleton]
    rw [hb, Spot.rest_along, hdrop, ← Spot.along_append, ← List.take_add]

theorem Fixed.cons (hn : n.Fixed l p) (hns : (ofItems ns).Fixed m q) :
    (ofItems (n :: ns)).Fixed (l + m) fun t => p t && q (t.drop l) :=
  hn.of_flatMap hns (ways_ofItems_cons n ns)

theorem Fixed.alt (ha : a.Fixed m p) (hb : b.Fixed m q) (hpq : ∀ t, p t = true → q t = false) :
    (alt a b).Fixed m fun t => p t || q t := by
  intro s
  rw [ways, ha s, hb s]
  cases hp : p s.rest with
  | false => simp [hp]
  | true => simp [hp, hpq _ hp]

theorem fixed_empty : empty.Fixed 0 fun _ => true := fun _ => rfl

theorem fixed_chars (set : CharSet) (bytes : Bool) :
    (chars set bytes).Fixed 1 fun t => t.head?.any set.contains := by
  intro s
  rw [ways]
  cases hs : s.rest with
  | nil => rfl
  | cons c cs =>
    have halong : s.along [c] = s.past c cs := by
      rw [Spot.along_cons, Spot.along_nil, hs]
      rfl
    rw [List.take_succ_cons, List.take_zero, halong]
    rfl

theorem fixed_times (h : n.Fixed m p) (count : Nat) :
    (times count (some count) true n).Fixed (count * m)
      fun t => (List.range count).all fun i => p (t.drop (i * m)) := by
  induction count with
  | zero =>
    rw [Nat.zero_mul]
    exact fixed_empty
  | succ count ih =>
    have hsucc := h.of_flatMap ih (ways_times_succ count count n)
    rw [Nat.succ_mul, Nat.add_comm _ m]
    refine hsucc.congr fun t => ?_
    rw [List.range_succ_eq_map, List.all_cons, List.all_map, Nat.zero_mul, List.drop_zero]
    simp only [List.drop_drop, Function.comp_def, Nat.succ_mul, Nat.add_comm]

end Fixed

/-! ### Literal texts -/

theorem contains_single (c d : Char) : (CharSet.single c).contains d = (d == c) := by
  have heq : d.toNat = c.toNat ↔ d = c :=
    ⟨fun h => Char.ext (UInt32.toNat_inj.mp h), by rintro rfl; rfl⟩
  rw [CharSet.contains, CharSet.single, CharSet.inRanges, CharSet.inRanges, Bool.or_false,
    Bool.eq_iff_iff, beq_iff_eq, ← heq]
  split
  · rename_i hlt
    exact iff_of_false Bool.false_ne_true (Nat.ne_of_lt hlt)
  · rw [decide_eq_true_eq]
    omega

theorem fixed_literal (w : Text) : (ofItems (literal w)).Fixed w.length w.isPrefixOf := by
  induction w with
  | nil => exact fixed_empty.congr fun t => rfl
  | cons c w ih =>
    have hcons := (fixed_chars (.single c) false).cons ih
    rw [Nat.add_comm] at hcons
    refine hcons.congr fun t => ?_
    cases t with
    | nil => rfl
    | cons d t =>
      rw [List.head?_cons, Option.any_some, contains_single, List.isPrefixOf_cons_cons,
        List.drop_succ_cons, List.drop_zero, BEq.comm]

/-- A literal text in front of other parts. -/
theorem via_literal (w : Text) :
    (ofItems (literal w ++ ns)).via k s =
      if w.isPrefixOf s.rest then (ofItems ns).via k (s.along w) else none := by
  rw [via_ofItems_append, (fixed_literal w).via]
  cases hw : w.isPrefixOf s.rest with
  | false => rfl
  | true =>
    obtain ⟨u, hu⟩ := List.isPrefixOf_iff_prefix.mp hw
    rw [← hu, List.take_left]

/-- A choice among words of one length. -/
theorem fixed_oneOf {m : Nat} {ws : List Text} (hlength : ∀ w ∈ ws, w.length = m)
    (hws : ws.Nodup) (hne : ws ≠ []) :
    (oneOf ws).Fixed m fun t => ws.any fun w => w.isPrefixOf t := by
  induction ws with
  | nil => exact absurd rfl hne
  | cons w ws ih =>
    obtain ⟨hw, hws⟩ := List.nodup_cons.mp hws
    have hfirst : (ofItems (literal w)).Fixed m w.isPrefixOf :=
      hlength w List.mem_cons_self ▸ fixed_literal w
    cases ws with
    | nil => exact hfirst.congr fun t => by simp
    | cons v ws =>
      have hothers := ih (fun u hu => hlength u (List.mem_cons_of_mem _ hu)) hws (by simp)
      refine (hfirst.alt hothers fun t ht => ?_).congr fun t => rfl
      -- words of one length that stand at one place are the same
      rw [List.any_eq_false]
      intro u hu hut
      obtain ⟨x, hx⟩ := List.isPrefixOf_iff_prefix.mp ht
      obtain ⟨y, hy⟩ := List.isPrefixOf_iff_prefix.mp hut
      have heq := (List.append_inj (hx.trans hy.symm) (by
        rw [hlength w List.mem_cons_self, hlength u (List.mem_cons_of_mem _ hu)])).1
      exact hw (heq ▸ hu)

end Node

/-! ## The texts of groups -/

theorem group_note_of_ne {s : Spot} {t : Text} {i j : Nat} (hstart : j ≠ 2 * i)
    (hstop : j ≠ 2 * i + 1) :
    (Match.mk (s.note j).slots).group t i = (Match.mk s.slots).group t i := by
  have hspan : (Match.mk (s.note j).slots).span? i = (Match.mk s.slots).span? i := by
    simp only [Match.span?, Spot.note, List.getElem?_set_ne hstart, List.getElem?_set_ne hstop]
  rw [Match.group, hspan, Match.group]

/-- A spot of a text at which groups with numbers below `n` have been read as texts, the whole
match apart; groups that took no part have none. -/
structure Reading (n : Nat) (t : Text) (s : Spot) (texts : Nat → Text) : Prop where
  offset_le : s.offset ≤ t.length
  rest_eq : s.rest = t.drop s.offset
  length_eq : s.slots.length = 2 * n
  group_eq : ∀ i, 0 < i → (Match.mk s.slots).group t i = texts i

namespace Reading
variable {n : Nat} {t w : Text} {s : Spot} {texts : Nat → Text}

/-- The places of the whole match are of no concern. -/
theorem note (h : Reading n t s texts) {j : Nat} (hj : j < 2) : Reading n t (s.note j) texts where
  offset_le := h.offset_le
  rest_eq := h.rest_eq
  length_eq := by rw [Spot.note, List.length_set, h.length_eq]
  group_eq i hi := by rw [group_note_of_ne (by omega) (by omega), h.group_eq i hi]

/-- At the beginning nothing has been read. -/
theorem start (n : Nat) (before : Option Char) (t : Text) :
    Reading n t ⟨0, before, t, List.replicate (2 * n) none⟩ fun _ => [] where
  offset_le := Nat.zero_le _
  rest_eq := rfl
  length_eq := List.length_replicate
  group_eq i _ := by
    have hspan : (Match.mk (List.replicate (2 * n) none)).span? i = none := by
      rw [Match.span?]
      split
      · rename_i hstart _
        have hmem := List.mem_of_getElem? hstart
        exact absurd (List.eq_of_mem_replicate hmem) (Option.some_ne_none _)
      · rfl
    rw [Match.group, hspan]

theorem along (h : Reading n t s texts) (hw : w <+: s.rest) : Reading n t (s.along w) texts where
  offset_le := by
    have hle := hw.length_le
    have hoffset := h.offset_le
    rw [h.rest_eq, List.length_drop] at hle
    rw [Spot.offset_along]
    omega
  rest_eq := by rw [Spot.rest_along, Spot.offset_along, h.rest_eq, List.drop_drop]
  length_eq := by rw [Spot.slots_along, h.length_eq]
  group_eq := by rw [Spot.slots_along]; exact h.group_eq

/-- **The text of a group** is what stands between its places; the texts of the other groups stay
as they are. -/
theorem mark (h : Reading n t s texts) (hw : w <+: s.rest) {i : Nat} (hi : i < n) :
    Reading n t (s.mark i w) (Function.update texts i w) where
  offset_le := by
    rw [Spot.offset_mark, ← Spot.offset_along]
    exact (h.along hw).offset_le
  rest_eq := by
    rw [Spot.rest_mark, Spot.offset_mark, ← Spot.rest_along, ← Spot.offset_along]
    exact (h.along hw).rest_eq
  length_eq := by rw [Spot.slots_mark, List.length_set, List.length_set, h.length_eq]
  group_eq := by
    intro j hj
    by_cases hji : j = i
    · subst hji
      have hstart : 2 * j < s.slots.length := by
        have := h.length_eq
        omega
      have hstop : 2 * j + 1 < s.slots.length := by
        have := h.length_eq
        omega
      have hspan : (Match.mk (s.mark j w).slots).span? j =
          some (s.offset, s.offset + w.length) := by
        simp [Match.span?, Spot.slots_mark, hstart, hstop]
      obtain ⟨u, hu⟩ := hw
      rw [Match.group, hspan, Function.update_self]
      dsimp only
      rw [← h.rest_eq, ← hu, Nat.add_sub_cancel_left, List.take_left]
    · rw [Function.update_of_ne hji, ← h.group_eq j hj, Spot.mark,
        group_note_of_ne (by omega) (by omega), Spot.slots_along,
        group_note_of_ne (by omega) (by omega)]

end Reading
end Regex
end Gedcom
