import Gedcom.Regex
import Mathlib.Data.List.Basic

/-!
# What an expression can match

An expression that is tried at a place of a text can match in several ways.  `Node.ways` lists
them as the tree of the expression says, in the order of preference: of an alternation first the
ways of the first branch, of a greedy repetition first those with one more turn.  Nothing in it is
about programs and threads.

A repetition without an upper bound is listed with as many turns as there are characters left.
This is all of them where each turn takes a character; `Node.progressive` is the test for it, and
`length_rest_add_le` says that the test is right.

All ways lead on from where they begin, so that what every character and every noted place keeps
is kept by every way (`ways_induct`).
-/
namespace Gedcom.Regex

/-- A place in a text that is being matched: how far it is from the beginning, the character in
front of it, what follows it, and the places noted so far. -/
structure Spot where
  offset : Nat
  before : Option Char
  rest : Text
  slots : Slots
deriving DecidableEq, Repr

namespace Spot

/-- The place of a spot. -/
def place (s : Spot) : Place := ⟨s.offset, s.before, s.rest.head?⟩

/-- A spot with its place noted. -/
def note (s : Spot) (slot : Nat) : Spot := { s with slots := s.slots.set slot (some s.offset) }

/-- The spot behind the next character. -/
def past (s : Spot) (c : Char) (cs : Text) : Spot := ⟨s.offset + 1, some c, cs, s.slots⟩

/-- A spot in a text that begins earlier. -/
def shift (k : Nat) (s : Spot) : Spot :=
  ⟨s.offset + k, s.before, s.rest, s.slots.map (·.map (· + k))⟩

end Spot

/-! ## Repetitions -/

section Repetitions
variable {α β : Type}

/-- A step that is taken `n` times. -/
def again (f : α → List α) : Nat → α → List α
  | 0, s => [s]
  | n + 1, s => (f s).flatMap (again f n)

/-- A step that is taken up to `n` times, greedily as often as possible. -/
def upTo (greedy : Bool) (f : α → List α) : Nat → α → List α
  | 0, s => [s]
  | n + 1, s =>
    if greedy then (f s).flatMap (upTo greedy f n) ++ [s]
    else s :: (f s).flatMap (upTo greedy f n)

theorem mem_upTo_self (greedy : Bool) (f : α → List α) (n : Nat) (s : α) :
    s ∈ upTo greedy f n s := by
  cases n with
  | zero => exact List.mem_singleton_self s
  | succ n => cases greedy <;> simp [upTo]

theorem mem_upTo_succ {greedy : Bool} {f : α → List α} {n : Nat} {s s' : α} :
    s' ∈ upTo greedy f (n + 1) s ↔ s' = s ∨ ∃ t ∈ f s, s' ∈ upTo greedy f n t := by
  cases greedy <;> simp [upTo, or_comm]

/-- What one step keeps, any number of steps keeps. -/
theorem rel_of_mem_again {R : α → α → Prop} (hrefl : ∀ s, R s s)
    (htrans : ∀ {s t u}, R s t → R t u → R s u) {f : α → List α} (hf : ∀ s, ∀ t ∈ f s, R s t)
    {n : Nat} {s t : α} (h : t ∈ again f n s) : R s t := by
  induction n generalizing s with
  | zero => exact List.mem_singleton.mp h ▸ hrefl s
  | succ n ih =>
    obtain ⟨u, hu, ht⟩ := List.mem_flatMap.mp h
    exact htrans (hf s u hu) (ih ht)

theorem rel_of_mem_upTo {R : α → α → Prop} (hrefl : ∀ s, R s s)
    (htrans : ∀ {s t u}, R s t → R t u → R s u) {greedy : Bool} {f : α → List α}
    (hf : ∀ s, ∀ t ∈ f s, R s t) {n : Nat} {s t : α} (h : t ∈ upTo greedy f n s) : R s t := by
  induction n generalizing s with
  | zero => exact List.mem_singleton.mp h ▸ hrefl s
  | succ n ih =>
    rcases mem_upTo_succ.mp h with rfl | ⟨u, hu, ht⟩
    · exact hrefl t
    · exact htrans (hf s u hu) (ih ht)

/-- What is done to the beginning is done to all that is reached. -/
theorem again_comm {f : α → List α} {g : α → α} (hf : ∀ s, f (g s) = (f s).map g) (n : Nat)
    (s : α) : again f n (g s) = (again f n s).map g := by
  induction n generalizing s with
  | zero => rfl
  | succ n ih =>
    rw [again, again, hf, List.flatMap_map, List.map_flatMap]
    exact List.flatMap_congr fun t _ => ih t

theorem upTo_comm {greedy : Bool} {f : α → List α} {g : α → α} (hf : ∀ s, f (g s) = (f s).map g)
    (n : Nat) (s : α) : upTo greedy f n (g s) = (upTo greedy f n s).map g := by
  induction n generalizing s with
  | zero => rfl
  | succ n ih =>
    have hmore : (f (g s)).flatMap (upTo greedy f n) = ((f s).flatMap (upTo greedy f n)).map g := by
      rw [hf, List.flatMap_map, List.map_flatMap]
      exact List.flatMap_congr fun t _ => ih t
    rw [upTo, upTo, hmore]
    split
    · rw [List.map_append, List.map_singleton]
    · rfl

end Repetitions

/-- Every step takes at least one character. -/
def Consumes (f : Spot → List Spot) : Prop := ∀ s, ∀ t ∈ f s, t.rest.length < s.rest.length

/-- A step that is taken any number of times. -/
def star (greedy : Bool) (f : Spot → List Spot) (s : Spot) : List Spot :=
  upTo greedy f s.rest.length s

section Star
variable {greedy : Bool} {f : Spot → List Spot} (hf : Consumes f)
include hf

/-- No more steps can be taken than there are characters. -/
theorem upTo_eq_star {n : Nat} {s : Spot} (hn : s.rest.length ≤ n) :
    upTo greedy f n s = star greedy f s := by
  have hmore : ∀ m n : Nat, ∀ s : Spot, s.rest.length ≤ m → s.rest.length ≤ n →
      upTo greedy f m s = upTo greedy f n s := by
    intro m
    induction m with
    | zero =>
      intro n s hm _
      have hnil : f s = [] := List.eq_nil_iff_forall_not_mem.mpr fun t ht => by
        have := hf s t ht
        omega
      cases n with
      | zero => rfl
      | succ n => cases greedy <;> simp [upTo, hnil]
    | succ m ih =>
      intro n s hm hn
      cases n with
      | zero =>
        have hnil : f s = [] := List.eq_nil_iff_forall_not_mem.mpr fun t ht => by
          have := hf s t ht
          omega
        cases greedy <;> simp [upTo, hnil]
      | succ n =>
        have hrest : (f s).flatMap (upTo greedy f m) = (f s).flatMap (upTo greedy f n) :=
          List.flatMap_congr fun t ht => by
            have := hf s t ht
            exact ih n t (by omega) (by omega)
        rw [upTo, upTo, hrest]
  exact hmore n _ s hn (Nat.le_refl _)

/-- A repetition takes one more turn or ends. -/
theorem star_eq (s : Spot) :
    star greedy f s =
      if greedy then (f s).flatMap (star greedy f) ++ [s]
      else s :: (f s).flatMap (star greedy f) := by
  have hrest : (f s).flatMap (upTo greedy f s.rest.length) = (f s).flatMap (star greedy f) :=
    List.flatMap_congr fun t ht => upTo_eq_star hf (Nat.le_of_lt (hf s t ht))
  rw [← upTo_eq_star hf (Nat.le_succ _), upTo, hrest]

end Star

namespace Node

/-! ## The ways of an expression -/

/-- The ways in which a node matches from a spot on, in the order of preference. -/
def ways : Node → Spot → List Spot
  | empty, s => [s]
  | chars set _, s =>
    match s.rest with
    | c :: cs => if set.contains c then [s.past c cs] else []
    | [] => []
  | look a, s => if a.holds s.before s.rest.head? then [s] else []
  | seq a b, s => (a.ways s).flatMap b.ways
  | alt a b, s => a.ways s ++ b.ways s
  | times min none greedy a, s => (again a.ways min s).flatMap (star greedy a.ways)
  | times min (some max) greedy a, s =>
    (again a.ways min s).flatMap (upTo greedy a.ways (max - min))
  | group i _ a, s => (a.ways (s.note (2 * i))).map (·.note (2 * i + 1))

/-- Whether every turn of a repetition without an upper bound takes a character. -/
def progressive : Node → Bool
  | empty | chars _ _ | look _ => true
  | seq a b | alt a b => a.progressive && b.progressive
  | times _ none _ a => a.progressive && !a.nullable
  | times _ (some _) _ a => a.progressive
  | group _ _ a => a.progressive

/-- A repetition takes the turns that it has to take, and then some more. -/
theorem mem_ways_times {min : Nat} {max : Option Nat} {greedy : Bool} {a : Node} {s t : Spot}
    (h : t ∈ (times min max greedy a).ways s) :
    ∃ u turns, u ∈ again a.ways min s ∧ t ∈ upTo greedy a.ways turns u := by
  cases max with
  | none =>
    obtain ⟨u, hu, ht⟩ := List.mem_flatMap.mp h
    exact ⟨u, u.rest.length, hu, ht⟩
  | some max =>
    obtain ⟨u, hu, ht⟩ := List.mem_flatMap.mp h
    exact ⟨u, max - min, hu, ht⟩

/-- **What every character and every noted place keeps**, every way keeps. -/
theorem ways_induct {R : Spot → Spot → Prop} (hrefl : ∀ s, R s s)
    (htrans : ∀ {s t u}, R s t → R t u → R s u)
    (hpast : ∀ s c cs, s.rest = c :: cs → R s (s.past c cs)) {n : Node}
    (hnote : ∀ s, ∀ g ∈ n.groups, R s (s.note (2 * g.1)) ∧ R s (s.note (2 * g.1 + 1)))
    {s t : Spot} (h : t ∈ n.ways s) : R s t := by
  induction n generalizing s t with
  | empty => exact List.mem_singleton.mp h ▸ hrefl s
  | chars set bytes =>
    rw [ways] at h
    split at h
    · rename_i c cs hrest
      split at h
      · exact List.mem_singleton.mp h ▸ hpast s c cs hrest
      · cases h
    · cases h
  | look a =>
    rw [ways] at h
    split at h
    · exact List.mem_singleton.mp h ▸ hrefl s
    · cases h
  | seq a b iha ihb =>
    obtain ⟨u, hu, ht⟩ := List.mem_flatMap.mp h
    exact htrans (iha (fun s g hg => hnote s g (List.mem_append_left _ hg)) hu)
      (ihb (fun s g hg => hnote s g (List.mem_append_right _ hg)) ht)
  | alt a b iha ihb =>
    rcases List.mem_append.mp h with h | h
    · exact iha (fun s g hg => hnote s g (List.mem_append_left _ hg)) h
    · exact ihb (fun s g hg => hnote s g (List.mem_append_right _ hg)) h
  | times min max greedy a ih =>
    have hstep : ∀ s, ∀ t ∈ a.ways s, R s t := fun s t => ih hnote
    obtain ⟨u, turns, hu, ht⟩ := mem_ways_times h
    exact htrans (rel_of_mem_again hrefl htrans hstep hu) (rel_of_mem_upTo hrefl htrans hstep ht)
  | group i name a ih =>
    obtain ⟨u, hu, rfl⟩ := List.mem_map.mp h
    exact htrans (hnote s (i, name) List.mem_cons_self).1 (htrans
      (ih (fun s g hg => hnote s g (List.mem_cons_of_mem _ hg)) hu)
      (hnote u (i, name) List.mem_cons_self).2)

/-! ### The length of what is matched -/

/-- `n` times at least `k` characters. -/
theorem length_rest_add_le_of_mem_again {f : Spot → List Spot} {k : Nat}
    (hf : ∀ s, ∀ t ∈ f s, t.rest.length + k ≤ s.rest.length) {n : Nat} {s t : Spot}
    (h : t ∈ again f n s) : t.rest.length + n * k ≤ s.rest.length := by
  induction n generalizing s with
  | zero =>
    obtain rfl := List.mem_singleton.mp h
    omega
  | succ n ih =>
    obtain ⟨u, hu, ht⟩ := List.mem_flatMap.mp h
    have hfirst := hf s u hu
    have hothers := ih ht
    rw [Nat.succ_mul]
    omega

theorem length_rest_le_of_mem_upTo {greedy : Bool} {f : Spot → List Spot}
    (hf : ∀ s, ∀ t ∈ f s, t.rest.length ≤ s.rest.length) {n : Nat} {s t : Spot}
    (h : t ∈ upTo greedy f n s) : t.rest.length ≤ s.rest.length :=
  rel_of_mem_upTo (R := fun s t => t.rest.length ≤ s.rest.length) (fun _ => Nat.le_refl _)
    (fun hst htu => Nat.le_trans htu hst) hf h

/-- **No way takes fewer characters** than the shortest texts of a node have. -/
theorem length_rest_add_le {n : Node} {k : Nat} (hk : n.minLength? = some k) {s t : Spot}
    (h : t ∈ n.ways s) : t.rest.length + k ≤ s.rest.length := by
  induction n generalizing k s t with
  | empty =>
    obtain rfl := Option.some.inj hk
    exact (List.mem_singleton.mp h).symm ▸ Nat.le_refl _
  | chars set bytes =>
    rw [minLength?] at hk
    rw [ways] at h
    split at h
    · rename_i c cs hrest
      split at h
      · obtain rfl := List.mem_singleton.mp h
        rw [hrest]
        split at hk
        · cases hk
        · obtain rfl := Option.some.inj hk
          exact Nat.le_refl _
      · cases h
    · cases h
  | look a =>
    obtain rfl := Option.some.inj hk
    rw [ways] at h
    split at h
    · exact (List.mem_singleton.mp h).symm ▸ Nat.le_refl _
    · cases h
  | seq a b iha ihb =>
    rw [minLength?] at hk
    split at hk
    · rename_i m n hm hn
      obtain rfl := Option.some.inj hk
      obtain ⟨u, hu, ht⟩ := List.mem_flatMap.mp h
      have hfirst := iha hm hu
      have hsecond := ihb hn ht
      omega
    · cases hk
  | alt a b iha ihb =>
    rw [minLength?] at hk
    split at hk
    · rename_i m n hm hn
      obtain rfl := Option.some.inj hk
      have hmin : Nat.min m n ≤ m ∧ Nat.min m n ≤ n := ⟨Nat.min_le_left m n, Nat.min_le_right m n⟩
      rcases List.mem_append.mp h with h | h
      · have hfirst := iha hm h
        omega
      · have hsecond := ihb hn h
        omega
    · cases hk
  | times min max greedy a ih =>
    rw [minLength?] at hk
    obtain ⟨m, hm, rfl⟩ := Option.map_eq_some_iff.mp hk
    obtain ⟨u, turns, hu, ht⟩ := mem_ways_times h
    have hagain := length_rest_add_le_of_mem_again (fun s t => ih hm) hu
    have hmore := length_rest_le_of_mem_upTo
      (fun s t ht => Nat.le_trans (Nat.le_add_right _ m) (ih hm ht)) ht
    omega
  | group i name a ih =>
    obtain ⟨u, hu, rfl⟩ := List.mem_map.mp h
    have hle : u.rest.length + k ≤ (s.note (2 * i)).rest.length := ih hk hu
    exact hle

theorem consumes_of_nullable_eq_false {n : Node} (h : n.nullable = false) : Consumes n.ways := by
  intro s t ht
  rw [nullable] at h
  cases hk : n.minLength? with
  | none =>
    rw [hk] at h
    cases h
  | some k =>
    rw [hk] at h
    have hne : k ≠ 0 := by simpa using h
    have hle := length_rest_add_le hk ht
    omega

/-! ### Places -/

/-- **The ways do not depend on where the text begins**: from a spot further on they lead as far
further on. -/
theorem ways_shift (n : Node) (k : Nat) (s : Spot) :
    n.ways (s.shift k) = (n.ways s).map (Spot.shift k) := by
  have hnote : ∀ (s : Spot) (i : Nat), (s.note i).shift k = (s.shift k).note i := by
    intro s i
    simp only [Spot.note, Spot.shift, List.map_set, Option.map_some]
  induction n generalizing s with
  | empty => rfl
  | chars set bytes =>
    obtain ⟨offset, before, rest, slots⟩ := s
    cases rest with
    | nil => rfl
    | cons c cs =>
      simp only [ways, Spot.shift]
      split
      · simp only [Spot.past, Spot.shift, List.map_cons, List.map_nil, Nat.add_right_comm]
      · rfl
  | look a =>
    rw [ways, ways]
    show (if a.holds s.before s.rest.head? then _ else _) = _
    split <;> rfl
  | seq a b iha ihb =>
    rw [ways, ways, iha, List.flatMap_map, List.map_flatMap]
    exact List.flatMap_congr fun t _ => ihb t
  | alt a b iha ihb => rw [ways, ways, iha, ihb, List.map_append]
  | times min max greedy a ih =>
    cases max with
    | none =>
      rw [ways, ways, again_comm ih, List.flatMap_map, List.map_flatMap]
      exact List.flatMap_congr fun t _ => upTo_comm ih _ t
    | some max =>
      rw [ways, ways, again_comm ih, List.flatMap_map, List.map_flatMap]
      exact List.flatMap_congr fun t _ => upTo_comm ih _ t
  | group i name a ih =>
    rw [ways, ways, ← hnote, ih, List.map_map, List.map_map]
    exact List.map_congr_left fun t _ => (hnote t _).symm

/-- A spot lies in a text that stands behind the character `before`. -/
structure On (before : Option Char) (t : Text) (s : Spot) : Prop where
  offset_le : s.offset ≤ t.length
  rest_eq : s.rest = t.drop s.offset
  before_eq : s.before = charBefore before t s.offset

/-- Every way leads on in the same text. -/
theorem On.of_mem_ways {n : Node} {before : Option Char} {t : Text} {s s' : Spot}
    (h : On before t s) (hs : s' ∈ n.ways s) : On before t s' ∧ s.offset ≤ s'.offset := by
  refine ways_induct (R := fun s s' => On before t s → On before t s' ∧ s.offset ≤ s'.offset)
    (fun _ h => ⟨h, Nat.le_refl _⟩)
    (fun hst htu h => ⟨(htu (hst h).1).1, Nat.le_trans (hst h).2 (htu (hst h).1).2⟩)
    (fun s c cs hrest h => ?_)
    (fun s g _ => ⟨fun h => ⟨⟨h.1, h.2, h.3⟩, Nat.le_refl _⟩,
      fun h => ⟨⟨h.1, h.2, h.3⟩, Nat.le_refl _⟩⟩) hs h
  have hdrop : t.drop s.offset = c :: cs := h.rest_eq ▸ hrest
  have hget : t[s.offset]? = some c := by rw [← List.head?_drop, hdrop]; rfl
  have hlt : s.offset < t.length := (List.getElem?_eq_some_iff.mp hget).1
  refine ⟨⟨hlt, ?_, ?_⟩, Nat.le_succ _⟩
  · show cs = t.drop (s.offset + 1)
    rw [← List.drop_drop, hdrop]
    rfl
  · show some c = t[s.offset]?
    rw [hget]

/-- The number of noted places is kept, and so are those of groups that a node does not have. -/
theorem slots_of_mem_ways {n : Node} {s t : Spot} (h : t ∈ n.ways s) :
    t.slots.length = s.slots.length ∧
      ∀ i, (∀ g ∈ n.groups, i ≠ 2 * g.1 ∧ i ≠ 2 * g.1 + 1) → t.slots[i]? = s.slots[i]? := by
  refine ways_induct (R := fun s t => t.slots.length = s.slots.length ∧
      ∀ i, (∀ g ∈ n.groups, i ≠ 2 * g.1 ∧ i ≠ 2 * g.1 + 1) → t.slots[i]? = s.slots[i]?)
    (fun _ => ⟨rfl, fun _ _ => rfl⟩)
    (fun hst htu => ⟨htu.1.trans hst.1, fun i hi => (htu.2 i hi).trans (hst.2 i hi)⟩)
    (fun _ _ _ _ => ⟨rfl, fun _ _ => rfl⟩) (fun s g hg => ?_) h
  refine ⟨⟨List.length_set, fun i hi => ?_⟩, List.length_set, fun i hi => ?_⟩
  · exact List.getElem?_set_ne (hi g hg).1.symm
  · exact List.getElem?_set_ne (hi g hg).2.symm

end Node
end Gedcom.Regex
