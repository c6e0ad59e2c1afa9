import Gedcom.Proofs.Searching
import Gedcom.Regex.Replacement

/-!
# Substitutions as one pass over the text

Where an expression has no empty matches, replacing its matches is one pass over the text: if the
expression has a way from the place that has been reached, the text of the first way gives way to
its replacement, and the pass goes on behind it; if not, the next character is kept.  `Rewrites`
is this pass, and `substitute_eq_of_rewrites` says that it is what a substitution does.

A match is found with its places counted from the end of the match before it, but in a pass each
match begins at its own place.  What a match is replaced by depends on the texts of its groups
only, so that it does not matter from where its places are counted (`group_shift`).
-/
namespace Gedcom.Regex

namespace Node

/-- The first way of an expression from the beginning of a text. -/
def first? (n : Node) (fresh : Slots) (before : Option Char) (t : Text) : Option Spot :=
  ((group 0 none n).ways ⟨0, before, t, fresh⟩).head?

/-- One pass over a text that stands behind the character `before`. -/
inductive Rewrites (n : Node) (fresh : Slots) (expand : Text → Match → Text) :
    (before : Option Char) → Text → Text → Prop
  | nil (before : Option Char) : Rewrites n fresh expand before [] []
  | skip {before : Option Char} {c : Char} {cs u : Text}
      (hnone : n.first? fresh before (c :: cs) = none) (h : Rewrites n fresh expand (some c) cs u) :
      Rewrites n fresh expand before (c :: cs) (c :: u)
  | hit {before : Option Char} {t u : Text} {s : Spot} (hs : n.first? fresh before t = some s)
      (h : Rewrites n fresh expand s.before s.rest u) :
      Rewrites n fresh expand before t (expand t ⟨s.slots⟩ ++ u)

end Node

/-! ## Places counted from elsewhere -/

/-- A match in a text that begins `k` characters earlier. -/
def Match.shift (k : Nat) (m : Match) : Match := ⟨m.slots.map (·.map (· + k))⟩

theorem span?_shift (m : Match) (k i : Nat) :
    (m.shift k).span? i = (m.span? i).map fun p => (p.1 + k, p.2 + k) := by
  simp only [Match.span?, Match.shift, List.getElem?_map]
  rcases m.slots[2 * i]? with _ | _ | start <;> rcases m.slots[2 * i + 1]? with _ | _ | stop <;> rfl

/-- The text of a group does not depend on where the text begins. -/
theorem group_shift (m : Match) (pre t : Text) (i : Nat) :
    (m.shift pre.length).group (pre ++ t) i = m.group t i := by
  rw [Match.group, Match.group, span?_shift]
  cases m.span? i with
  | none => rfl
  | some p =>
    simp only [Option.map_some]
    have hdrop : (pre ++ t).drop (p.1 + pre.length) = t.drop p.1 := by
      rw [Nat.add_comm, ← List.drop_drop, List.drop_left]
    rw [hdrop, Nat.add_sub_add_right]

theorem text_shift (r : Regex) (m : Match) (pre t : Text) (p : Piece) :
    p.text r (pre ++ t) (m.shift pre.length) = p.text r t m := by
  cases p with
  | char c => rfl
  | group ref =>
    cases ref with
    | index i => exact group_shift m pre t i
    | name s =>
      rw [Piece.text, Piece.text]
      cases r.groupNamed? s with
      | none => rfl
      | some i => exact group_shift m pre t i

namespace Node

theorem search_shift (n : Node) (fresh : Slots) (hfresh : ∀ o ∈ fresh, o = none) (k offset : Nat)
    (before : Option Char) (t : Text) :
    n.search fresh (offset + k) before t =
      (n.search fresh offset before t).map (List.map (·.map (· + k))) := by
  have hsame : fresh.map (Option.map (· + k)) = fresh := by
    refine (List.map_congr_left fun o ho => ?_).trans (List.map_id fresh)
    rw [hfresh o ho]
    rfl
  have hways : ∀ (offset : Nat) (before : Option Char) (t : Text),
      (n.ways ⟨offset + k, before, t, fresh⟩).head?.map (·.slots) =
        ((n.ways ⟨offset, before, t, fresh⟩).head?.map (·.slots)).map
          (List.map (·.map (· + k))) := by
    intro offset before t
    have hshift : (⟨offset + k, before, t, fresh⟩ : Spot) =
        Spot.shift k ⟨offset, before, t, fresh⟩ := by
      rw [Spot.shift, hsame]
    rw [hshift, ways_shift, List.head?_map, Option.map_map, Option.map_map]
    rfl
  induction t generalizing offset before with
  | nil => exact hways offset before []
  | cons c cs ih =>
    rw [search, search, hways, Nat.add_right_comm, ih]
    cases (n.ways ⟨offset, before, c :: cs, fresh⟩).head? <;> rfl

/-- A way of a whole expression notes where it begins and where it ends. -/
theorem slots_of_first? {n : Node} (hgroups : ∀ g ∈ n.groups, g.1 ≠ 0) {fresh : Slots}
    (hfresh : 2 ≤ fresh.length) {before : Option Char} {t : Text} {s : Spot}
    (h : n.first? fresh before t = some s) :
    s.slots[0]? = some (some 0) ∧ s.slots[1]? = some (some s.offset) := by
  obtain ⟨u, hu, rfl⟩ := List.mem_map.mp (List.mem_of_head? h)
  obtain ⟨hlength, hkept⟩ := slots_of_mem_ways hu
  have hnoted : (fresh.set 0 (some 0))[0]? = some (some 0) :=
    List.getElem?_set_self (Nat.lt_of_lt_of_le Nat.zero_lt_two hfresh)
  have hlt : 1 < u.slots.length := by
    rw [hlength, Spot.note, List.length_set]
    exact hfresh
  refine ⟨?_, ?_⟩
  · rw [Spot.note, List.getElem?_set_ne (by omega), hkept 0]
    · exact hnoted
    · intro g hg
      have hne := hgroups g hg
      omega
  · exact List.getElem?_set_self hlt

/-- An expression of which every match has characters, with groups that can be told from the whole
match. -/
structure Solid (n : Node) : Prop where
  progressive : n.progressive = true
  nullable : n.nullable = false
  groups : ∀ g ∈ n.groups, g.1 ≠ 0

section Pass
variable {n : Node} (hn : n.Solid) {fresh : Slots} {expand : Text → Match → Text}
include hn

/-- A match has characters. -/
theorem Solid.offset_pos {before : Option Char} {t : Text} {s : Spot}
    (hs : n.first? fresh before t = some s) : 0 < s.offset ∧ On before t s := by
  have hmem : s ∈ (group 0 none n).ways ⟨0, before, t, fresh⟩ := List.mem_of_head? hs
  have hstart : On before t ⟨0, before, t, fresh⟩ := ⟨Nat.zero_le _, rfl, rfl⟩
  obtain ⟨hon, -⟩ := hstart.of_mem_ways hmem
  have hconsumes : Consumes (group 0 none n).ways := consumes_of_nullable_eq_false hn.nullable
  have hlt : s.rest.length < t.length := hconsumes _ s hmem
  rw [hon.rest_eq, List.length_drop] at hlt
  exact ⟨by omega, hon⟩

/-- What a search finds in a text over which a pass goes: nothing, or the first place at which the
pass replaces something. -/
theorem Solid.search_of_rewrites (hfresh : ∀ o ∈ fresh, o = none) {before : Option Char}
    {t u : Text} (h : Rewrites n fresh expand before t u) :
    ((group 0 none n).search fresh 0 before t = none ∧ u = t) ∨
      ∃ pre t' before' s u', t = pre ++ t' ∧ u = pre ++ (expand t' ⟨s.slots⟩ ++ u') ∧
        n.first? fresh before' t' = some s ∧ Rewrites n fresh expand s.before s.rest u' ∧
        (group 0 none n).search fresh 0 before t =
          some ((Match.shift pre.length ⟨s.slots⟩).slots) := by
  induction h with
  | nil before =>
    refine .inl ⟨?_, rfl⟩
    have hnil : (group 0 none n).ways ⟨0, before, [], fresh⟩ = [] := by
      refine List.eq_nil_iff_forall_not_mem.mpr fun s hs => ?_
      have hlt := consumes_of_nullable_eq_false (n := group 0 none n) hn.nullable _ s hs
      exact Nat.not_lt_zero _ hlt
    rw [search, hnil]
    rfl
  | @skip before c cs u hnone hrest ih =>
    have hstep : (group 0 none n).search fresh 0 before (c :: cs) =
        ((group 0 none n).search fresh 0 (some c) cs).map (List.map (·.map (· + 1))) := by
      have hhead : ((group 0 none n).ways ⟨0, before, c :: cs, fresh⟩).head? = none := hnone
      rw [search, hhead, ← search_shift _ fresh hfresh]
      rfl
    rcases ih with ⟨hsearch, rfl⟩ | ⟨pre, t', before', s, u', rfl, rfl, hs, hu', hsearch⟩
    · exact .inl ⟨by rw [hstep, hsearch]; rfl, rfl⟩
    · refine .inr ⟨c :: pre, t', before', s, u', rfl, rfl, hs, hu', ?_⟩
      rw [hstep, hsearch, Option.map_some, Match.shift, Match.shift, List.map_map]
      refine congrArg some (List.map_congr_left fun o _ => ?_)
      cases o <;> rfl
  | @hit before t u s hs hrest _ =>
    refine .inr ⟨[], t, before, s, u, rfl, rfl, hs, hrest, ?_⟩
    have hfound : (group 0 none n).search fresh 0 before t = some s.slots := by
      have hhead : ((group 0 none n).ways ⟨0, before, t, fresh⟩).head? = some s := hs
      cases t with
      | nil => rw [search, hhead, Option.map_some]
      | cons c cs => rw [search, hhead, Option.map_some, Option.some_or]
    rw [hfound, Match.shift]
    refine congrArg some ((List.map_id s.slots).symm.trans (List.map_congr_left fun o _ => ?_))
    cases o <;> rfl

end Pass
end Node

/-- A match that has characters is the next one. -/
theorem findNext?_eq_find? {r : Regex} {before : Option Char} {t : Text}
    (h : ∀ m, r.find? before t = some m → m.stop ≠ 0) (fresh : Bool) :
    r.findNext? before fresh t = r.find? before t := by
  unfold findNext?
  cases hfind : r.find? before t with
  | none => rfl
  | some m =>
    have hstop : (m.stop = 0 && !fresh) = false := by simp [h m hfind]
    simp only [hstop, if_neg Bool.false_ne_true]

/-- **Replacing all matches is one pass over the text**, if what a match is replaced by does not
depend on where the text begins. -/
theorem replaceFrom_eq_of_rewrites {n : Node} (hn : n.Solid) {expand : Text → Match → Text}
    (hexpand : ∀ (m : Match) (pre t : Text), expand (pre ++ t) (m.shift pre.length) = expand t m)
    {before : Option Char} {t u : Text} (h : n.Rewrites n.freshSlots expand before t u)
    {steps : Nat} (hsteps : t.length < steps) (fresh : Bool) :
    replaceFrom (ofNode n) expand steps before fresh t = u := by
  -- A match takes a character, so that the search goes on in a shorter text; the character in
  -- front of it is all that is remembered of the text before.
  induction steps generalizing before t u fresh with
  | zero => exact absurd hsteps (Nat.not_lt_zero _)
  | succ steps ih =>
    have hfind := find?_ofNode hn.progressive before t
    rw [replaceFrom]
    rcases hn.search_of_rewrites (fun _ => Node.eq_none_of_mem_freshSlots) h with
      ⟨hnone, rfl⟩ | ⟨pre, t', before', s, u', rfl, rfl, hs, hu', hsome⟩
    · rw [hnone] at hfind
      rw [findNext?_eq_find? (by simp [hfind]), hfind]
      rfl
    · rw [hsome, Option.map_some] at hfind
      obtain ⟨hpos, hon⟩ := hn.offset_pos hs
      obtain ⟨hstart, hstop⟩ := Node.slots_of_first? hn.groups n.two_le_length_freshSlots hs
      have hspan : (Match.shift pre.length ⟨s.slots⟩).span? 0 =
          some (pre.length, s.offset + pre.length) := by
        rw [span?_shift, Match.span?]
        simp only [Nat.mul_zero, Nat.zero_add, hstart, hstop, Option.map_some]
      have hm : ∀ m, (ofNode n).find? before (pre ++ t') = some m → m.stop ≠ 0 := by
        rintro m hm
        rw [hfind, Option.some.injEq] at hm
        rw [← hm, Match.stop, hspan, Option.elim_some]
        omega
      have hbefore : charBefore before (pre ++ t') (s.offset + pre.length) = s.before := by
        obtain ⟨k, hk⟩ : ∃ k, s.offset = k + 1 := ⟨s.offset - 1, by omega⟩
        rw [hon.before_eq, hk, Nat.add_right_comm, charBefore, charBefore,
          List.getElem?_append_right (Nat.le_add_left _ _), Nat.add_sub_cancel]
      have hrest : (pre ++ t').drop (s.offset + pre.length) = s.rest := by
        rw [hon.rest_eq, Nat.add_comm, ← List.drop_drop, List.drop_left]
      have hlength : s.rest.length < steps := by
        rw [hon.rest_eq, List.length_drop]
        rw [List.length_append] at hsteps
        have hle := hon.offset_le
        omega
      rw [findNext?_eq_find? hm, hfind]
      simp only [Match.start, Match.stop, hspan, Option.elim_some]
      rw [hbefore, hrest, ih hu' hlength, List.take_left]
      have hshift : expand (pre ++ t') (Match.shift pre.length ⟨s.slots⟩) = expand t' ⟨s.slots⟩ :=
        hexpand _ _ _
      rw [← hshift, List.append_assoc]

/-- What a match is replaced by in a substitution. -/
def expansion (r : Regex) (replacement : Text) (t : Text) (m : Match) : Text :=
  (Piece.ofText replacement).flatMap (Piece.text r t m)

/-- **A substitution is one pass over the text.** -/
theorem substitute_eq_of_rewrites {n : Node} (hn : n.Solid) {replacement t u : Text}
    (h : n.Rewrites n.freshSlots (expansion (ofNode n) replacement) none t u) :
    substitute (ofNode n) replacement t = u := by
  refine replaceFrom_eq_of_rewrites hn (fun m pre t => ?_) h (by omega) true
  exact List.flatMap_congr fun p _ => text_shift (ofNode n) m pre t p

end Gedcom.Regex
