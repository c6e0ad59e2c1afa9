import Gedcom.Graph.Arena
import Gedcom.Proofs.Linking
import Gedcom.Proofs.Pruning
import Mathlib.Data.List.Sort

/-!
# Arenas keep both ends of a link

In an arena every link is written down at both of its ends, and an index repeats the keys of
the slots.  Building, adding records and pruning change the two sets of a slot and the index
one after the other, and look up positions without asking whether they exist.

`Represents` says that an arena is a reference graph: its slots are the nodes, its index gives
their positions, and the two sets of a slot are the ends of the links at its position.  Every
function on arenas has a result, and it represents what the function of the same name makes of
the graph (`Represents.addRecord`, `Represents.pruneWithin`).  That an arena is in order
whatever is done to it (`reached_wellFormed`) is what this says of the arena alone.
-/
namespace Gedcom

/-! ## Links in their order -/

namespace Graph

/-- A link comes before another one in a graph. -/
def Before (l m : Nat × Nat) : Prop := l.1 < m.1 ∨ l.1 = m.1 ∧ l.2 < m.2

theorem pairwise_insertLink {l : Nat × Nat} {ls : List (Nat × Nat)} (hls : ls.Pairwise Before) :
    (insertLink l ls).Pairwise Before := by
  induction ls with
  | nil => exact List.pairwise_singleton _ _
  | cons m ms ih =>
    obtain ⟨hhead, htail⟩ := List.pairwise_cons.mp hls
    unfold insertLink
    split
    · exact hls
    · rename_i hne
      split
      · rename_i hlt
        have hbefore : Before l m := by simpa [Before] using hlt
        refine List.pairwise_cons.mpr ⟨fun k hk => ?_, hls⟩
        rcases List.mem_cons.mp hk with rfl | hk
        · exact hbefore
        · have := hhead k hk
          unfold Before at *
          omega
      · rename_i hnlt
        refine List.pairwise_cons.mpr ⟨fun k hk => ?_, ih htail⟩
        rcases mem_insertLink.mp hk with rfl | hk
        · have hsame : ¬(k.1 = m.1 ∧ k.2 = m.2) := fun h => hne (Prod.ext h.1 h.2)
          have hafter : ¬(k.1 < m.1 ∨ k.1 = m.1 ∧ k.2 < m.2) := by simpa using hnlt
          unfold Before
          omega
        · exact hhead k hk

theorem position?_eq_findIdx? (g : Graph) (x : String) :
    g.position? x = g.xrefs.findIdx? (· == x) := by
  rw [position?, xrefs, List.findIdx?_map]
  rfl

end Graph

namespace Arena

/-! ## Arenas and graphs -/

/-- The link between a position and one in its set on a side. -/
def Side.link : Side → (here there : Nat) → Nat × Nat
  | .references, i, j => (i, j)
  | .referrers, i, j => (j, i)

/-- The end of a link at which it is written down on a side. -/
def Side.near : Side → Nat × Nat → Nat
  | .references, l => l.1
  | .referrers, l => l.2

theorem Side.link_opposite (side : Side) (i j : Nat) : side.opposite.link i j = side.link j i := by
  cases side <;> rfl

theorem Side.near_link (side : Side) (i j : Nat) : side.near (side.link i j) = i := by
  cases side <;> rfl

theorem Side.eq_opposite_of_ne {side side' : Side} (h : side' ≠ side) : side' = side.opposite := by
  cases side with
  | references =>
    cases side' with
    | references => exact absurd rfl h
    | referrers => rfl
  | referrers =>
    cases side' with
    | references => rfl
    | referrers => exact absurd rfl h

/-- An arena that holds the nodes and the links of a reference graph. -/
structure Represents (a : Arena) (g : Graph) : Prop where
  nodes : a.slots.map (·.node) = g.nodes
  index : ∀ x, a.index.find? x = g.position? x
  nodup : g.xrefs.Nodup
  inRange : ∀ l ∈ g.links, l.1 < g.nodes.length ∧ l.2 < g.nodes.length
  ordered : g.links.Pairwise Graph.Before
  mem_on : ∀ {i : Nat} {s : Slot}, a.slots[i]? = some s →
    ∀ (side : Side) (j : Nat), j ∈ s.on side ↔ side.link i j ∈ g.links

variable {a : Arena} {g : Graph} {i j : Nat} {s : Slot} {side : Side}

theorem represents_empty : Represents {} {} where
  nodes := rfl
  index := fun _ => rfl
  nodup := List.nodup_nil
  inRange := fun _ hl => absurd hl List.not_mem_nil
  ordered := .nil
  mem_on := fun hs => nomatch hs

section Represents
variable (h : Represents a g)
include h

theorem Represents.length_slots : a.slots.length = g.nodes.length := by
  rw [← h.nodes, List.length_map]

theorem Represents.exists_slot (hi : i < g.nodes.length) : ∃ s, a.slots[i]? = some s := by
  rw [← h.length_slots] at hi
  exact ⟨_, List.getElem?_eq_getElem hi⟩

theorem Represents.nodes_of_slots (hs : a.slots[i]? = some s) : g.nodes[i]? = some s.node := by
  rw [← h.nodes, List.getElem?_map, hs]
  rfl

/-- Both ends of a link exist. -/
theorem Represents.lt_of_link (hl : side.link i j ∈ g.links) :
    i < g.nodes.length ∧ j < g.nodes.length := by
  have hlink := h.inRange _ hl
  cases side with
  | references => exact hlink
  | referrers => exact hlink.symm

/-- The positions in a set exist. -/
theorem Represents.lt_of_mem (hs : a.slots[i]? = some s) (hj : j ∈ s.on side) :
    j < g.nodes.length :=
  (h.lt_of_link ((h.mem_on hs side j).mp hj)).2

end Represents

/-! ## Building -/

theorem change_eq_ok (hi : i < a.slots.length) (f : Slot → Slot) :
    a.change i f = .ok { a with slots := a.slots.modify i f } := by
  rw [change, List.getElem?_eq_getElem hi]

/-- Locating a key in an arena is locating it in the graph. -/
theorem Represents.locate (h : Represents a g) (x : String) :
    (a.locate x).1 = (g.locate x).1 ∧ Represents (a.locate x).2 (g.locate x).2 ∧
      (g.locate x).1 < (g.locate x).2.nodes.length := by
  unfold Arena.locate Graph.locate
  rw [h.index]
  cases hx : g.position? x with
  | some i =>
    obtain ⟨hlt, _⟩ := List.findIdx?_eq_some_iff_getElem.mp hx
    exact ⟨rfl, h, hlt⟩
  | none =>
    have hnew := Graph.position?_eq_none.mp hx
    refine ⟨h.length_slots, ⟨?_, ?_, ?_, ?_, h.ordered, ?_⟩, ?_⟩
    · rw [List.map_append, h.nodes]
      rfl
    · intro y
      rw [Table.find?_insert, h.index, Graph.position?_eq_findIdx?, Graph.position?_eq_findIdx?,
        Graph.xrefs_concat, List.findIdx?_append, h.length_slots, ← Graph.length_xrefs]
      by_cases hy : y = x
      · subst hy
        have hnone : g.xrefs.findIdx? (· == y) = none := by rwa [← Graph.position?_eq_findIdx?]
        simp [hnone]
      · simp [hy, Ne.symm hy]
    · rw [Graph.xrefs_concat, ← List.concat_eq_append]
      exact h.nodup.concat hnew
    · intro l hl
      obtain ⟨h1, h2⟩ := h.inRange l hl
      rw [List.length_append]
      exact ⟨by omega, by omega⟩
    · intro i s hs side j
      rw [List.getElem?_append] at hs
      split at hs
      · exact h.mem_on hs side j
      · -- no link leads to a position that is new
        rename_i hlt
        rw [h.length_slots] at hlt
        have hempty : s.on side = ∅ := by
          have hs' := List.mem_of_getElem? hs
          rw [List.mem_singleton.mp hs']
          cases side <;> rfl
        rw [hempty]
        exact iff_of_false (Positions.not_mem_empty j) fun hl => hlt (h.lt_of_link hl).1
    · simp

/-- What is learned of a record is learned in its slot. -/
theorem Represents.update (h : Represents a g) (hi : i < g.nodes.length)
    {f : Graph.Node → Graph.Node} (hf : ∀ n, (f n).xref = n.xref) :
    ∃ b, a.change i (fun s => { s with node := f s.node }) = .ok b ∧
      Represents b (g.update i f) ∧ i < (g.update i f).nodes.length := by
  have hxrefs := g.xrefs_update i hf
  refine ⟨_, change_eq_ok (h.length_slots ▸ hi) _,
    ⟨?_, ?_, hxrefs ▸ h.nodup, ?_, h.ordered, ?_⟩, ?_⟩
  · refine List.ext_getElem? fun k => ?_
    rw [Graph.update, ← h.nodes, List.getElem?_map, List.getElem?_modify, List.getElem?_modify,
      List.getElem?_map]
    cases a.slots[k]? with
    | none => rfl
    | some s => by_cases hik : i = k <;> simp [hik]
  · intro x
    rw [h.index, Graph.position?_eq_findIdx?, Graph.position?_eq_findIdx?, hxrefs]
  · intro l hl
    rw [Graph.update, List.length_modify]
    exact h.inRange l hl
  · intro k t ht side j
    rw [List.getElem?_modify] at ht
    obtain ⟨s, hs, rfl⟩ := Option.map_eq_some_iff.mp ht
    refine Iff.trans ?_ (h.mem_on hs side j)
    by_cases hik : i = k
    · rw [if_pos hik]
      cases side <;> rfl
    · rw [if_neg hik]
  · rwa [Graph.update, List.length_modify]

/-- A link is written down at both ends. -/
theorem Represents.link (h : Represents a g) (hi : i < g.nodes.length) (hj : j < g.nodes.length) :
    ∃ b, a.link i j = .ok b ∧ Represents b { g with links := Graph.insertLink (i, j) g.links } := by
  have hlength := h.length_slots
  have hfirst := change_eq_ok (hlength ▸ hi : i < a.slots.length)
    fun s => s.setOn ((s.on .references).insert j) .references
  unfold Arena.link
  rw [hfirst]
  refine ⟨_, change_eq_ok ?_ _, ⟨?_, h.index, h.nodup, ?_, Graph.pairwise_insertLink h.ordered, ?_⟩⟩
  · rw [List.length_modify]
    exact hlength ▸ hj
  · refine Eq.trans (List.ext_getElem? fun k => ?_) h.nodes
    rw [List.getElem?_map, List.getElem?_map, List.getElem?_modify, List.getElem?_modify]
    cases a.slots[k]? with
    | none => rfl
    | some s => by_cases hik : i = k <;> by_cases hjk : j = k <;> simp [hik, hjk]
  · intro l hl
    rcases Graph.mem_insertLink.mp hl with rfl | hl
    · exact ⟨hi, hj⟩
    · exact h.inRange l hl
  · intro k t ht side m
    rw [List.getElem?_modify, List.getElem?_modify, Option.map_eq_map, Option.map_eq_map,
      Option.map_map] at ht
    obtain ⟨s, hs, rfl⟩ := Option.map_eq_some_iff.mp ht
    rw [Graph.mem_insertLink, ← h.mem_on hs side m]
    cases side with
    | references =>
      by_cases hik : i = k <;> by_cases hjk : j = k <;>
        simp [hik, hjk, Slot.on_setOn, Side.link, eq_comm]
    | referrers =>
      by_cases hik : i = k <;> by_cases hjk : j = k <;>
        simp [hik, hjk, Slot.on_setOn, Side.link, eq_comm]

/-- Referring to a key in an arena is referring to it in the graph. -/
theorem Represents.refer (h : Represents a g) (hi : i < g.nodes.length) (x : String) :
    ∃ b, a.refer i x = .ok b ∧ Represents b (g.refer i x) ∧ i < (g.refer i x).nodes.length := by
  obtain ⟨hposition, hlocated, hj⟩ := h.locate x
  have hi' : i < (g.locate x).2.nodes.length := by
    unfold Graph.locate
    split
    · exact hi
    · rw [List.length_append]
      exact Nat.lt_add_right _ hi
  obtain ⟨b, hlink, hb⟩ := hlocated.link hi' hj
  refine ⟨b, ?_, hb, hi'⟩
  unfold Arena.refer
  rw [← hlink, ← hposition]

theorem Represents.foldlM_refer (h : Represents a g) (hi : i < g.nodes.length) (xs : List String) :
    ∃ b, xs.foldlM (fun a x => a.refer i x) a = .ok b ∧
      Represents b (xs.foldl (fun g x => g.refer i x) g) := by
  induction xs generalizing a g with
  | nil => exact ⟨a, rfl, h⟩
  | cons x xs ih =>
    obtain ⟨b, hb, hrefer, hi'⟩ := h.refer hi x
    obtain ⟨c, hc, hrest⟩ := ih hrefer hi'
    refine ⟨c, ?_, hrest⟩
    rw [List.foldlM_cons, hb]
    exact hc

/-- **Adding a record to an arena is adding it to the graph.** -/
theorem Represents.addRecord (h : Represents a g) (t : Text) :
    ∃ b, a.addRecord t = .ok b ∧ Represents b (g.addRecord t) := by
  unfold Arena.addRecord Graph.addRecord
  cases Line.ofTextAt 0 t with
  | error _ => exact ⟨a, rfl, h⟩
  | ok head =>
    dsimp only
    obtain ⟨hposition, hlocated, hi⟩ := h.locate (head.xref.getD head.tag)
    rw [hposition]
    obtain ⟨b, hb, hlearned, hi'⟩ := hlocated.update hi
      (f := fun n =>
        { n with
          type := some (n.type.getD head.tag)
          empty := n.empty || Graph.holdsNothing head (Text.afterFirstLine t)
          minimal := n.minimal || head.tag == "INDI" && Graph.holdsMinimum (Text.lines t).tail })
      fun _ => rfl
    obtain ⟨c, hc, hrest⟩ := hlearned.foldlM_refer hi' ((Text.lines t).filterMap Line.reference?)
    refine ⟨c, ?_, hrest⟩
    rw [hb]
    exact hc

theorem Represents.foldlM_addRecord (h : Represents a g) (ts : List Text) :
    ∃ b, ts.foldlM Arena.addRecord a = .ok b ∧ Represents b (ts.foldl Graph.addRecord g) := by
  induction ts generalizing a g with
  | nil => exact ⟨a, rfl, h⟩
  | cons t ts ih =>
    obtain ⟨b, hb, hadd⟩ := h.addRecord t
    obtain ⟨c, hc, hrest⟩ := ih hadd
    refine ⟨c, ?_, hrest⟩
    rw [List.foldlM_cons, hb]
    exact hc

/-- **The arena of some texts is their graph.** -/
theorem represents_ofTexts (ts : List Text) :
    ∃ b, Arena.ofTexts ts = .ok b ∧ Represents b (Graph.ofTexts ts) :=
  represents_empty.foldlM_addRecord (ts.flatMap recordBlocks)

/-! ## Pruning -/

/-- Changing the slots at some positions, one after the other. -/
theorem foldlM_change {js : List Nat} (hnodup : js.Nodup) (hjs : ∀ j ∈ js, j < a.slots.length)
    (f : Slot → Slot) :
    ∃ ss, js.foldlM (fun a j => a.change j f) a = .ok { a with slots := ss } ∧
      ∀ k, ss[k]? = (a.slots[k]?).map fun s => if k ∈ js then f s else s := by
  induction js generalizing a with
  | nil => exact ⟨a.slots, rfl, fun k => by simp⟩
  | cons j js ih =>
    obtain ⟨hj, hrest⟩ := List.nodup_cons.mp hnodup
    have hchange := change_eq_ok (hjs j List.mem_cons_self) f
    obtain ⟨ss, hss, hslots⟩ := ih (a := { a with slots := a.slots.modify j f }) hrest
      (by
        intro k hk
        rw [List.length_modify]
        exact hjs k (List.mem_cons_of_mem _ hk))
    refine ⟨ss, ?_, fun k => ?_⟩
    · rw [List.foldlM_cons, hchange]
      exact hss
    · rw [hslots, List.getElem?_modify]
      cases a.slots[k]? with
      | none => rfl
      | some s =>
        by_cases hjk : j = k
        · subst hjk
          simp [hj]
        · simp [hjk, Ne.symm hjk]

/-- What is left of the slot at a position `k` when a set is taken out of the slot at `i`. -/
def Slot.without (t : Slot) (side : Side) (i : Nat) (taken : Positions) (k : Nat) : Slot :=
  let t := if i = k then t.setOn ∅ side else t
  if k ∈ taken then t.setOn ((t.on side.opposite).erase i) side.opposite else t

@[simp] theorem Slot.node_without (t : Slot) (side : Side) (i : Nat) (taken : Positions) (k : Nat) :
    (t.without side i taken k).node = t.node := by
  unfold Slot.without
  split <;> split <;> simp

/-- The set is empty, and the position is struck off where it was in the set. -/
theorem Slot.mem_on_without {t : Slot} {side side' : Side} {i j k : Nat} {taken : Positions} :
    j ∈ (t.without side i taken k).on side' ↔
      j ∈ t.on side' ∧ if side' = side then k ≠ i else k ∈ taken → j ≠ i := by
  unfold Slot.without
  cases side <;> cases side' <;> by_cases hik : i = k <;> by_cases hk : k ∈ taken <;>
    simp [Slot.on_setOn, Side.opposite, hik, hk, eq_comm, and_comm]

/-- A graph without the links that are written down at a position on a side. -/
def cut (g : Graph) (side : Side) (i : Nat) : Graph :=
  { g with links := g.links.filter fun l => side.near l != i }

/-- **Taking out a set cuts the links in it**, at both ends. -/
theorem Represents.take (h : Represents a g) (side : Side) (hi : i < g.nodes.length) :
    ∃ taken b, a.take side i = .ok (taken, b) ∧ Represents b (cut g side i) ∧
      ∀ j, j ∈ taken ↔ side.link i j ∈ g.links := by
  obtain ⟨s, hs⟩ := h.exists_slot hi
  have hmem : ∀ j, j ∈ s.on side ↔ side.link i j ∈ g.links := h.mem_on hs side
  obtain ⟨ss, hss, hslots⟩ := foldlM_change
    (a := { a with slots := a.slots.modify i fun s => s.setOn ∅ side }) (s.on side).nodup
    (by
      intro j hj
      rw [List.length_modify, h.length_slots]
      exact h.lt_of_mem hs hj)
    fun t => t.setOn ((t.on side.opposite).erase i) side.opposite
  have hslot : ∀ k, ss[k]? = (a.slots[k]?).map fun t : Slot => t.without side i (s.on side) k := by
    intro k
    rw [hslots, List.getElem?_modify, Option.map_eq_map, Option.map_map]
    rfl
  refine ⟨s.on side, { a with slots := ss }, ?_, ⟨?_, h.index, h.nodup, ?_, ?_, ?_⟩, hmem⟩
  · unfold Arena.take
    rw [slot_eq_ok.mpr hs, change_eq_ok (h.length_slots ▸ hi)]
    show ((s.on side).elems.foldlM _ _ >>= fun b =>
      (pure (s.on side, b) : Checked (Positions × Arena))) = _
    rw [hss]
    rfl
  · refine Eq.trans (List.ext_getElem? fun k => ?_) h.nodes
    rw [List.getElem?_map, List.getElem?_map, hslot]
    cases a.slots[k]? with
    | none => rfl
    | some t => simp
  · exact fun l hl => h.inRange l (List.mem_filter.mp hl).1
  · exact h.ordered.filter _
  · intro k t' ht side' j
    rw [hslot] at ht
    obtain ⟨t, hold, rfl⟩ := Option.map_eq_some_iff.mp ht
    rw [Slot.mem_on_without, h.mem_on hold, cut, List.mem_filter, and_congr_right_iff, bne_iff_ne]
    intro hl
    split
    · rename_i hsame
      subst hsame
      rw [Side.near_link]
    · -- on the other side the link is in the set exactly if it leads to `i`
      rename_i hother
      obtain rfl := Side.eq_opposite_of_ne hother
      rw [Side.link_opposite] at hl ⊢
      rw [Side.near_link, hmem]
      constructor
      · rintro hk rfl
        exact hk hl rfl
      · exact fun hj _ => hj

theorem cut_cut (g : Graph) (i : Nat) : cut (cut g .referrers i) .references i = g.isolate i := by
  rw [cut, cut, Graph.isolate, List.filter_filter]
  rfl

/-- The other positions to which a position links stand in ascending order. -/
theorem pairwise_others (hordered : g.links.Pairwise Graph.Before) (i : Nat) :
    (g.others i).Pairwise (· < ·) := by
  rw [Graph.others, List.pairwise_map]
  refine (hordered.filter _).imp_of_mem fun {l m} hl hm hbefore => ?_
  simp only [List.mem_filter, Bool.and_eq_true, beq_iff_eq] at hl hm
  unfold Graph.Before at hbefore
  omega

theorem length_isolate_lt_iff :
    (g.isolate i).links.length < g.links.length ↔ ∃ l ∈ g.links, l.1 = i ∨ l.2 = i := by
  rw [Graph.isolate, List.length_filter_lt_length_iff_exists]
  refine exists_congr fun l => and_congr_right fun _ => ?_
  simp only [Bool.and_eq_true, bne_iff_ne]
  omega

theorem not_isEmpty_eq_true {ps : Positions} : (!ps.isEmpty) = true ↔ ∃ j, j ∈ ps := by
  rw [Positions.isEmpty, Bool.not_eq_true', List.isEmpty_eq_false_iff_exists_mem]
  rfl

/-- **Isolating a position in an arena is isolating it in the graph.**  The sets that are
taken out hold something exactly if there is a link to be cut. -/
theorem Represents.isolate (h : Represents a g) (hi : i < g.nodes.length) :
    ∃ sources targets b, a.isolate i = .ok (sources, targets, b) ∧ Represents b (g.isolate i) ∧
      targets.elems = g.others i ∧
      (!sources.isEmpty || !targets.isEmpty) =
        decide ((g.isolate i).links.length < g.links.length) := by
  obtain ⟨sources, b, hb, hcut, hsources⟩ := h.take .referrers hi
  obtain ⟨targets, c, hc, hrest, htargets⟩ := hcut.take .references hi
  rw [cut_cut] at hrest
  have hmem : ∀ j, j ∈ targets ↔ (i, j) ∈ g.links ∧ j ≠ i := by
    intro j
    rw [htargets, cut, List.mem_filter, bne_iff_ne]
    rfl
  refine ⟨sources, targets, c, ?_, hrest, ?_, ?_⟩
  · unfold Arena.isolate
    rw [hb]
    show (b.take .references i >>= fun p =>
      (pure (sources, p.1, p.2) : Checked (Positions × Positions × Arena))) = _
    rw [hc]
    rfl
  · refine List.Pairwise.eq_of_mem_iff targets.ascending (pairwise_others h.ordered i) fun j => ?_
    rw [Graph.mem_others]
    exact hmem j
  · rw [Bool.eq_iff_iff, Bool.or_eq_true, not_isEmpty_eq_true, not_isEmpty_eq_true,
      decide_eq_true_eq, length_isolate_lt_iff]
    constructor
    · rintro (⟨j, hj⟩ | ⟨j, hj⟩)
      · exact ⟨(j, i), (hsources j).mp hj, .inr rfl⟩
      · exact ⟨(i, j), ((hmem j).mp hj).1, .inl rfl⟩
    · rintro ⟨⟨k, j⟩, hl, hend⟩
      by_cases hji : j = i
      · subst hji
        exact .inl ⟨k, (hsources k).mpr hl⟩
      · obtain rfl : k = i := hend.resolve_right hji
        exact .inr ⟨j, (hmem j).mpr ⟨hl, hji⟩⟩

/-- A slot has no referrers if no link leads to its position. -/
theorem Represents.isEmpty_referrers (h : Represents a g) (hs : a.slots[i]? = some s) :
    s.referrers.isEmpty = !g.hasSource i := by
  rw [← Bool.not_inj_iff, Bool.not_not, Bool.eq_iff_iff, not_isEmpty_eq_true,
    Graph.hasSource_eq_true]
  exact exists_congr fun j => h.mem_on hs .referrers j

/-- A record in an arena is to be cut off if it is in the graph. -/
theorem Represents.isPrunable (h : Represents a g) (hs : a.slots[i]? = some s) :
    s.isPrunable = g.isPrunable i := by
  rw [Slot.isPrunable, Graph.isPrunable, h.nodes_of_slots hs, h.isEmpty_referrers hs]

/-- Links are cut if isolating a position cuts some, or if detaching what then waits does. -/
theorem length_detach_isolate_lt_iff (g : Graph) (i : Nat) (pending : List Nat) :
    ((g.isolate i).detach pending).links.length < g.links.length ↔
      (g.isolate i).links.length < g.links.length ∨
        ((g.isolate i).detach pending).links.length < (g.isolate i).links.length := by
  have hfirst : (g.isolate i).links.length ≤ g.links.length := List.length_filter_le _ _
  have hfurther := (g.isolate i).length_links_detach_le pending
  omega

/-- **Detaching in an arena is detaching in the graph.**  The arena notes whether a link was
cut. -/
theorem Represents.detach (h : Represents a g) (modified : Bool) {pending : List Nat}
    (hpending : ∀ i ∈ pending, i < g.nodes.length) :
    ∃ b, a.detach modified pending =
        .ok (modified || decide ((g.detach pending).links.length < g.links.length), b) ∧
      Represents b (g.detach pending) := by
  fun_induction Graph.detach g pending generalizing a modified with
  | case1 g =>
    refine ⟨a, ?_, h⟩
    rw [Arena.detach, decide_eq_false (Nat.lt_irrefl _), Bool.or_false]
  | case2 g i pending hprunable ih =>
    obtain ⟨hi, hrest⟩ := List.forall_mem_cons.mp hpending
    obtain ⟨s, hs⟩ := h.exists_slot hi
    obtain ⟨sources, targets, b, hb, hisolated, htargets, hmodified⟩ := h.isolate hi
    obtain ⟨c, hc, hdetached⟩ := ih hisolated
      (modified || !sources.isEmpty || !targets.isEmpty) (by
        intro j hj
        rcases List.mem_append.mp hj with hj | hj
        · exact (h.inRange _ (Graph.mem_others.mp (List.mem_reverse.mp hj)).1).2
        · exact hrest j hj)
    refine ⟨c, ?_, hdetached⟩
    have hflag : (modified || !sources.isEmpty || !targets.isEmpty ||
        decide (((g.isolate i).detach ((g.others i).reverse ++ pending)).links.length <
          (g.isolate i).links.length)) =
        (modified || decide (((g.isolate i).detach ((g.others i).reverse ++ pending)).links.length <
          g.links.length)) := by
      rw [Bool.or_assoc modified, hmodified, Bool.or_assoc, ← Bool.decide_or,
        decide_eq_decide.mpr (length_detach_isolate_lt_iff g i _)]
    rw [Arena.detach, slot_eq_ok.mpr hs]
    dsimp only
    rw [h.isPrunable hs, if_pos hprunable]
    split
    · rename_i hfault
      rw [hb] at hfault
      cases hfault
    · rename_i hisolate
      rw [hb] at hisolate
      obtain ⟨rfl, rfl, rfl⟩ := Except.ok.inj hisolate
      rw [htargets, hc, hflag]
  | case3 g i pending hkept ih =>
    obtain ⟨hi, hrest⟩ := List.forall_mem_cons.mp hpending
    obtain ⟨s, hs⟩ := h.exists_slot hi
    obtain ⟨b, hb, hdetached⟩ := ih h modified hrest
    refine ⟨b, ?_, hdetached⟩
    rw [Arena.detach, slot_eq_ok.mpr hs]
    dsimp only
    rw [h.isPrunable hs, if_neg hkept]
    exact hb

/-- Detaching one position after the other.  The positions still to come exist, since no step
removes a node. -/
theorem Represents.foldlM_detach (h : Represents a g) (modified : Bool) {is : List Nat}
    (his : ∀ i ∈ is, i < g.nodes.length) :
    ∃ b, is.foldlM (fun made i => made.2.detach made.1 [i]) (modified, a) =
        .ok (modified || decide
          ((is.foldl (fun g i => g.detach [i]) g).links.length < g.links.length), b) ∧
      Represents b (is.foldl (fun g i => g.detach [i]) g) ∧
      (is.foldl (fun g i => g.detach [i]) g).links.length ≤ g.links.length := by
  induction is generalizing a g modified with
  | nil =>
    refine ⟨a, ?_, h, Nat.le_refl _⟩
    rw [List.foldl_nil, decide_eq_false (Nat.lt_irrefl _), Bool.or_false]
    rfl
  | cons i is ih =>
    obtain ⟨hi, hrest⟩ := List.forall_mem_cons.mp his
    have hpending : ∀ k ∈ [i], k < g.nodes.length := by simpa using hi
    obtain ⟨b, hb, hdetached⟩ := h.detach modified hpending
    have hfirst := g.length_links_detach_le [i]
    obtain ⟨c, hc, hpassed, hlength⟩ := ih hdetached
      (modified || decide ((g.detach [i]).links.length < g.links.length))
      (by rwa [Graph.nodes_detach])
    refine ⟨c, ?_, hpassed, Nat.le_trans hlength hfirst⟩
    rw [List.foldlM_cons, hb, List.foldl_cons]
    refine hc.trans (congrArg (fun m => Except.ok (m, c)) ?_)
    rw [Bool.or_assoc, ← Bool.decide_or]
    congr 1
    rw [decide_eq_decide]
    omega

/-- A pass over an arena is a pass over the graph. -/
theorem Represents.prunePass (h : Represents a g) :
    ∃ b, a.prunePass = .ok (decide (g.prunePass.links.length < g.links.length), b) ∧
      Represents b g.prunePass ∧ g.prunePass.links.length ≤ g.links.length := by
  obtain ⟨b, hb, hpassed⟩ := h.foldlM_detach false fun i hi => List.mem_range.mp hi
  refine ⟨b, ?_, hpassed⟩
  rw [Arena.prunePass, h.length_slots, hb, Bool.false_or]
  rfl

/-- What a pass leads to. -/
theorem pruneFrom_eq {b : Arena} {modified : Bool} (hb : a.prunePass = .ok (modified, b))
    (made more : Nat) :
    a.pruneFrom made more =
      if modified then
        match more with
        | 0 => .ok (.error (.unsettled (made + 1)), b)
        | more + 1 => b.pruneFrom (made + 1) more
      else .ok (.ok (made + 1), b) := by
  conv_lhs =>
    unfold pruneFrom
    rw [hb]
  cases modified <;> cases more <;> rfl

/-- **Pruning an arena is pruning the graph**, with the same answer, whether the passes suffice
or not. -/
theorem Represents.pruneFrom (h : Represents a g) (made more : Nat) :
    ∃ b, a.pruneFrom made more = .ok ((g.pruneFrom made more).1, b) ∧
      Represents b (g.pruneFrom made more).2 := by
  induction more generalizing a g made with
  | zero =>
    obtain ⟨b, hb, hpassed, hlength⟩ := h.prunePass
    refine ⟨b, ?_, ?_⟩
    · rw [pruneFrom_eq hb, Graph.pruneFrom]
      by_cases hsame : g.prunePass.links.length = g.links.length
      · rw [if_pos hsame, decide_eq_false (by omega), if_neg Bool.false_ne_true]
      · rw [if_neg hsame, decide_eq_true (by omega), if_pos rfl]
    · rw [Graph.pruneFrom]
      split <;> exact hpassed
  | succ more ih =>
    obtain ⟨b, hb, hpassed, hlength⟩ := h.prunePass
    rw [pruneFrom_eq hb, Graph.pruneFrom]
    by_cases hsame : g.prunePass.links.length = g.links.length
    · rw [if_pos hsame, decide_eq_false (by omega), if_neg Bool.false_ne_true]
      exact ⟨b, rfl, hpassed⟩
    · rw [if_neg hsame, decide_eq_true (by omega), if_pos rfl]
      exact ih hpassed (made + 1)

theorem Represents.pruneWithin (h : Represents a g) (limit : Nat) :
    ∃ b, a.pruneWithin limit = .ok ((g.pruneWithin limit).1, b) ∧
      Represents b (g.pruneWithin limit).2 :=
  h.pruneFrom 0 (limit - 1)

/-! ## Questions -/

/-- The positions that a graph lists for a side, in ascending order. -/
def listed (g : Graph) : Side → (i : Nat) → List Nat
  | .references => g.targets
  | .referrers => g.sources

theorem mem_listed {side : Side} : j ∈ listed g side i ↔ side.link i j ∈ g.links := by
  cases side <;> simp [listed, Graph.targets, Graph.sources, Side.link]

theorem pairwise_listed (hordered : g.links.Pairwise Graph.Before) (side : Side) (i : Nat) :
    (listed g side i).Pairwise (· < ·) := by
  cases side with
  | references =>
    rw [listed, Graph.targets, List.pairwise_map]
    refine (hordered.filter _).imp_of_mem fun {l m} hl hm hbefore => ?_
    simp only [List.mem_filter, beq_iff_eq] at hl hm
    unfold Graph.Before at hbefore
    omega
  | referrers =>
    rw [listed, Graph.sources, List.pairwise_map]
    refine (hordered.filter _).imp_of_mem fun {l m} hl hm hbefore => ?_
    simp only [List.mem_filter, beq_iff_eq] at hl hm
    unfold Graph.Before at hbefore
    omega

/-- What is asked of an arena under a key has an answer, and it is that of the graph. -/
theorem Represents.find? (h : Represents a g) (x : String) :
    ∃ found : Option Slot, a.find? x = .ok found ∧ found.map (·.node) = g.find? x ∧
      (found.any fun s => !s.referrers.isEmpty) = g.isReferenced x := by
  rw [Arena.find?, h.index, Graph.find?, Graph.isReferenced, List.find?_eq_bind_findIdx?_getElem?]
  show ∃ found : Option Slot, _ ∧ found.map (·.node) = (g.position? x).bind (g.nodes[·]?) ∧ _
  cases hx : g.position? x with
  | none => exact ⟨none, rfl, rfl, rfl⟩
  | some i =>
    obtain ⟨hi, _⟩ := List.findIdx?_eq_some_iff_getElem.mp hx
    obtain ⟨s, hs⟩ := h.exists_slot hi
    refine ⟨some s, ?_, ?_, ?_⟩
    · dsimp only
      rw [slot_eq_ok.mpr hs]
      rfl
    · rw [Option.bind_some, h.nodes_of_slots hs]
      rfl
    · rw [Option.any_some, Option.any_some, h.isEmpty_referrers hs, Bool.not_not]

/-- The keys of the records that a graph lists for a side of a key. -/
def neighboursOf (g : Graph) (side : Side) (x : String) : List String :=
  match g.position? x with
  | some i => g.xrefsAt (listed g side i)
  | none => []

theorem mem_neighboursOf (hnodup : g.xrefs.Nodup) {x y : String} :
    y ∈ neighboursOf g side x ↔
      ∃ i j, g.xrefs[i]? = some x ∧ g.xrefs[j]? = some y ∧ side.link i j ∈ g.links := by
  have hkey : ∀ j, (g.nodes[j]?).map Graph.Node.xref = g.xrefs[j]? :=
    fun _ => List.getElem?_map.symm
  unfold neighboursOf
  cases hx : g.position? x with
  | none =>
    refine iff_of_false List.not_mem_nil ?_
    rintro ⟨i, _, hi, _⟩
    rw [← Graph.position?_eq_some hnodup, hx] at hi
    cases hi
  | some i =>
    have hi := (Graph.position?_eq_some hnodup).mp hx
    dsimp only
    rw [Graph.xrefsAt, List.mem_filterMap]
    constructor
    · rintro ⟨j, hj, hy⟩
      exact ⟨i, j, hi, (hkey j).symm.trans hy, mem_listed.mp hj⟩
    · rintro ⟨k, j, hk, hy, hl⟩
      obtain rfl := Graph.position_unique hnodup hi hk
      exact ⟨j, mem_listed.mpr hl, (hkey j).trans hy⟩

/-- The keys at positions that exist. -/
theorem Represents.mapM_slot (h : Represents a g) {js : List Nat}
    (hjs : ∀ j ∈ js, j < g.nodes.length) :
    js.mapM (fun j => (·.node.xref) <$> a.slot j) = .ok (g.xrefsAt js) := by
  induction js with
  | nil => rfl
  | cons j js ih =>
    obtain ⟨hj, hrest⟩ := List.forall_mem_cons.mp hjs
    obtain ⟨s, hs⟩ := h.exists_slot hj
    have hkeys : g.xrefsAt (j :: js) = s.node.xref :: g.xrefsAt js := by
      rw [Graph.xrefsAt, List.filterMap_cons, h.nodes_of_slots hs]
      rfl
    rw [List.mapM_cons, slot_eq_ok.mpr hs, ih hrest, hkeys]
    rfl

/-- **The neighbours of a record in an arena are those in the graph.** -/
theorem Represents.neighbours (h : Represents a g) (side : Side) (x : String) :
    a.neighbours side x = .ok (neighboursOf g side x) := by
  rw [Arena.neighbours, neighboursOf, h.index]
  cases hx : g.position? x with
  | none => rfl
  | some i =>
    obtain ⟨hi, _⟩ := List.findIdx?_eq_some_iff_getElem.mp hx
    obtain ⟨s, hs⟩ := h.exists_slot hi
    have hlisted : (s.on side).elems = listed g side i := by
      refine List.Pairwise.eq_of_mem_iff (s.on side).ascending
        (pairwise_listed h.ordered side i) fun j => ?_
      rw [mem_listed]
      exact h.mem_on hs side j
    have hkeys := h.mapM_slot fun j (hj : j ∈ s.on side) => h.lt_of_mem hs hj
    rw [hlisted] at hkeys
    dsimp only
    rw [slot_eq_ok.mpr hs]
    show (s.on side).elems.mapM _ = _
    rw [hlisted]
    exact hkeys

/-! ## What is reached -/

/-- What can be done to a reference graph. -/
inductive Change
  | add (t : Text)
  /-- Pruning, whether the passes suffice or not. -/
  | prune (limit : Nat)

/-- Change an arena. -/
def perform (a : Arena) : Change → Checked Arena
  | .add t => a.addRecord t
  | .prune limit => (·.2) <$> a.pruneWithin limit

/-- The arena of some texts after some changes. -/
def reached (ts : List Text) (cs : List Change) : Checked Arena := do
  let a ← ofTexts ts
  cs.foldlM perform a

end Arena

/-- Change a reference graph. -/
def Graph.perform (g : Graph) : Arena.Change → Graph
  | .add t => g.addRecord t
  | .prune limit => (g.pruneWithin limit).2

/-- The reference graph of some texts after some changes. -/
def Graph.reached (ts : List Text) (cs : List Arena.Change) : Graph :=
  cs.foldl Graph.perform (Graph.ofTexts ts)

namespace Arena
variable {a : Arena} {g : Graph}

theorem Represents.perform (h : Represents a g) (c : Change) :
    ∃ b, a.perform c = .ok b ∧ Represents b (g.perform c) := by
  cases c with
  | add t => exact h.addRecord t
  | prune limit =>
    obtain ⟨b, hb, hpruned⟩ := h.pruneWithin limit
    refine ⟨b, ?_, hpruned⟩
    rw [Arena.perform, hb]
    rfl

theorem represents_reached (ts : List Text) (cs : List Change) :
    ∃ a, reached ts cs = .ok a ∧ Represents a (Graph.reached ts cs) := by
  have hrun : ∀ {a : Arena} {g : Graph}, Represents a g →
      ∃ b, cs.foldlM Arena.perform a = .ok b ∧ Represents b (cs.foldl Graph.perform g) := by
    induction cs with
    | nil => exact fun h => ⟨_, rfl, h⟩
    | cons c cs ih =>
      intro a g h
      obtain ⟨b, hb, hchanged⟩ := h.perform c
      obtain ⟨d, hd, hrest⟩ := ih hchanged
      refine ⟨d, ?_, hrest⟩
      rw [List.foldlM_cons, hb]
      exact hd
  obtain ⟨a, ha, hbuilt⟩ := represents_ofTexts ts
  obtain ⟨b, hb, hchanged⟩ := hrun hbuilt
  refine ⟨b, ?_, hchanged⟩
  rw [reached, ha]
  exact hb

/-- An arena in order. -/
structure WellFormed (a : Arena) : Prop where
  /-- The index has the keys of the slots and no others, each with its own position. -/
  index : ∀ x i, a.index.find? x = some i ↔ (a.slots[i]?).map (·.node.xref) = some x
  /-- No key has two slots. -/
  nodup : (a.slots.map (·.node.xref)).Nodup
  /-- Every position in a set is that of a slot. -/
  inRange : ∀ s ∈ a.slots, ∀ side, ∀ j ∈ s.on side, j < a.slots.length
  /-- Every link stands at both of its ends. -/
  symmetric : ∀ (i j : Nat) (s t : Slot), a.slots[i]? = some s → a.slots[j]? = some t →
    (j ∈ s.references ↔ i ∈ t.referrers)

theorem Represents.wellFormed (h : Represents a g) : a.WellFormed where
  index := by
    intro x i
    rw [h.index, Graph.position?_eq_some h.nodup, Graph.xrefs, ← h.nodes, List.map_map,
      List.getElem?_map]
    rfl
  nodup := by
    have hnodup := h.nodup
    rw [Graph.xrefs, ← h.nodes, List.map_map] at hnodup
    exact hnodup
  inRange := by
    intro s hs side j hj
    obtain ⟨i, hi⟩ := List.mem_iff_getElem?.mp hs
    rw [h.length_slots]
    exact h.lt_of_mem hi hj
  symmetric := by
    intro i j s t hs ht
    exact (h.mem_on hs .references j).trans (h.mem_on ht .referrers i).symm

/-- **An arena is in order, whatever is done to it.**  After it was built of any texts and
changed in any way, also by prunings that gave up, no position was looked up in vain; the index
and the two ends of the links agree; and so there is an answer to every question, which is that
of the graph that was built and changed in the same way. -/
theorem reached_wellFormed (ts : List Text) (cs : List Change) :
    ∃ a, reached ts cs = .ok a ∧ a.WellFormed ∧
      (∀ x, ∃ found : Option Slot, a.find? x = .ok found ∧
        found.map (·.node) = (Graph.reached ts cs).find? x ∧
        (found.any fun s => !s.referrers.isEmpty) = (Graph.reached ts cs).isReferenced x) ∧
      (∀ x, a.referencesOf x = .ok ((Graph.reached ts cs).referencesOf x) ∧
        a.referrersOf x = .ok ((Graph.reached ts cs).referrersOf x)) ∧
      ∀ x y, ∃ xs ys, a.referencesOf x = .ok ys ∧ a.referrersOf y = .ok xs ∧
        (y ∈ ys ↔ x ∈ xs) := by
  obtain ⟨a, ha, h⟩ := represents_reached ts cs
  have hreferences := h.neighbours .references
  have hreferrers := h.neighbours .referrers
  refine ⟨a, ha, h.wellFormed, h.find?, fun x => ⟨hreferences x, hreferrers x⟩, fun x y => ?_⟩
  refine ⟨_, _, hreferences x, hreferrers y, ?_⟩
  rw [mem_neighboursOf h.nodup, mem_neighboursOf h.nodup]
  constructor
  · rintro ⟨i, j, hi, hj, hl⟩
    exact ⟨j, i, hj, hi, hl⟩
  · rintro ⟨j, i, hj, hi, hl⟩
    exact ⟨i, j, hi, hj, hl⟩

/-- One pass cuts off a note to which nobody refers, and is not enough to see that it is done;
the source that refers to itself keeps its link at both ends. -/
example :
    (do
      let texts := ["0 @N1@ NOTE\n1 SOUR @S1@\n0 @S1@ SOUR\n1 TITL Tides\n1 SOUR @S1@\n"]
      let a ← ofTexts (texts.map String.toList)
      let (answer, b) ← a.pruneWithin 1
      return (answer, ← b.referencesOf "N1", ← b.referencesOf "S1", ← b.referrersOf "S1")) =
        (.ok (.error (.unsettled 1), [], ["S1"], ["S1"]) : Checked _) := by
  decide +kernel

end Arena
end Gedcom
