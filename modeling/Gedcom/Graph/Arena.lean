import Gedcom.Graph.Prune
import Gedcom.Table

/-!
# Reference graphs in an arena

A reference graph may be kept in an arena: every record stands in a slot with the
positions of the records to which it refers and of those that refer to it, and an
index gives the position of a key.  No list of links has to be gone through to tell
who refers to a record, but every link is written down at both of its ends, and every
key a second time in the index.

A position is looked up without asking whether there is such a slot.  What is done
to an arena therefore has a result of type `Checked`: the position that was looked
up in vain, or else what the work leads to.
-/
namespace Gedcom

/-! ### Positions -/

/-- Some positions, in ascending order. -/
structure Positions where
  elems : List Nat
  ascending : elems.Pairwise (· < ·)
deriving DecidableEq

namespace Positions

instance : EmptyCollection Positions := ⟨⟨[], .nil⟩⟩

instance : Membership Nat Positions := ⟨fun s i => i ∈ s.elems⟩

instance (s : Positions) (i : Nat) : Decidable (i ∈ s) :=
  inferInstanceAs (Decidable (i ∈ s.elems))

/-- Whether there are no positions. -/
def isEmpty (s : Positions) : Bool := s.elems.isEmpty

/-- Put a position into ascending positions, unless it is there. -/
def insertInto (i : Nat) : List Nat → List Nat
  | [] => [i]
  | j :: js =>
    if i < j then i :: j :: js
    else if i = j then j :: js
    else j :: insertInto i js

theorem mem_insertInto {i j : Nat} {js : List Nat} : j ∈ insertInto i js ↔ j = i ∨ j ∈ js := by
  induction js with
  | nil => exact List.mem_cons
  | cons k ks ih =>
    unfold insertInto
    split
    · exact List.mem_cons
    · split
      · rename_i hik
        rw [hik, List.mem_cons]
        exact ⟨.inr, fun h => h.elim .inl id⟩
      · rw [List.mem_cons, ih, List.mem_cons]
        exact or_left_comm

theorem ascending_insertInto {i : Nat} {js : List Nat} (hjs : js.Pairwise (· < ·)) :
    (insertInto i js).Pairwise (· < ·) := by
  induction js with
  | nil => exact List.pairwise_singleton _ _
  | cons j js ih =>
    obtain ⟨hhead, htail⟩ := List.pairwise_cons.mp hjs
    unfold insertInto
    split
    · rename_i hlt
      refine List.pairwise_cons.mpr ⟨fun k hk => ?_, hjs⟩
      rcases List.mem_cons.mp hk with rfl | hk
      · exact hlt
      · exact Nat.lt_trans hlt (hhead k hk)
    · split
      · exact hjs
      · refine List.pairwise_cons.mpr ⟨fun k hk => ?_, ih htail⟩
        rcases mem_insertInto.mp hk with rfl | hk
        · omega
        · exact hhead k hk

/-- Positions with one more. -/
def insert (s : Positions) (i : Nat) : Positions :=
  ⟨insertInto i s.elems, ascending_insertInto s.ascending⟩

/-- Positions without one of them. -/
def erase (s : Positions) (i : Nat) : Positions :=
  ⟨s.elems.erase i, s.ascending.sublist List.erase_sublist⟩

@[simp] theorem not_mem_empty (i : Nat) : i ∉ (∅ : Positions) := List.not_mem_nil

@[simp] theorem mem_insert {s : Positions} {i j : Nat} : j ∈ s.insert i ↔ j = i ∨ j ∈ s :=
  mem_insertInto

theorem nodup (s : Positions) : s.elems.Nodup := s.ascending.imp Nat.ne_of_lt

@[simp] theorem mem_erase {s : Positions} {i j : Nat} : j ∈ s.erase i ↔ j ≠ i ∧ j ∈ s :=
  s.nodup.mem_erase_iff

end Positions

/-! ### Slots -/

/-- The two sets of positions that a slot has. -/
inductive Arena.Side
  /-- The positions of the records to which the record refers. -/
  | references
  /-- The positions of the records that refer to the record. -/
  | referrers
deriving DecidableEq, Repr

/-- The side on which a link stands at its other end. -/
def Arena.Side.opposite : Arena.Side → Arena.Side
  | .references => .referrers
  | .referrers => .references

/-- A record in an arena. -/
structure Arena.Slot where
  node : Graph.Node
  references : Positions := ∅
  referrers : Positions := ∅
deriving DecidableEq

namespace Arena.Slot

/-- One of the two sets of a slot. -/
def on (s : Slot) : Side → Positions
  | .references => s.references
  | .referrers => s.referrers

/-- A slot with another set in the place of one of the two. -/
def setOn (s : Slot) (ps : Positions) : Side → Slot
  | .references => { s with references := ps }
  | .referrers => { s with referrers := ps }

@[simp] theorem node_setOn (s : Slot) (ps : Positions) (side : Side) :
    (s.setOn ps side).node = s.node := by
  cases side <;> rfl

theorem on_setOn (s : Slot) (ps : Positions) (side side' : Side) :
    (s.setOn ps side).on side' = if side' = side then ps else s.on side' := by
  cases side <;> cases side' <;> rfl

end Arena.Slot

/-- Records in the order in which they were first met, and the positions of their keys. -/
structure Arena where
  slots : List Arena.Slot := []
  index : Table Nat := {}
deriving DecidableEq

/-- What work on an arena leads to, or the position that was looked up in vain. -/
abbrev Checked := Except Nat

namespace Arena

/-- The slot at a position. -/
def slot (a : Arena) (i : Nat) : Checked Slot :=
  match a.slots[i]? with
  | some s => .ok s
  | none => .error i

/-- Change the slot at a position. -/
def change (a : Arena) (i : Nat) (f : Slot → Slot) : Checked Arena :=
  match a.slots[i]? with
  | some _ => .ok { a with slots := a.slots.modify i f }
  | none => .error i

/-! ### Questions -/

/-- The slot of a key, if the key was met. -/
def find? (a : Arena) (xref : String) : Checked (Option Slot) :=
  match a.index.find? xref with
  | some i => some <$> a.slot i
  | none => .ok none

/-- The keys at the positions in one of the two sets of a slot. -/
def neighbours (a : Arena) (side : Side) (xref : String) : Checked (List String) :=
  match a.index.find? xref with
  | some i => do
    let s ← a.slot i
    (s.on side).elems.mapM fun j => (·.node.xref) <$> a.slot j
  | none => .ok []

/-- The records that a record refers to, in the order of the records. -/
def referencesOf (a : Arena) : (xref : String) → Checked (List String) := a.neighbours .references

/-- The records that refer to a record, in the order of the records. -/
def referrersOf (a : Arena) : (xref : String) → Checked (List String) := a.neighbours .referrers

/-! ### Building -/

/-- The position of a record, which becomes a slot of unknown type if it was not met
before. -/
def locate (a : Arena) (xref : String) : Nat × Arena :=
  match a.index.find? xref with
  | some i => (i, a)
  | none =>
    (a.slots.length,
      { slots := a.slots ++ [{ node := { xref } }]
        index := a.index.insert xref a.slots.length })

/-- Link two positions, at both ends. -/
def link (a : Arena) (i j : Nat) : Checked Arena := do
  let a ← a.change i fun s => s.setOn ((s.on .references).insert j) .references
  a.change j fun s => s.setOn ((s.on .referrers).insert i) .referrers

/-- Link the record at a position to the record with an identifier. -/
def refer (a : Arena) (i : Nat) (xref : String) : Checked Arena :=
  let (j, a) := a.locate xref
  a.link i j

/-- An arena with one more record.  A text that does not begin with a line of level 0
changes nothing. -/
def addRecord (a : Arena) (t : Text) : Checked Arena :=
  match Line.ofTextAt 0 t with
  | .error _ => .ok a
  | .ok head => do
    let (i, a) := a.locate (head.xref.getD head.tag)
    let ls := Text.lines t
    let a ← a.change i fun s =>
      { s with
        node :=
          { s.node with
            type := some (s.node.type.getD head.tag)
            empty := s.node.empty || Graph.holdsNothing head (Text.afterFirstLine t)
            minimal := s.node.minimal || head.tag == "INDI" && Graph.holdsMinimum ls.tail } }
    (ls.filterMap Line.reference?).foldlM (fun a xref => a.refer i xref) a

/-- The arena of some texts, each of which may hold several records. -/
def ofTexts (ts : List Text) : Checked Arena := (ts.flatMap recordBlocks).foldlM addRecord {}

/-! ### Pruning -/

/-- Whether a record is to be cut off. -/
def Slot.isPrunable (s : Slot) : Bool :=
  (s.node.empty || s.referrers.isEmpty) && !s.node.type.any Graph.keptTypes.contains

/-- Take out one of the two sets of a slot, and strike the position off at the other ends
of the links. -/
def take (a : Arena) (side : Side) (i : Nat) : Checked (Positions × Arena) := do
  let taken := (← a.slot i).on side
  let a ← a.change i fun s => s.setOn ∅ side
  let a ← taken.elems.foldlM
    (fun a j => a.change j fun s => s.setOn ((s.on side.opposite).erase i) side.opposite) a
  return (taken, a)

/-- Cut all links of a position: those that lead to it, and then those that lead away.
The answer has the positions at their other ends. -/
def isolate (a : Arena) (i : Nat) : Checked (Positions × Positions × Arena) := do
  let (sources, a) ← a.take .referrers i
  -- a record that refers to itself has struck itself off by now
  let (targets, a) ← a.take .references i
  return (sources, targets, a)

/-- The number of references in an arena. -/
def size (a : Arena) : Nat := (a.slots.flatMap fun s => s.references.elems).length

theorem length_flatMap_modify_le {ss : List Slot} {f : Slot → Slot}
    (hf : ∀ s, (f s).references.elems.length ≤ s.references.elems.length) (i : Nat) :
    ((ss.modify i f).flatMap fun s => s.references.elems).length ≤
      (ss.flatMap fun s => s.references.elems).length := by
  induction ss generalizing i with
  | nil => simp
  | cons s ss ih =>
    cases i with
    | zero => simpa using hf s
    | succ i => simpa only [List.modify_succ_cons, List.flatMap_cons, List.length_append,
        Nat.add_le_add_iff_left] using ih i

theorem size_change_le {a b : Arena} {i : Nat} {f : Slot → Slot} (h : a.change i f = .ok b)
    (hf : ∀ s, (f s).references.elems.length ≤ s.references.elems.length) : b.size ≤ a.size := by
  unfold change at h
  split at h
  · rw [← Except.ok.inj h]
    exact length_flatMap_modify_le hf i
  · cases h

theorem size_foldlM_change_le {is : List Nat} {f : Slot → Slot}
    (hf : ∀ s, (f s).references.elems.length ≤ s.references.elems.length) {a b : Arena}
    (h : is.foldlM (fun a j => a.change j f) a = .ok b) : b.size ≤ a.size := by
  induction is generalizing a with
  | nil =>
    obtain rfl := Except.ok.inj h
    exact Nat.le_refl _
  | cons i is ih =>
    rw [List.foldlM_cons] at h
    cases hchange : a.change i f with
    | error j =>
      rw [hchange] at h
      cases h
    | ok c =>
      rw [hchange] at h
      exact Nat.le_trans (ih h) (size_change_le hchange hf)

theorem length_flatMap_modify_add {ss : List Slot} {i : Nat} {s : Slot} (hs : ss[i]? = some s)
    {f : Slot → Slot} (hf : (f s).references = ∅) :
    ((ss.modify i f).flatMap fun s => s.references.elems).length + s.references.elems.length =
      (ss.flatMap fun s => s.references.elems).length := by
  induction ss generalizing i with
  | nil => cases hs
  | cons t ss ih =>
    cases i with
    | zero =>
      obtain rfl := Option.some.inj hs
      have hempty : (f t).references.elems = [] := congrArg Positions.elems hf
      rw [List.modify_zero_cons, List.flatMap_cons, List.flatMap_cons, List.length_append,
        List.length_append, hempty, List.length_nil]
      omega
    | succ i =>
      have := ih hs
      rw [List.modify_succ_cons, List.flatMap_cons, List.flatMap_cons, List.length_append,
        List.length_append]
      omega

theorem slot_eq_ok {a : Arena} {i : Nat} {s : Slot} :
    a.slot i = .ok s ↔ a.slots[i]? = some s := by
  unfold slot
  split
  · rename_i t ht
    rw [ht, Except.ok.injEq, Option.some.injEq]
  · rename_i hnone
    rw [hnone]
    constructor
    · intro h
      cases h
    · intro h
      cases h

/-- References that are taken out are no longer in the arena. -/
theorem size_take_le {a b : Arena} {side : Side} {i : Nat} {taken : Positions}
    (h : a.take side i = .ok (taken, b)) :
    b.size + (if side = .references then taken.elems.length else 0) ≤ a.size := by
  unfold take at h
  simp only [bind, Except.bind, pure, Except.pure] at h
  split at h
  · cases h
  · rename_i s hs
    split at h
    · cases h
    · rename_i c hclear
      split at h
      · cases h
      · rename_i hstrike
        obtain ⟨rfl, rfl⟩ := Except.ok.inj h
        have hrest := size_foldlM_change_le
          (f := fun s => s.setOn ((s.on side.opposite).erase i) side.opposite)
          (by
            intro s
            cases side with
            | references => exact Nat.le_refl _
            | referrers => exact List.length_erase_le) hstrike
        cases side with
        | referrers =>
          have := size_change_le hclear fun _ => Nat.le_refl _
          simpa using Nat.le_trans hrest this
        | references =>
          rw [slot_eq_ok] at hs
          unfold change at hclear
          rw [hs] at hclear
          have htaken : c.size + s.references.elems.length = a.size := by
            rw [← Except.ok.inj hclear]
            exact length_flatMap_modify_add hs rfl
          show _ + s.references.elems.length ≤ _
          omega

theorem size_isolate_le {a b : Arena} {i : Nat} {sources targets : Positions}
    (h : a.isolate i = .ok (sources, targets, b)) : b.size + targets.elems.length ≤ a.size := by
  unfold isolate at h
  simp only [bind, Except.bind, pure, Except.pure] at h
  split at h
  · cases h
  · rename_i hsources
    split at h
    · cases h
    · rename_i htargets
      obtain ⟨rfl, rfl, rfl⟩ := Except.ok.inj h
      have h₁ := size_take_le hsources
      have h₂ := size_take_le htargets
      simp at h₁ h₂
      omega

/-- Cut off the records at some positions that are to be cut off, and go on with the
records to which they referred.  The answer says whether a set that was taken out held
anything; `modified` is what is known of that so far. -/
def detach (modified : Bool) (a : Arena) : (pending : List Nat) → Checked (Bool × Arena)
  | [] => .ok (modified, a)
  | i :: pending =>
    match a.slot i with
    | .error j => .error j
    | .ok s =>
      if s.isPrunable then
        match _h : a.isolate i with
        | .error j => .error j
        | .ok (sources, targets, b) =>
          b.detach (modified || !sources.isEmpty || !targets.isEmpty)
            (targets.elems.reverse ++ pending)
      else a.detach modified pending
termination_by pending => a.size + pending.length
decreasing_by
  · have := size_isolate_le ‹_›
    simp only [List.length_append, List.length_reverse, List.length_cons]
    omega
  · simp

/-- Look at every record once and cut off those that are to be cut off. -/
def prunePass (a : Arena) : Checked (Bool × Arena) :=
  (List.range a.slots.length).foldlM (fun made i => made.2.detach made.1 [i]) (false, a)

/-- Passes until one changes nothing, `more` of them after the first at most.  The answer
counts the passes, those made before included. -/
def pruneFrom (made : Nat) : (more : Nat) → Arena → Checked (Except Fault Nat × Arena)
  | more, a => do
    let (modified, a) ← a.prunePass
    if !modified then return (.ok (made + 1), a)
    else match more with
      | 0 => return (.error (.unsettled (made + 1)), a)
      | more + 1 => pruneFrom (made + 1) more a

/-- Prune an arena in at most `limit` passes, but at least one.  The arena keeps what was
done when the passes do not suffice. -/
def pruneWithin (limit : Nat) (a : Arena) : Checked (Except Fault Nat × Arena) :=
  pruneFrom 0 (limit - 1) a

end Arena
end Gedcom
