import Gedcom.Graph
import Mathlib.Data.List.Basic
import Mathlib.Data.List.Induction
import Mathlib.Data.List.Nodup

/-!
# The reference graph of some definitions

The text of a record defines the record under its key and refers to others
(`Definition`).  The reference graph of some definitions has a node for every key
that is defined or referred to, and a link for every reference; what it knows of a
record is what its definitions say together (`summary`).

The graph is built one step after the other, and a step is described by what it does
to the three things that can be asked of a graph: what is known of a key, which keys
were met, and which key refers to which (`View`).  `view_foldl_define` puts the steps
together.
-/
namespace Gedcom

/-! ## Definitions -/

/-- What the text of a record says of it. -/
structure Definition where
  /-- The identifier of the record, or its tag if it has none. -/
  key : String
  type : String
  empty : Bool
  minimal : Bool
  /-- The records that it refers to. -/
  references : List String
deriving DecidableEq, Repr

/-- The definition in a text that begins with a line of level 0. -/
def Definition.ofText? (t : Text) : Option Definition :=
  match Line.ofTextAt 0 t with
  | .error _ => none
  | .ok head => some
    { key := head.xref.getD head.tag
      type := head.tag
      empty := Graph.holdsNothing head (Text.afterFirstLine t)
      minimal := head.tag == "INDI" && Graph.holdsMinimum (Text.lines t).tail
      references := (Text.lines t).filterMap Line.reference? }

namespace Graph

/-- A node with what one more definition says of it. -/
def Node.learn (n : Node) (d : Definition) : Node :=
  { n with
    type := some (n.type.getD d.type)
    empty := n.empty || d.empty
    minimal := n.minimal || d.minimal }

/-- A graph with one more definition. -/
def define (g : Graph) (d : Definition) : Graph :=
  let (i, g) := g.locate d.key
  d.references.foldl (fun g xref => g.refer i xref) (g.update i fun n => n.learn d)

/-- A record is added by its definition. -/
theorem addRecord_eq (g : Graph) (t : Text) :
    g.addRecord t = match Definition.ofText? t with
      | none => g
      | some d => g.define d := by
  unfold addRecord Definition.ofText?
  cases Line.ofTextAt 0 t with
  | error _ => rfl
  | ok head => rfl

/-- Texts are added by the definitions in them. -/
theorem foldl_addRecord_eq (g : Graph) (ts : List Text) :
    ts.foldl addRecord g = (ts.filterMap Definition.ofText?).foldl define g := by
  rw [List.foldl_filterMap]
  congr 1
  funext g t
  rw [addRecord_eq]
  cases Definition.ofText? t <;> rfl

theorem ofTexts_eq (ts : List Text) :
    ofTexts ts = ((ts.flatMap recordBlocks).filterMap Definition.ofText?).foldl define {} :=
  foldl_addRecord_eq {} (ts.flatMap recordBlocks)

/-! ## Positions and keys -/

/-- The keys of the nodes. -/
def xrefs (g : Graph) : List String := g.nodes.map (·.xref)

/-- A record refers to another one, by their keys. -/
def Refers (g : Graph) (x y : String) : Prop :=
  ∃ i j, (i, j) ∈ g.links ∧ g.xrefs[i]? = some x ∧ g.xrefs[j]? = some y

theorem mem_insertLink {l m : Nat × Nat} {ls : List (Nat × Nat)} :
    m ∈ insertLink l ls ↔ m = l ∨ m ∈ ls := by
  induction ls with
  | nil => exact List.mem_cons
  | cons k ks ih =>
    unfold insertLink
    split
    · rename_i hlk
      rw [hlk, List.mem_cons]
      exact ⟨.inr, fun h => h.elim .inl id⟩
    · split
      · exact List.mem_cons
      · rw [List.mem_cons, ih, List.mem_cons]
        exact or_left_comm

theorem xrefs_of_position? {g : Graph} {x : String} {i : Nat} (h : g.position? x = some i) :
    g.xrefs[i]? = some x := by
  obtain ⟨hi, hx, _⟩ := List.findIdx?_eq_some_iff_getElem.mp h
  rw [xrefs, List.getElem?_map, List.getElem?_eq_getElem hi, Option.map_some, eq_of_beq hx]

theorem position?_eq_none {g : Graph} {x : String} : g.position? x = none ↔ x ∉ g.xrefs := by
  rw [position?, List.findIdx?_eq_none_iff, xrefs, List.mem_map]
  constructor
  · rintro h ⟨n, hn, rfl⟩
    exact absurd (h n hn) (by simp)
  · intro h n hn
    exact beq_false_of_ne fun hx => h ⟨n, hn, hx⟩

/-- Different positions have different keys. -/
theorem position_unique {g : Graph} (hg : g.xrefs.Nodup) {x : String} {i j : Nat}
    (hi : g.xrefs[i]? = some x) (hj : g.xrefs[j]? = some x) : i = j := by
  have hlt := (List.getElem?_eq_some_iff.mp hi).1
  exact (List.getElem?_inj hlt hg).mp (hi.trans hj.symm)

/-- A record is found by its key. -/
theorem position?_eq_some {g : Graph} (hg : g.xrefs.Nodup) {x : String} {i : Nat} :
    g.position? x = some i ↔ g.xrefs[i]? = some x := by
  refine ⟨xrefs_of_position?, fun hi => ?_⟩
  cases hx : g.position? x with
  | none => exact absurd (List.mem_of_getElem? hi) (position?_eq_none.mp hx)
  | some j => rw [position_unique hg hi (xrefs_of_position? hx)]

/-! ## What can be asked of a graph -/

/-- What a graph answers: what is known of a key, which keys were met, and which key
refers to which.  Every key has one position, and links lead from position to
position. -/
structure View (g : Graph) (known : String → Node) (met : String → Prop)
    (refers : String → String → Prop) : Prop where
  nodup : g.xrefs.Nodup
  inRange : ∀ l ∈ g.links, l.1 < g.nodes.length ∧ l.2 < g.nodes.length
  node : ∀ n ∈ g.nodes, n = known n.xref
  mem_xrefs : ∀ x, x ∈ g.xrefs ↔ met x
  refers_iff : ∀ x y, g.Refers x y ↔ refers x y

section View
variable {g : Graph} {known : String → Node} {met : String → Prop}
  {refers : String → String → Prop}

theorem View.congr (h : View g known met refers) {known' : String → Node} {met' : String → Prop}
    {refers' : String → String → Prop} (hknown : ∀ x, known x = known' x)
    (hmet : ∀ x, met x ↔ met' x) (hrefers : ∀ x y, refers x y ↔ refers' x y) :
    View g known' met' refers' where
  nodup := h.nodup
  inRange := h.inRange
  node := fun n hn => (h.node n hn).trans (hknown n.xref)
  mem_xrefs := fun x => (h.mem_xrefs x).trans (hmet x)
  refers_iff := fun x y => (h.refers_iff x y).trans (hrefers x y)

theorem view_empty : View {} known (fun _ => False) (fun _ _ => False) where
  nodup := List.nodup_nil
  inRange := fun _ hl => absurd hl List.not_mem_nil
  node := fun _ hn => absurd hn List.not_mem_nil
  mem_xrefs := fun _ => ⟨fun h => absurd h List.not_mem_nil, False.elim⟩
  refers_iff := fun _ _ => ⟨fun ⟨_, _, hl, _⟩ => absurd hl List.not_mem_nil, False.elim⟩

/-- The node of a key. -/
theorem View.nodes_of_xrefs (h : View g known met refers) {x : String} {i : Nat}
    (hi : g.xrefs[i]? = some x) : g.nodes[i]? = some (known x) := by
  rw [xrefs, List.getElem?_map, Option.map_eq_some_iff] at hi
  obtain ⟨n, hn, rfl⟩ := hi
  rw [hn, ← h.node n (List.mem_of_getElem? hn)]

/-- What is found under a key is what is known of it, if it was met. -/
theorem View.find?_of_met (h : View g known met refers) {x : String} (hx : met x) :
    g.find? x = some (known x) := by
  cases hfind : g.find? x with
  | none =>
    obtain ⟨n, hn, hnx⟩ := List.mem_map.mp ((h.mem_xrefs x).mpr hx)
    have hne := List.find?_eq_none.mp hfind n hn
    exact absurd (beq_iff_eq.mpr hnx) hne
  | some n =>
    have hnx : (n.xref == x) = true := List.find?_some (p := fun n : Node => n.xref == x) hfind
    rw [h.node n (List.mem_of_find?_eq_some hfind), eq_of_beq hnx]

theorem View.find?_of_not_met (h : View g known met refers) {x : String} (hx : ¬met x) :
    g.find? x = none := by
  refine List.find?_eq_none.mpr fun n hn hnx => hx ((h.mem_xrefs x).mp ?_)
  exact List.mem_map.mpr ⟨n, hn, eq_of_beq hnx⟩

theorem length_xrefs (g : Graph) : g.xrefs.length = g.nodes.length := List.length_map _

theorem xrefs_concat (g : Graph) (x : String) :
    xrefs { g with nodes := g.nodes ++ [{ xref := x }] } = g.xrefs ++ [x] := by
  rw [xrefs, List.map_append]
  rfl

/-- New nodes at the end leave the references as they are. -/
theorem refers_append (h : View g known met refers) (ns : List Node) (x y : String) :
    Refers { g with nodes := g.nodes ++ ns } x y ↔ g.Refers x y := by
  have hold : ∀ i, i < g.nodes.length →
      (xrefs { g with nodes := g.nodes ++ ns })[i]? = g.xrefs[i]? := by
    intro i hi
    rw [xrefs, List.map_append, List.getElem?_append_left (by rwa [List.length_map])]
    rfl
  constructor
  · rintro ⟨i, j, hl, hi, hj⟩
    obtain ⟨hilt, hjlt⟩ := h.inRange (i, j) hl
    exact ⟨i, j, hl, hold i hilt ▸ hi, hold j hjlt ▸ hj⟩
  · rintro ⟨i, j, hl, hi, hj⟩
    obtain ⟨hilt, hjlt⟩ := h.inRange (i, j) hl
    exact ⟨i, j, hl, (hold i hilt).trans hi, (hold j hjlt).trans hj⟩

theorem locate_of_met (h : View g known met refers) {x : String} (hx : met x) :
    ∃ i, g.locate x = (i, g) ∧ g.xrefs[i]? = some x := by
  unfold locate
  cases hi : g.position? x with
  | none => exact absurd ((h.mem_xrefs x).mpr hx) (position?_eq_none.mp hi)
  | some i => exact ⟨i, rfl, xrefs_of_position? hi⟩

theorem locate_of_not_met (h : View g known met refers) {x : String} (hx : ¬met x) :
    g.locate x = (g.nodes.length, { g with nodes := g.nodes ++ [{ xref := x }] }) := by
  unfold locate
  rw [position?_eq_none.mpr fun hmem => hx ((h.mem_xrefs x).mp hmem)]

/-- Locating a key adds a node for it, if it was not met before. -/
theorem View.locate (h : View g known met refers) {x : String}
    (hx : ¬met x → known x = { xref := x }) :
    View (g.locate x).2 known (fun y => met y ∨ y = x) refers ∧
      (g.locate x).2.xrefs[(g.locate x).1]? = some x := by
  by_cases hmet : met x
  · obtain ⟨i, hlocate, hi⟩ := locate_of_met h hmet
    rw [hlocate]
    refine ⟨⟨h.nodup, h.inRange, h.node, fun y => ?_, h.refers_iff⟩, hi⟩
    rw [h.mem_xrefs]
    refine ⟨.inl, ?_⟩
    rintro (hy | rfl)
    · exact hy
    · exact hmet
  · rw [locate_of_not_met h hmet]
    -- the new node stands at the end, where no link leads
    have hxrefs := xrefs_concat g x
    refine ⟨⟨?_, ?_, ?_, ?_, ?_⟩, ?_⟩
    · rw [hxrefs, ← List.concat_eq_append]
      exact h.nodup.concat fun hmem => hmet ((h.mem_xrefs x).mp hmem)
    · intro l hl
      obtain ⟨h1, h2⟩ := h.inRange l hl
      rw [List.length_append, List.length_singleton]
      exact ⟨by omega, by omega⟩
    · intro n hn
      rcases List.mem_append.mp hn with hn | hn
      · exact h.node n hn
      · rw [List.mem_singleton.mp hn, hx hmet]
    · intro y
      rw [hxrefs, List.mem_append, h.mem_xrefs, List.mem_singleton]
    · intro y z
      rw [refers_append h, h.refers_iff]
    · dsimp only
      rw [hxrefs, ← length_xrefs, List.getElem?_concat_length]

/-- Locating a key leaves the others where they are. -/
theorem xrefs_locate (g : Graph) (x y : String) {i : Nat} (hi : g.xrefs[i]? = some y) :
    (g.locate x).2.xrefs[i]? = some y := by
  unfold Graph.locate
  cases g.position? x with
  | some _ => exact hi
  | none =>
    have hlt := (List.getElem?_eq_some_iff.mp hi).1
    dsimp only
    rw [xrefs_concat, List.getElem?_append_left hlt, hi]

theorem xrefs_update (g : Graph) (i : Nat) {f : Node → Node} (hf : ∀ n, (f n).xref = n.xref) :
    (g.update i f).xrefs = g.xrefs := by
  refine List.ext_getElem? fun j => ?_
  rw [xrefs, xrefs, Graph.update, List.getElem?_map, List.getElem?_map, List.getElem?_modify]
  cases g.nodes[j]? with
  | none => rfl
  | some n => by_cases hij : i = j <;> simp [hij, hf]

/-- Learning changes what is known of one key. -/
theorem View.update (h : View g known met refers) {x : String} {i : Nat}
    (hi : g.xrefs[i]? = some x) {f : Node → Node} (hf : ∀ n, (f n).xref = n.xref) :
    View (g.update i f) (fun y => if y = x then f (known y) else known y) met refers := by
  have hxrefs := g.xrefs_update i hf
  refine ⟨hxrefs ▸ h.nodup, ?_, ?_, ?_, ?_⟩
  · intro l hl
    rw [Graph.update, List.length_modify]
    exact h.inRange l hl
  · intro n hn
    obtain ⟨j, hj⟩ := List.mem_iff_getElem?.mp hn
    have hkey : g.xrefs[j]? = some n.xref := by
      rw [← hxrefs, xrefs, List.getElem?_map, hj]
      rfl
    have hold := h.nodes_of_xrefs hkey
    rw [Graph.update, List.getElem?_modify, hold] at hj
    -- no other position has the key `x`
    by_cases hij : i = j
    · have hnx : n.xref = x := Option.some.inj (hkey.symm.trans (hij ▸ hi))
      simp only [hij, if_true, Option.map_eq_map, Option.map_some, Option.some.injEq] at hj
      rw [if_pos hnx, hj]
    · have hnx : n.xref ≠ x := fun heq => hij (position_unique h.nodup hi (heq ▸ hkey))
      simp only [hij, if_false, Option.map_eq_map, Option.map_some, Option.some.injEq] at hj
      rw [if_neg hnx, hj]
  · intro y
    rw [hxrefs, h.mem_xrefs]
  · intro y z
    rw [← h.refers_iff]
    unfold Refers
    rw [hxrefs]
    rfl

/-- Referring to a key adds the reference. -/
theorem View.refer (h : View g known met refers) {x y : String} {i : Nat}
    (hi : g.xrefs[i]? = some x) (hy : ¬met y → known y = { xref := y }) :
    View (g.refer i y) known (fun z => met z ∨ z = y) (fun w z => refers w z ∨ w = x ∧ z = y) := by
  obtain ⟨hview, hj⟩ := h.locate hy
  have hi' := g.xrefs_locate y x hi
  refine ⟨hview.nodup, ?_, hview.node, hview.mem_xrefs, ?_⟩
  · intro l hl
    rcases mem_insertLink.mp hl with rfl | hl
    · have hilt := (List.getElem?_eq_some_iff.mp hi').1
      have hjlt := (List.getElem?_eq_some_iff.mp hj).1
      rw [length_xrefs] at hilt hjlt
      exact ⟨hilt, hjlt⟩
    · exact hview.inRange l hl
  · intro w z
    rw [← hview.refers_iff]
    constructor
    · rintro ⟨k, m, hl, hk, hm⟩
      -- the link is the new one or was there
      rcases mem_insertLink.mp hl with hl | hl
      · obtain ⟨rfl, rfl⟩ := Prod.mk.inj hl
        exact .inr ⟨Option.some.inj (hk.symm.trans hi'), Option.some.inj (hm.symm.trans hj)⟩
      · exact .inl ⟨k, m, hl, hk, hm⟩
    · rintro (⟨k, m, hl, hk, hm⟩ | ⟨rfl, rfl⟩)
      · exact ⟨k, m, mem_insertLink.mpr (.inr hl), hk, hm⟩
      · exact ⟨i, _, mem_insertLink.mpr (.inl rfl), hi', hj⟩

theorem xrefs_refer (g : Graph) (i k : Nat) (x y : String) (hk : g.xrefs[k]? = some x) :
    (g.refer i y).xrefs[k]? = some x :=
  g.xrefs_locate y x hk

/-- Referring to some keys adds the references. -/
theorem View.foldl_refer (h : View g known met refers) {x : String} {i : Nat}
    (hi : g.xrefs[i]? = some x) (ys : List String)
    (hknown : ∀ y, ¬met y → known y = { xref := y }) :
    View (ys.foldl (fun g y => g.refer i y) g) known (fun z => met z ∨ z ∈ ys)
      (fun w z => refers w z ∨ w = x ∧ z ∈ ys) := by
  induction ys generalizing g met refers with
  | nil => simpa using h
  | cons y ys ih =>
    have hrest := ih (h.refer hi (hknown y)) (g.xrefs_refer i i x y hi)
      fun z hz => hknown z fun hmet => hz (.inl hmet)
    refine hrest.congr (fun _ => rfl) (fun z => ?_) fun w z => ?_
    · rw [List.mem_cons, or_assoc]
    · rw [List.mem_cons, or_assoc, ← and_or_left]

end View

/-! ## The graph of some definitions -/

/-- What some definitions say of a key together.  The type of the first one counts. -/
def summary (ds : List Definition) (x : String) : Node where
  xref := x
  type := (ds.find? fun d => d.key == x).map (·.type)
  empty := ds.any fun d => d.key == x && d.empty
  minimal := ds.any fun d => d.key == x && d.minimal

/-- A key that some definitions define or refer to. -/
def Mentions (ds : List Definition) (x : String) : Prop :=
  ∃ d ∈ ds, d.key = x ∨ x ∈ d.references

/-- A key that refers to another one in some definitions. -/
def RefersIn (ds : List Definition) (x y : String) : Prop :=
  ∃ d ∈ ds, d.key = x ∧ y ∈ d.references

theorem summary_of_forall_ne {ds : List Definition} {x : String}
    (hx : ∀ d ∈ ds, (d.key == x) = false) : summary ds x = { xref := x } := by
  have htype : ds.find? (fun d => d.key == x) = none :=
    List.find?_eq_none.mpr fun d hd => by simp [hx d hd]
  have hany : ∀ p : Definition → Bool, (ds.any fun d => d.key == x && p d) = false :=
    fun p => List.any_eq_false.mpr fun d hd => by simp [hx d hd]
  rw [summary, htype, hany, hany]
  rfl

theorem summary_of_not_mentions {ds : List Definition} {x : String} (hx : ¬Mentions ds x) :
    summary ds x = { xref := x } :=
  summary_of_forall_ne fun d hd => beq_false_of_ne fun h => hx ⟨d, hd, .inl h⟩

/-- If no key is defined twice, a definition is found by its key. -/
theorem find?_key_eq_some {ds : List Definition} (hkeys : (ds.map (·.key)).Nodup) {x : String}
    {d : Definition} : ds.find? (fun e => e.key == x) = some d ↔ d ∈ ds ∧ d.key = x := by
  have hfound : ∀ {e}, ds.find? (fun e => e.key == x) = some e → e ∈ ds ∧ e.key = x := by
    intro e he
    have hkey : (e.key == x) = true := List.find?_some (p := fun e : Definition => e.key == x) he
    exact ⟨List.mem_of_find?_eq_some he, eq_of_beq hkey⟩
  refine ⟨hfound, ?_⟩
  rintro ⟨hd, hkey⟩
  cases he : ds.find? fun e => e.key == x with
  | none => exact absurd (beq_iff_eq.mpr hkey) (List.find?_eq_none.mp he d hd)
  | some e =>
    obtain ⟨hmem, hsame⟩ := hfound he
    rw [List.inj_on_of_nodup_map hkeys hmem hd (hsame.trans hkey.symm)]

/-- If no key is defined twice, its definition is all that is said of it. -/
theorem summary_of_mem {ds : List Definition} (hkeys : (ds.map (·.key)).Nodup) {d : Definition}
    (hd : d ∈ ds) :
    summary ds d.key =
      { xref := d.key, type := some d.type, empty := d.empty, minimal := d.minimal } := by
  have hany : ∀ p : Definition → Bool, (ds.any fun e => e.key == d.key && p e) = p d := by
    intro p
    rw [Bool.eq_iff_iff, List.any_eq_true]
    constructor
    · rintro ⟨e, he, h⟩
      rw [Bool.and_eq_true, beq_iff_eq] at h
      exact List.inj_on_of_nodup_map hkeys he hd h.1 ▸ h.2
    · intro hp
      exact ⟨d, hd, by rw [beq_self_eq_true, hp]; rfl⟩
  rw [summary, (find?_key_eq_some hkeys).mpr ⟨hd, rfl⟩, hany, hany]
  rfl

/-- If no key is defined twice, the order of the definitions does not matter. -/
theorem summary_perm {ds es : List Definition} (hperm : ds.Perm es)
    (hkeys : (ds.map (·.key)).Nodup) (x : String) : summary ds x = summary es x := by
  have hfind : ds.find? (fun d => d.key == x) = es.find? fun d => d.key == x := by
    refine Option.ext fun d => ?_
    rw [find?_key_eq_some hkeys, find?_key_eq_some ((hperm.map _).nodup_iff.mp hkeys),
      hperm.mem_iff]
  rw [summary, summary, hfind, hperm.any_eq, hperm.any_eq]

/-- What one more definition adds to what is known of its key. -/
theorem summary_concat (ds : List Definition) (d : Definition) (x : String) :
    summary (ds ++ [d]) x = if x = d.key then (summary ds x).learn d else summary ds x := by
  by_cases hx : x = d.key
  · subst hx
    rw [if_pos rfl, summary, summary, Node.learn, List.find?_append, List.any_append,
      List.any_append]
    cases ds.find? fun e => e.key == d.key <;> simp
  · have hne : (d.key == x) = false := beq_false_of_ne (Ne.symm hx)
    rw [if_neg hx, summary, summary, List.find?_append, List.any_append, List.any_append]
    simp [hne]

/-- A node with what a summary of further definitions says of its key. -/
def Node.merge (n m : Node) : Node :=
  { n with
    type := n.type.or m.type
    empty := n.empty || m.empty
    minimal := n.minimal || m.minimal }

/-- The last definition may be learned on its own. -/
theorem Node.merge_learn (n m : Node) (d : Definition) :
    n.merge (m.learn d) = (n.merge m).learn d := by
  have htype : n.type.or (some (m.type.getD d.type)) = some ((n.type.or m.type).getD d.type) := by
    cases n.type <;> rfl
  rw [merge, learn, htype, merge, learn, Bool.or_assoc, Bool.or_assoc]

/-- Definitions that do not speak of a key add nothing to what is known of it. -/
theorem Node.merge_summary_of_not_mentions (n : Node) {ds : List Definition} {x : String}
    (hx : ¬Mentions ds x) : n.merge (summary ds x) = n := by
  rw [summary_of_not_mentions hx, merge, Option.or_none, Bool.or_false, Bool.or_false]

section View
variable {g : Graph} {known : String → Node} {met : String → Prop}
  {refers : String → String → Prop}

/-- One more definition adds to what is known of its key, and adds its references. -/
theorem View.define (h : View g known met refers) (hnew : ∀ x, ¬met x → known x = { xref := x })
    (d : Definition) :
    View (g.define d) (fun x => if x = d.key then (known x).learn d else known x)
      (fun x => (met x ∨ x = d.key) ∨ x ∈ d.references)
      (fun x y => refers x y ∨ x = d.key ∧ y ∈ d.references) := by
  obtain ⟨hlocated, hi⟩ := h.locate (hnew d.key)
  have hxref : ∀ n : Node, (n.learn d).xref = n.xref := fun _ => rfl
  have hlearned := hlocated.update hi hxref
  have hi' : ((g.locate d.key).2.update (g.locate d.key).1 fun n => n.learn d).xrefs[
      (g.locate d.key).1]? = some d.key := by
    rw [xrefs_update _ _ hxref]
    exact hi
  refine hlearned.foldl_refer hi' d.references fun y hy => ?_
  rw [not_or] at hy
  rw [if_neg hy.2, hnew y hy.1]

/-- Further definitions add what they say together. -/
theorem View.foldl_define (h : View g known met refers)
    (hnew : ∀ x, ¬met x → known x = { xref := x }) (ds : List Definition) :
    View (ds.foldl Graph.define g) (fun x => (known x).merge (summary ds x))
      (fun x => met x ∨ Mentions ds x) (fun x y => refers x y ∨ RefersIn ds x y) := by
  -- the graph grows at its end, and so do the definitions
  induction ds using List.reverseRecOn with
  | nil =>
    have hnone : ∀ x, ¬Mentions [] x := fun _ ⟨_, hd, _⟩ => absurd hd List.not_mem_nil
    refine h.congr (fun x => ?_) (fun x => ?_) fun x y => ?_
    · exact ((known x).merge_summary_of_not_mentions (hnone x)).symm
    · exact ⟨.inl, fun hx => hx.resolve_right (hnone x)⟩
    · exact ⟨.inl, fun hxy => hxy.resolve_right fun ⟨_, hd, _⟩ => absurd hd List.not_mem_nil⟩
  | append_singleton ds d ih =>
    rw [List.foldl_append]
    refine (ih.define (fun x hx => ?_) d).congr (fun x => ?_) (fun x => ?_) fun x y => ?_
    · rw [not_or] at hx
      rw [Node.merge_summary_of_not_mentions _ hx.2, hnew x hx.1]
    · rw [summary_concat]
      split
      · rw [Node.merge_learn]
      · rfl
    · unfold Mentions
      simp only [List.mem_append, List.mem_singleton, or_and_right, exists_or, exists_eq_left]
      rw [or_assoc, or_assoc, eq_comm (a := x)]
    · unfold RefersIn
      simp only [List.mem_append, List.mem_singleton, or_and_right, exists_or, exists_eq_left]
      rw [or_assoc, eq_comm (a := x)]

end View

/-- **The reference graph of some definitions** knows of every key what its definitions
say together, has met the keys that are defined or referred to, and has the references
that the definitions make. -/
theorem view_foldl_define (ds : List Definition) :
    View (ds.foldl define {}) (summary ds) (Mentions ds) (RefersIn ds) := by
  have hempty : View {} (fun x => { xref := x }) (fun _ => False) (fun _ _ => False) := view_empty
  refine (hempty.foldl_define (fun _ _ => rfl) ds).congr (fun x => ?_) (fun x => ?_) fun x y => ?_
  · rw [Node.merge, Option.none_or, Bool.false_or, Bool.false_or]
    rfl
  · exact or_iff_right not_false
  · exact or_iff_right not_false

end Graph
end Gedcom
