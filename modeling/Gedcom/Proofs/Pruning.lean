import Gedcom.Graph.Prune
import Mathlib.Tactic.ByContra

/-!
# What pruning leaves of a reference graph

A record is *doomed* if it is neither header, trailer nor individual and holds
nothing or is referred to by doomed records only: the doomed records are the least
set with this property (`Doomed`).  Records that refer to each other in a circle
keep each other, and so does a record that refers to itself.

Pruning cuts exactly the links at doomed records (`mem_links_prunePass`), and it never
takes more than two passes (`prune_eq_ok`).  Both halves rest on an invariant of the
work at a single position, `detach`:

* no link is cut but at a doomed record (`Pruned`);
* a record that is to be cut off but still has links is waiting for its turn
  (`PendingIn`), so that nothing is left to do after one pass (`Settled`).
-/
namespace Gedcom.Graph

/-! ## Doomed records -/

/-- Whether the record at a position is of a type that is never cut off. -/
def isKept (n : Node) : Bool := n.type.any keptTypes.contains

/-- The positions of the records that pruning cuts off. -/
inductive Doomed (g : Graph) : Nat → Prop
  /-- A record that holds nothing. -/
  | empty {i : Nat} {n : Node} (hn : g.nodes[i]? = some n) (hkept : isKept n = false)
      (hempty : n.empty = true) : Doomed g i
  /-- A record that only doomed records refer to, if any does. -/
  | unreferenced {i : Nat} {n : Node} (hn : g.nodes[i]? = some n) (hkept : isKept n = false)
      (hsources : ∀ j, (j, i) ∈ g.links → Doomed g j) : Doomed g i

theorem hasSource_eq_true {g : Graph} {i : Nat} :
    g.hasSource i = true ↔ ∃ j, (j, i) ∈ g.links := by
  unfold hasSource
  rw [List.any_eq_true]
  constructor
  · rintro ⟨⟨j, k⟩, hl, hk⟩
    obtain rfl : k = i := eq_of_beq hk
    exact ⟨j, hl⟩
  · rintro ⟨j, hl⟩
    exact ⟨(j, i), hl, beq_self_eq_true i⟩

/-- A record is to be cut off if it is of no kept type, and holds nothing or is not
referred to. -/
theorem isPrunable_eq_true {g : Graph} {i : Nat} :
    g.isPrunable i = true ↔
      ∃ n, g.nodes[i]? = some n ∧ isKept n = false ∧
        (n.empty = true ∨ ∀ j, (j, i) ∉ g.links) := by
  unfold isPrunable isKept
  have hsource : g.hasSource i = false ↔ ∀ j, (j, i) ∉ g.links := by
    rw [← Bool.not_eq_true, hasSource_eq_true]
    exact not_exists
  cases g.nodes[i]? with
  | none => simp
  | some n =>
    simp only [Bool.and_eq_true, Bool.or_eq_true, Bool.not_eq_true', hsource,
      Option.some.injEq, exists_eq_left']
    exact and_comm

theorem mem_links_isolate {g : Graph} {i : Nat} {l : Nat × Nat} :
    l ∈ (g.isolate i).links ↔ l ∈ g.links ∧ l.1 ≠ i ∧ l.2 ≠ i := by
  simp [isolate]

theorem mem_others {g : Graph} {i k : Nat} : k ∈ g.others i ↔ (i, k) ∈ g.links ∧ k ≠ i := by
  unfold others
  rw [List.mem_map]
  constructor
  · rintro ⟨⟨j, k⟩, hl, rfl⟩
    rw [List.mem_filter, Bool.and_eq_true, bne_iff_ne] at hl
    obtain ⟨hl, hj, hk⟩ := hl
    obtain rfl : j = i := eq_of_beq hj
    exact ⟨hl, hk⟩
  · rintro ⟨hl, hk⟩
    refine ⟨(i, k), List.mem_filter.mpr ⟨hl, ?_⟩, rfl⟩
    simpa using hk

/-! ## No link is cut but at a doomed record -/

/-- What is left of a graph when links at doomed records are cut. -/
structure Pruned (g h : Graph) : Prop where
  nodes : h.nodes = g.nodes
  links : h.links ⊆ g.links
  cut : ∀ l ∈ g.links, l ∉ h.links → g.Doomed l.1 ∨ g.Doomed l.2

variable {g h : Graph}

theorem Pruned.refl (g : Graph) : Pruned g g :=
  ⟨rfl, fun _ hl => hl, fun _ hl hl' => absurd hl hl'⟩

/-- What is to be cut off is doomed. -/
theorem Pruned.doomed_of_isPrunable (hp : Pruned g h) {i : Nat} (hi : h.isPrunable i = true) :
    g.Doomed i := by
  obtain ⟨n, hn, hkept, hwhy⟩ := isPrunable_eq_true.mp hi
  rw [hp.nodes] at hn
  by_contra hdoomed
  rcases hwhy with hempty | hsources
  · exact hdoomed (.empty hn hkept hempty)
  · refine hdoomed (.unreferenced hn hkept fun j hj => ?_)
    -- the link was cut, and not because of `i`
    exact (hp.cut (j, i) hj (hsources j)).resolve_right hdoomed

theorem Pruned.isolate (hp : Pruned g h) {i : Nat} (hi : g.Doomed i) : Pruned g (h.isolate i) := by
  refine ⟨hp.nodes, fun l hl => hp.links (mem_links_isolate.mp hl).1, fun l hl hcut => ?_⟩
  by_cases hlh : l ∈ h.links
  · by_cases h1 : l.1 = i
    · exact .inl (h1 ▸ hi)
    · by_cases h2 : l.2 = i
      · exact .inr (h2 ▸ hi)
      · exact absurd (mem_links_isolate.mpr ⟨hlh, h1, h2⟩) hcut
  · exact hp.cut l hl hlh

theorem Pruned.detach (hp : Pruned g h) (pending : List Nat) : Pruned g (h.detach pending) := by
  fun_induction Graph.detach h pending with
  | case1 => exact hp
  | case2 h i pending hi ih => exact ih (hp.isolate (hp.doomed_of_isPrunable hi))
  | case3 h i pending _ ih => exact ih hp

theorem Pruned.prunePass (hp : Pruned g h) : Pruned g h.prunePass := by
  unfold Graph.prunePass
  generalize List.range h.nodes.length = is
  induction is generalizing h with
  | nil => exact hp
  | cons i is ih => exact ih (hp.detach [i])

/-! ## One pass is enough -/

/-- A record that is to be cut off still has links. -/
def IsLoose (g : Graph) (i : Nat) : Prop :=
  g.isPrunable i = true ∧ ∃ l ∈ g.links, l.1 = i ∨ l.2 = i

/-- Whoever is still to be cut off is one of some positions. -/
def PendingIn (g : Graph) (waiting : Nat → Prop) : Prop := ∀ i, g.IsLoose i → waiting i

/-- Nothing is left to be cut off. -/
def Settled (g : Graph) : Prop := ∀ i, ¬g.IsLoose i

/-- When a record is cut off, only those to which it linked may become loose. -/
theorem isLoose_of_isolate {i k : Nat} (hk : (g.isolate i).IsLoose k) :
    k ≠ i ∧ (g.IsLoose k ∨ k ∈ g.others i) := by
  obtain ⟨hprunable, l, hl, hend⟩ := hk
  obtain ⟨hlg, h1, h2⟩ := mem_links_isolate.mp hl
  have hne : k ≠ i := by
    rcases hend with rfl | rfl
    · exact h1
    · exact h2
  refine ⟨hne, ?_⟩
  obtain ⟨n, hn, hkept, hwhy⟩ := isPrunable_eq_true.mp hprunable
  -- what `i` does not link to has lost no source
  by_cases hik : (i, k) ∈ g.links
  · exact .inr (mem_others.mpr ⟨hik, hne⟩)
  · refine .inl ⟨isPrunable_eq_true.mpr ⟨n, hn, hkept, ?_⟩, l, hlg, hend⟩
    rcases hwhy with hempty | hsources
    · exact .inl hempty
    · refine .inr fun j hj => hsources j (mem_links_isolate.mpr ⟨hj, ?_, hne⟩)
      rintro rfl
      exact hik hj

theorem PendingIn.detach {waiting : Nat → Prop} {pending : List Nat}
    (hp : g.PendingIn fun i => waiting i ∨ i ∈ pending) :
    (g.detach pending).PendingIn waiting := by
  fun_induction Graph.detach g pending with
  | case1 g => exact fun i hi => (hp i hi).resolve_right List.not_mem_nil
  | case2 g i pending _ ih =>
    refine ih fun k hk => ?_
    obtain ⟨hne, hloose | hothers⟩ := isLoose_of_isolate hk
    · rcases hp k hloose with hk | hk
      · exact .inl hk
      · exact .inr (List.mem_append_right _ ((List.mem_cons.mp hk).resolve_left hne))
    · exact .inr (List.mem_append_left _ (List.mem_reverse.mpr hothers))
  | case3 g i pending hi ih =>
    refine ih fun k hk => ?_
    rcases hp k hk with hk' | hk'
    · exact .inl hk'
    · rcases List.mem_cons.mp hk' with rfl | hk'
      · exact absurd hk.1 hi
      · exact .inr hk'

theorem settled_prunePass (g : Graph) : g.prunePass.Settled := by
  -- once the positions below `made` had their turn, only later ones may be loose
  have hpass : ∀ made left : Nat, ∀ h : Graph, h.nodes.length = made + left →
      h.PendingIn (made ≤ ·) →
      (((List.range' made left).foldl (fun g i => g.detach [i]) h).Settled) := by
    intro made left
    induction left generalizing made with
    | zero =>
      intro h hlength hp
      show h.Settled
      intro i hi
      obtain ⟨n, hn, _⟩ := isPrunable_eq_true.mp hi.1
      have hlt := (List.getElem?_eq_some_iff.mp hn).1
      have := hp i hi
      omega
    | succ left ih =>
      intro h hlength hp
      rw [List.range'_succ, List.foldl_cons]
      refine ih (made + 1) (h.detach [made]) (by rw [nodes_detach]; omega) ?_
      refine PendingIn.detach fun i hi => ?_
      rcases Nat.eq_or_lt_of_le (hp i hi) with rfl | hlt
      · exact .inr List.mem_cons_self
      · exact .inl hlt
  rw [prunePass, List.range_eq_range']
  exact hpass 0 g.nodes.length g (Nat.zero_add _).symm fun i _ => Nat.zero_le i

/-- Where nothing is left to be cut off, nothing is. -/
theorem Settled.detach {g : Graph} (hg : g.Settled) (pending : List Nat) :
    g.detach pending = g := by
  fun_induction Graph.detach g pending with
  | case1 => rfl
  | case2 g i pending hi ih =>
    have hall : ∀ l ∈ g.links, (l.1 != i && l.2 != i) = true := by
      intro l hl
      rw [Bool.and_eq_true, bne_iff_ne, bne_iff_ne]
      exact ⟨fun h1 => hg i ⟨hi, l, hl, .inl h1⟩, fun h2 => hg i ⟨hi, l, hl, .inr h2⟩⟩
    have hisolate : g.isolate i = g := by
      rw [Graph.isolate, List.filter_eq_self.mpr hall]
    rw [hisolate] at ih ⊢
    exact ih hg
  | case3 g i pending _ ih => exact ih hg

theorem Settled.prunePass {g : Graph} (hg : g.Settled) : g.prunePass = g := by
  unfold Graph.prunePass
  induction List.range g.nodes.length with
  | nil => rfl
  | cons i is ih => rw [List.foldl_cons, hg.detach, ih]

/-- Detaching keeps the links that satisfy some test, in their order. -/
theorem exists_links_detach (g : Graph) (pending : List Nat) :
    ∃ keeps : Nat × Nat → Bool, (g.detach pending).links = g.links.filter keeps := by
  fun_induction Graph.detach g pending with
  | case1 g => exact ⟨fun _ => true, (List.filter_eq_self.mpr fun _ _ => rfl).symm⟩
  | case2 g i pending _ ih =>
    obtain ⟨keeps, hkeeps⟩ := ih
    rw [hkeeps, Graph.isolate, List.filter_filter]
    exact ⟨_, rfl⟩
  | case3 g i pending _ ih => exact ih

theorem exists_links_prunePass (g : Graph) :
    ∃ keeps : Nat × Nat → Bool, g.prunePass.links = g.links.filter keeps := by
  unfold Graph.prunePass
  generalize List.range g.nodes.length = is
  induction is generalizing g with
  | nil => exact ⟨fun _ => true, (List.filter_eq_self.mpr fun _ _ => rfl).symm⟩
  | cons i is ih =>
    obtain ⟨keeps, hkeeps⟩ := ih (g.detach [i])
    obtain ⟨keeps', hkeeps'⟩ := g.exists_links_detach [i]
    rw [List.foldl_cons, hkeeps, hkeeps', List.filter_filter]
    exact ⟨_, rfl⟩

/-- A pass that cuts no link finds nothing to do. -/
theorem length_links_prunePass_eq_iff {g : Graph} :
    g.prunePass.links.length = g.links.length ↔ g.Settled := by
  constructor
  · intro hlength
    obtain ⟨keeps, hkeeps⟩ := g.exists_links_prunePass
    have hlinks : g.prunePass.links = g.links := by
      rw [hkeeps] at hlength ⊢
      exact List.filter_sublist.eq_of_length hlength
    have hself : g.prunePass = g := by
      show (⟨g.prunePass.nodes, g.prunePass.links⟩ : Graph) = g
      rw [(Pruned.refl g).prunePass.nodes, hlinks]
    exact hself ▸ settled_prunePass g
  · intro hg
    rw [hg.prunePass]

/-- **Pruning in a bounded number of passes.**  It takes one pass if there is nothing
to cut, and otherwise two, of which the second finds nothing to do. -/
theorem pruneWithin_eq (limit : Nat) (g : Graph) :
    g.pruneWithin limit =
      if g.prunePass.links.length = g.links.length then (.ok 1, g.prunePass)
      else if limit ≤ 1 then (.error (.unsettled 1), g.prunePass)
      else (.ok 2, g.prunePass) := by
  have hsecond := (settled_prunePass g).prunePass
  unfold pruneWithin
  by_cases hlength : g.prunePass.links.length = g.links.length
  · unfold pruneFrom
    rw [if_pos hlength, if_pos hlength]
  · rw [if_neg hlength]
    by_cases hlimit : limit ≤ 1
    · have hzero : limit - 1 = 0 := by omega
      rw [if_pos hlimit, hzero]
      unfold pruneFrom
      rw [if_neg hlength]
    · obtain ⟨more, hmore⟩ : ∃ more, limit - 1 = more + 1 := ⟨limit - 2, by omega⟩
      rw [if_neg hlimit, hmore]
      unfold pruneFrom
      rw [if_neg hlength]
      dsimp only
      unfold pruneFrom
      rw [hsecond, if_pos rfl]

theorem prune_eq_ok (g : Graph) : ∃ passes, g.prune = (.ok passes, g.prunePass) := by
  unfold prune
  rw [pruneWithin_eq]
  split
  · exact ⟨1, rfl⟩
  · exact ⟨2, rfl⟩

/-- Whatever the bound is, the graph that is left is that after one pass. -/
theorem snd_pruneWithin (limit : Nat) (g : Graph) : (g.pruneWithin limit).2 = g.prunePass := by
  rw [pruneWithin_eq]
  split
  · rfl
  · split <;> rfl

/-- **One pass settles a graph**, whatever its size and the order of its records.  Pruning
takes one pass if nothing is to be cut off and two otherwise, and it never gives up.  With
a bound it gives up exactly if something is to be cut off and the bound does not allow a
second pass; the graph that it leaves is the same. -/
theorem prunePass_settles (g : Graph) :
    g.prunePass.Settled ∧ g.prunePass.prunePass = g.prunePass ∧
      (g.Settled → g.prune = (.ok 1, g)) ∧
      (¬g.Settled → g.prune = (.ok 2, g.prunePass)) ∧
      ∀ limit, (g.pruneWithin limit).2 = g.prune.2 ∧
        ((∃ passes, (g.pruneWithin limit).1 = .error (.unsettled passes)) ↔
          limit ≤ 1 ∧ ¬g.Settled) := by
  have hsettled := settled_prunePass g
  refine ⟨hsettled, hsettled.prunePass, fun hg => ?_, fun hg => ?_, fun limit => ⟨?_, ?_⟩⟩
  · rw [prune, pruneWithin_eq, if_pos (length_links_prunePass_eq_iff.mpr hg), hg.prunePass]
  · rw [prune, pruneWithin_eq, if_neg (mt length_links_prunePass_eq_iff.mp hg)]
    exact if_neg (by decide)
  · rw [prune, snd_pruneWithin, snd_pruneWithin]
  · rw [pruneWithin_eq, ← length_links_prunePass_eq_iff]
    split
    · simp [*]
    · split <;> simp [*]

/-! ## The links that are left -/

/-- Once nothing is left to be cut off, doomed records have no links. -/
theorem Pruned.not_link_of_doomed (hp : Pruned g h) (hs : h.Settled) {i : Nat}
    (hi : g.Doomed i) : ∀ l ∈ h.links, l.1 ≠ i ∧ l.2 ≠ i := by
  have hnone : ∀ {i}, h.isPrunable i = true → ∀ l ∈ h.links, l.1 ≠ i ∧ l.2 ≠ i := by
    intro i hprunable l hl
    exact ⟨fun h1 => hs i ⟨hprunable, l, hl, .inl h1⟩, fun h2 => hs i ⟨hprunable, l, hl, .inr h2⟩⟩
  -- the links into a doomed record are gone because those who refer to it are doomed
  induction hi with
  | empty hn hkept hempty =>
    exact hnone (isPrunable_eq_true.mpr ⟨_, hp.nodes ▸ hn, hkept, .inl hempty⟩)
  | @unreferenced i n hn hkept _ ih =>
    refine hnone (isPrunable_eq_true.mpr ⟨n, hp.nodes ▸ hn, hkept, .inr fun j hj => ?_⟩)
    exact (ih j (hp.links hj) (j, i) hj).1 rfl

/-- **Pruning cuts exactly the links at doomed records.** -/
theorem mem_links_prunePass {l : Nat × Nat} :
    l ∈ g.prunePass.links ↔ l ∈ g.links ∧ ¬g.Doomed l.1 ∧ ¬g.Doomed l.2 := by
  have hp := (Pruned.refl g).prunePass
  have hs := settled_prunePass g
  constructor
  · intro hl
    refine ⟨hp.links hl, fun h1 => ?_, fun h2 => ?_⟩
    · exact (hp.not_link_of_doomed hs h1 l hl).1 rfl
    · exact (hp.not_link_of_doomed hs h2 l hl).2 rfl
  · rintro ⟨hl, h1, h2⟩
    by_contra hcut
    rcases hp.cut l hl hcut with h | h
    · exact h1 h
    · exact h2 h

open Classical in
/-- The links that are left stand in their order. -/
theorem links_prunePass (g : Graph) :
    g.prunePass.links = g.links.filter fun l => ¬g.Doomed l.1 ∧ ¬g.Doomed l.2 := by
  obtain ⟨keeps, hkeeps⟩ := g.exists_links_prunePass
  rw [hkeeps]
  refine List.filter_congr fun l hl => ?_
  have hmem : l ∈ g.links.filter keeps ↔ l ∈ g.links ∧ ¬g.Doomed l.1 ∧ ¬g.Doomed l.2 := by
    rw [← hkeeps]
    exact mem_links_prunePass
  rw [List.mem_filter, and_congr_right_iff] at hmem
  rw [Bool.eq_iff_iff, hmem hl, decide_eq_true_eq]

theorem nodes_prunePass (g : Graph) : g.prunePass.nodes = g.nodes :=
  (Pruned.refl g).prunePass.nodes

theorem find?_prunePass (g : Graph) (x : String) : g.prunePass.find? x = g.find? x := by
  rw [find?, find?, nodes_prunePass]

/-- A record of no kept type is referred to in the pruned graph unless it is doomed. -/
theorem hasSource_prunePass {i : Nat} {n : Node} (hn : g.nodes[i]? = some n)
    (hkept : isKept n = false) : g.prunePass.hasSource i = true ↔ ¬g.Doomed i := by
  rw [hasSource_eq_true]
  constructor
  · rintro ⟨j, hj⟩
    exact (mem_links_prunePass.mp hj).2.2
  · intro hdoomed
    by_contra hnone
    refine hdoomed (.unreferenced hn hkept fun j hj => ?_)
    by_contra hj'
    exact hnone ⟨j, mem_links_prunePass.mpr ⟨hj, hj', hdoomed⟩⟩

end Gedcom.Graph
