import Gedcom.Graph

/-!
# Pruning a reference graph

A record of a transmission is of no use if it holds nothing or if no other
record refers to it, unless it is the header, the trailer or an individual.
Pruning cuts all links of such records; a record that a cut link led to may
thereby lose its last referrer, so the cut goes on from there.  Passes over all
records are repeated until one of them changes nothing.

Every step removes links and adds none (`length_links_detach_le`), which is why
the work ends.
-/
namespace Gedcom.Graph

/-- The types of record that are never cut off. -/
def keptTypes : List String := ["HEAD", "TRLR", "INDI"]

/-- Whether the record at a position is to be cut off. -/
def isPrunable (g : Graph) (i : Nat) : Bool :=
  match g.nodes[i]? with
  | some n => (n.empty || !g.hasSource i) && !n.type.any keptTypes.contains
  | none => false

/-- A graph without the links of a position. -/
def isolate (g : Graph) (i : Nat) : Graph :=
  { g with links := g.links.filter fun l => l.1 != i && l.2 != i }

/-- The other positions that a position links to, in ascending order. -/
def others (g : Graph) (i : Nat) : List Nat :=
  (g.links.filter fun l => l.1 == i && l.2 != i).map (·.2)

theorem length_filter_add_le {α : Type} (p q : α → Bool) (hpq : ∀ a, p a = true → q a = false)
    (l : List α) : (l.filter p).length + (l.filter q).length ≤ l.length := by
  induction l with
  | nil => simp
  | cons a l ih =>
    cases hp : p a
    · cases hq : q a <;> simp [hp, hq] <;> omega
    · simp [hp, hpq a hp]
      omega

theorem length_isolate_add_others_le (g : Graph) (i : Nat) :
    (g.isolate i).links.length + (g.others i).length ≤ g.links.length := by
  rw [others, List.length_map]
  exact length_filter_add_le _ _ (by intro l; simp; intro h _; simp [h]) g.links

/-- Cut off the records at some positions that are to be cut off, and go on
with the records they linked to. -/
def detach (g : Graph) : (pending : List Nat) → Graph
  | [] => g
  | i :: pending =>
    if g.isPrunable i then (g.isolate i).detach ((g.others i).reverse ++ pending)
    else g.detach pending
termination_by pending => g.links.length + pending.length
decreasing_by
  · have := length_isolate_add_others_le g i
    simp only [List.length_append, List.length_reverse, List.length_cons]
    omega
  · simp

/-- Detaching leaves the records as they are. -/
theorem nodes_detach (g : Graph) (pending : List Nat) : (g.detach pending).nodes = g.nodes := by
  fun_induction detach g pending with
  | case1 => rfl
  | case2 g i pending _ ih => exact ih
  | case3 g i pending _ ih => exact ih

/-- Detaching adds no links. -/
theorem links_detach_subset (g : Graph) (pending : List Nat) :
    (g.detach pending).links ⊆ g.links := by
  fun_induction detach g pending with
  | case1 => exact fun _ h => h
  | case2 g i pending _ ih => exact fun l h => (List.mem_filter.1 (ih h)).1
  | case3 g i pending _ ih => exact ih

theorem length_links_detach_le (g : Graph) (pending : List Nat) :
    (g.detach pending).links.length ≤ g.links.length := by
  fun_induction detach g pending with
  | case1 => exact Nat.le_refl _
  | case2 g i pending _ ih => exact Nat.le_trans ih (List.length_filter_le _ _)
  | case3 g i pending _ ih => exact ih

/-- Look at every record once and cut off those that are to be cut off. -/
def prunePass (g : Graph) : Graph :=
  (List.range g.nodes.length).foldl (fun g i => g.detach [i]) g

/-- Passes until one changes nothing, `more` of them after the first at most.
The answer counts the passes, those made before included. -/
def pruneFrom (made : Nat) : (more : Nat) → Graph → Except Fault Nat × Graph
  | more, g =>
    let pruned := g.prunePass
    if pruned.links.length = g.links.length then (.ok (made + 1), pruned)
    else match more with
      | 0 => (.error (.unsettled (made + 1)), pruned)
      | more + 1 => pruneFrom (made + 1) more pruned

/-- Prune a graph in at most `limit` passes, but at least one.  The graph keeps
what was done when the passes do not suffice. -/
def pruneWithin (limit : Nat) (g : Graph) : Except Fault Nat × Graph :=
  pruneFrom 0 (limit - 1) g

/-- The number of passes after which pruning is given up. -/
def maxPasses : Nat := 100

/-- Prune a graph. -/
def prune (g : Graph) : Except Fault Nat × Graph := g.pruneWithin maxPasses

end Gedcom.Graph
