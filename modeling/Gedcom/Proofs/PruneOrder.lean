import Gedcom.Proofs.Linking
import Gedcom.Proofs.Pruning

/-!
# Pruning and the order of the records

A reference graph may be built, extended and pruned in any order (`Reached`).  Whenever
it is pruned, exactly the links at doomed records go.

Which links these are can be said by keys alone, without the positions of the records:
what counts of a record is whether it is defined, whether it is of a kept type, whether it
holds nothing, and who refers to it (`Alike`).  So the order in which records are added
between two prunings does not matter (`Alike.foldl_addRecord`), with one exception.  The type
of a record is that of its first definition, and if a key is defined as a record of a kept
type and as one of another type, then it matters which of the two comes first.
-/
namespace Gedcom.Graph

/-! ## Graphs that can be reached -/

/-- The graphs that one gets by building, adding records and pruning. -/
inductive Reached : Graph → Prop
  | build (ts : List Text) : Reached (ofTexts ts)
  | addRecord {g : Graph} (hg : Reached g) (t : Text) : Reached (g.addRecord t)
  | prune {g : Graph} (hg : Reached g) (limit : Nat) : Reached (g.pruneWithin limit).2

/-- What is known of a key: nothing, if it was not met. -/
def known (g : Graph) (x : String) : Node := (g.find? x).getD { xref := x }

/-- Every key of a graph has one position, and its links lead from position to position. -/
abbrev Regular (g : Graph) : Prop := View g g.known (· ∈ g.xrefs) g.Refers

section View
variable {g : Graph} {known' : String → Node} {met : String → Prop}
  {refers : String → String → Prop}

theorem View.known_eq (hv : View g known' met refers)
    (hnew : ∀ x, ¬met x → known' x = { xref := x }) (x : String) : g.known x = known' x := by
  by_cases hx : met x
  · rw [known, hv.find?_of_met hx, Option.getD_some]
  · rw [known, hv.find?_of_not_met hx, Option.getD_none, hnew x hx]

theorem View.regular (hv : View g known' met refers)
    (hnew : ∀ x, ¬met x → known' x = { xref := x }) : g.Regular :=
  hv.congr (fun x => (hv.known_eq hnew x).symm) (fun x => (hv.mem_xrefs x).symm)
    fun x y => (hv.refers_iff x y).symm

theorem Regular.known_of_not_met (hg : g.Regular) {x : String} (hx : x ∉ g.xrefs) :
    g.known x = { xref := x } := by
  rw [known, hg.find?_of_not_met hx, Option.getD_none]

/-- Further definitions keep a graph regular; they add what they say together. -/
theorem Regular.foldl_define (hg : g.Regular) (ds : List Definition) :
    (ds.foldl define g).Regular ∧
      (∀ x, (ds.foldl define g).known x = (g.known x).merge (summary ds x)) ∧
      ∀ x y, (ds.foldl define g).Refers x y ↔ g.Refers x y ∨ RefersIn ds x y := by
  have hview := View.foldl_define hg (fun x hx => hg.known_of_not_met hx) ds
  have hnew : ∀ x, ¬(x ∈ g.xrefs ∨ Mentions ds x) →
      (g.known x).merge (summary ds x) = { xref := x } := by
    intro x hx
    rw [not_or] at hx
    rw [Node.merge_summary_of_not_mentions _ hx.2, hg.known_of_not_met hx.1]
  exact ⟨hview.regular hnew, hview.known_eq hnew, hview.refers_iff⟩

theorem known_prunePass (g : Graph) (x : String) : g.prunePass.known x = g.known x := by
  rw [known, known, find?_prunePass]

theorem xrefs_prunePass (g : Graph) : g.prunePass.xrefs = g.xrefs := by
  rw [xrefs, xrefs, nodes_prunePass]

theorem Regular.prunePass (hg : g.Regular) : g.prunePass.Regular where
  nodup := by
    rw [xrefs_prunePass]
    exact hg.nodup
  inRange := by
    intro l hl
    rw [nodes_prunePass]
    exact hg.inRange l (mem_links_prunePass.mp hl).1
  node := by
    intro n hn
    rw [known_prunePass]
    rw [nodes_prunePass] at hn
    exact hg.node n hn
  mem_xrefs := fun _ => Iff.rfl
  refers_iff := fun _ _ => Iff.rfl

end View

/-- **Every graph that can be reached is regular.** -/
theorem Reached.regular {g : Graph} (hg : Reached g) : g.Regular := by
  induction hg with
  | build ts =>
    rw [ofTexts_eq]
    exact (view_foldl_define _).regular fun x hx => summary_of_not_mentions hx
  | @addRecord g _ t ih =>
    have hadd := foldl_addRecord_eq g [t]
    rw [List.foldl_cons, List.foldl_nil] at hadd
    rw [hadd]
    exact (ih.foldl_define _).1
  | @prune g _ limit ih =>
    rw [snd_pruneWithin]
    exact ih.prunePass

theorem Regular.foldl_addRecord {g : Graph} (hg : g.Regular) (ts : List Text) :
    (ts.foldl addRecord g).Regular := by
  rw [foldl_addRecord_eq]
  exact (hg.foldl_define _).1

/-! ## References by keys -/

variable {g h : Graph}

/-- The records that a record refers to are those to which links lead from it. -/
theorem mem_referencesOf (hg : g.Regular) {x y : String} :
    y ∈ g.referencesOf x ↔ g.Refers x y := by
  have hkey : ∀ j, (g.nodes[j]?).map Node.xref = g.xrefs[j]? := fun _ => List.getElem?_map.symm
  have htarget : ∀ i j, j ∈ g.targets i ↔ (i, j) ∈ g.links := by
    intro i j
    rw [targets, List.mem_map]
    constructor
    · rintro ⟨⟨k, j⟩, hfilter, rfl⟩
      obtain ⟨hl, hk⟩ := List.mem_filter.mp hfilter
      obtain rfl : k = i := eq_of_beq hk
      exact hl
    · intro hl
      exact ⟨(i, j), List.mem_filter.mpr ⟨hl, beq_self_eq_true i⟩, rfl⟩
  unfold referencesOf
  cases hi : g.position? x with
  | none =>
    refine ⟨fun hy => absurd hy List.not_mem_nil, ?_⟩
    rintro ⟨i, _, _, hx, _⟩
    exact absurd (List.mem_of_getElem? hx) (position?_eq_none.mp hi)
  | some i =>
    have hx := xrefs_of_position? hi
    dsimp only
    rw [xrefsAt, List.mem_filterMap]
    constructor
    · rintro ⟨j, hj, hy⟩
      exact ⟨i, j, (htarget i j).mp hj, hx, (hkey j).symm.trans hy⟩
    · rintro ⟨k, j, hl, hk, hy⟩
      obtain rfl := position_unique hg.nodup hx hk
      exact ⟨j, (htarget i j).mpr hl, (hkey j).trans hy⟩

/-- What pruning asks of a record: whether it is defined, and as a record of a kept type, and
whether it holds nothing. -/
def Node.standing (n : Node) : Option Bool × Bool := (n.type.map keptTypes.contains, n.empty)

theorem isKept_of_standing {n m : Node} (hnm : n.standing = m.standing) : isKept n = isKept m := by
  have htype : n.type.map keptTypes.contains = m.type.map keptTypes.contains :=
    congrArg Prod.fst hnm
  have hany : ∀ n : Node, isKept n = (n.type.map keptTypes.contains).any id := by
    intro n
    rw [isKept]
    cases n.type <;> rfl
  rw [hany, hany, htype]

/-- Two graphs have the same references between the same records, at whatever positions. -/
structure Alike (g h : Graph) : Prop where
  standing : ∀ x, (g.known x).standing = (h.known x).standing
  references : ∀ x y, y ∈ g.referencesOf x ↔ y ∈ h.referencesOf x

theorem Alike.refl (g : Graph) : Alike g g := ⟨fun _ => rfl, fun _ _ => Iff.rfl⟩

theorem Alike.symm (halike : Alike g h) : Alike h g :=
  ⟨fun x => (halike.standing x).symm, fun x y => (halike.references x y).symm⟩

theorem Alike.refers (halike : Alike g h) (hg : g.Regular) (hh : h.Regular) (x y : String) :
    g.Refers x y ↔ h.Refers x y := by
  rw [← mem_referencesOf hg, ← mem_referencesOf hh]
  exact halike.references x y

/-- The same records are doomed. -/
theorem Alike.doomed (halike : Alike g h) (hg : g.Regular) (hh : h.Regular) {i j : Nat}
    {x : String} (hi : g.xrefs[i]? = some x) (hj : h.xrefs[j]? = some x) (hdoomed : g.Doomed i) :
    h.Doomed j := by
  induction hdoomed generalizing j x with
  | @empty i n hn hkept hempty =>
    obtain rfl := Option.some.inj (hn.symm.trans (hg.nodes_of_xrefs hi))
    have hstanding := halike.standing x
    refine .empty (hh.nodes_of_xrefs hj) ?_ ?_
    · rw [← isKept_of_standing hstanding, hkept]
    · exact (congrArg Prod.snd hstanding).symm.trans hempty
  | @unreferenced i n hn hkept _ ih =>
    obtain rfl := Option.some.inj (hn.symm.trans (hg.nodes_of_xrefs hi))
    refine .unreferenced (hh.nodes_of_xrefs hj) ?_ fun k hl => ?_
    · rw [← isKept_of_standing (halike.standing x), hkept]
    · -- who refers to the record in one graph refers to it in the other
      have hklt := (hh.inRange (k, j) hl).1
      rw [← length_xrefs] at hklt
      have hk := List.getElem?_eq_getElem hklt
      obtain ⟨m, i', hl', hm, hi'⟩ := (halike.refers hg hh _ x).mpr ⟨k, j, hl, hk, hj⟩
      obtain rfl := position_unique hg.nodup hi hi'
      exact ih m hl' hm hk

/-- **Pruning keeps graphs alike.** -/
theorem Alike.prunePass (halike : Alike g h) (hg : g.Regular) (hh : h.Regular) :
    Alike g.prunePass h.prunePass := by
  have hkeeps : ∀ {g h : Graph}, Alike g h → g.Regular → h.Regular → ∀ {x y : String},
      g.prunePass.Refers x y → h.prunePass.Refers x y := by
    rintro g h halike hg hh x y ⟨i, j, hl, hi, hj⟩
    obtain ⟨hl, hilive, hjlive⟩ := mem_links_prunePass.mp hl
    rw [xrefs_prunePass] at hi hj
    obtain ⟨k, m, hl', hk, hm⟩ := (halike.refers hg hh x y).mp ⟨i, j, hl, hi, hj⟩
    refine ⟨k, m, mem_links_prunePass.mpr ⟨hl', fun hdoomed => ?_, fun hdoomed => ?_⟩, ?_, ?_⟩
    · exact hilive (halike.symm.doomed hh hg hk hi hdoomed)
    · exact hjlive (halike.symm.doomed hh hg hm hj hdoomed)
    · rwa [xrefs_prunePass]
    · rwa [xrefs_prunePass]
  refine ⟨fun x => ?_, fun x y => ?_⟩
  · rw [known_prunePass, known_prunePass, halike.standing x]
  · rw [mem_referencesOf hg.prunePass, mem_referencesOf hh.prunePass]
    exact ⟨hkeeps halike hg hh, hkeeps halike.symm hh hg⟩

/-! ## Records in another order -/

/-- Whether the first of some texts that defines a key makes it a record of a kept type; none
of them may define it. -/
def firstKept (ts : List Text) (x : String) : Option Bool :=
  (summary (ts.filterMap Definition.ofText?) x).type.map keptTypes.contains

theorem standing_merge (n m : Node) :
    (n.merge m).standing = ((n.standing.1).or m.standing.1, n.standing.2 || m.standing.2) := by
  rw [Node.standing, Node.merge, Node.standing, Node.standing]
  cases n.type <;> rfl

theorem defines_eq (g : Graph) (x : String) : g.defines x = (g.known x).standing.1.isSome := by
  rw [defines, known, Node.standing]
  cases g.find? x with
  | none => rfl
  | some n => exact Option.isSome_map.symm

theorem RefersIn.perm {ds es : List Definition} (hperm : ds.Perm es) {x y : String} :
    RefersIn ds x y ↔ RefersIn es x y :=
  exists_congr fun _ => and_congr_left fun _ => hperm.mem_iff

/-- If no key is defined twice, it does not matter which definition comes first. -/
theorem firstKept_perm {ts us : List Text} (hperm : ts.Perm us)
    (hkeys : ((ts.filterMap Definition.ofText?).map (·.key)).Nodup) (x : String) :
    firstKept ts x = firstKept us x := by
  rw [firstKept, summary_perm (hperm.filterMap Definition.ofText?) hkeys]
  rfl

/-- **The order in which records are added does not matter**, if of every key that was not
defined before the first definition is of a kept type in both orders or in neither. -/
theorem Alike.foldl_addRecord (halike : Alike g h) (hg : g.Regular) (hh : h.Regular)
    {ts us : List Text} (hperm : ts.Perm us)
    (hfirst : ∀ x, g.defines x = false → firstKept ts x = firstKept us x) :
    Alike (ts.foldl addRecord g) (us.foldl addRecord h) := by
  have hdefinitions := hperm.filterMap Definition.ofText?
  obtain ⟨_, hgknown, hgrefers⟩ := hg.foldl_define (ts.filterMap Definition.ofText?)
  obtain ⟨_, hhknown, hhrefers⟩ := hh.foldl_define (us.filterMap Definition.ofText?)
  refine ⟨fun x => ?_, fun x y => ?_⟩
  · rw [foldl_addRecord_eq, foldl_addRecord_eq, hgknown, hhknown, standing_merge, standing_merge,
      ← halike.standing x]
    have hempty : (summary (ts.filterMap Definition.ofText?) x).empty =
        (summary (us.filterMap Definition.ofText?) x).empty := hdefinitions.any_eq
    -- a type that was known before counts more than the definitions
    have htype : (g.known x).standing.1.or (firstKept ts x) =
        (g.known x).standing.1.or (firstKept us x) := by
      cases hdefined : (g.known x).standing.1 with
      | some kept => rfl
      | none => rw [hfirst x (by rw [defines_eq, hdefined]; rfl)]
    exact Prod.ext htype (congrArg ((g.known x).standing.2 || ·) hempty)
  · rw [mem_referencesOf (hg.foldl_addRecord ts), mem_referencesOf (hh.foldl_addRecord us),
      foldl_addRecord_eq, foldl_addRecord_eq, hgrefers, hhrefers, halike.refers hg hh,
      RefersIn.perm hdefinitions]

open Classical in
/-- **Pruning cuts the links at doomed records and does nothing else.**  It succeeds, leaves
what is known of the records, and keeps the links between records that are not doomed;
whoever is to be cut off has no links any more, and pruning again does nothing.  The
references that are left do not depend on the order in which the records were added, if of
every key that was not defined before the first definition is of a kept type in both orders
or in neither. -/
theorem prune_reached (hg : Reached g) :
    (∃ passes, g.prune.1 = .ok passes) ∧ g.prune.2.nodes = g.nodes ∧
      g.prune.2.links = (g.links.filter fun l => ¬g.Doomed l.1 ∧ ¬g.Doomed l.2) ∧
      g.prune.2.Settled ∧ g.prune.2.prune = (.ok 1, g.prune.2) ∧
      ∀ (h : Graph) (ts us : List Text), Reached h → Alike g h → ts.Perm us →
        (∀ x, g.defines x = false → firstKept ts x = firstKept us x) →
        Alike (ts.foldl addRecord g).prune.2 (us.foldl addRecord h).prune.2 := by
  obtain ⟨passes, hok⟩ := g.prune_eq_ok
  have hsettled := settled_prunePass g
  rw [hok]
  refine ⟨⟨passes, rfl⟩, nodes_prunePass g, links_prunePass g, hsettled, ?_, ?_⟩
  · rw [prune, pruneWithin_eq, if_pos (length_links_prunePass_eq_iff.mpr hsettled),
      hsettled.prunePass]
  · intro h ts us hh halike hperm hfirst
    rw [prune, prune, snd_pruneWithin, snd_pruneWithin]
    exact (halike.foldl_addRecord hg.regular hh.regular hperm hfirst).prunePass
      (hg.regular.foldl_addRecord ts) (hh.regular.foldl_addRecord us)

/-- An individual who refers to a note, and a source that nobody refers to. -/
def voyage : List Text :=
  ["0 @I1@ INDI\n1 NOTE @N1@", "0 @S1@ SOUR\n1 NOTE @N1@", "0 @N1@ NOTE At sea"].map
    String.toList

/-- The source loses its link to the note, whether it comes before or after the other
records. -/
theorem prune_reached_voyage :
    Reached (ofTexts []) ∧ Alike (ofTexts []) (ofTexts []) ∧ voyage.Perm voyage.reverse ∧
      (∀ x, (ofTexts []).defines x = false → firstKept voyage x = firstKept voyage.reverse x) ∧
      Alike (voyage.foldl addRecord (ofTexts [])).prune.2
        (voyage.reverse.foldl addRecord (ofTexts [])).prune.2 ∧
      (voyage.foldl addRecord (ofTexts [])).prune = (.ok 2,
        { nodes := [{ xref := "I1", type := some "INDI" }, { xref := "N1", type := some "NOTE" },
            { xref := "S1", type := some "SOUR" }],
          links := [(0, 1)] }) := by
  have hkeys : ((voyage.filterMap Definition.ofText?).map (·.key)).Nodup := by decide +kernel
  have hperm : voyage.Perm voyage.reverse := (List.reverse_perm voyage).symm
  have hfirst : ∀ x, (ofTexts []).defines x = false →
      firstKept voyage x = firstKept voyage.reverse x := fun x _ => firstKept_perm hperm hkeys x
  have horder := (prune_reached (.build [])).2.2.2.2.2
  exact ⟨.build [], .refl _, hperm, hfirst,
    horder _ voyage voyage.reverse (.build []) (.refl _) hperm hfirst, by decide +kernel⟩

/-- An individual who refers to a note, and a submitter under the same key. -/
def namesakes : List Text :=
  ["0 @X1@ INDI\n1 NOTE @N1@", "0 @X1@ SUBM\n1 NAME Bea", "0 @N1@ NOTE At sea"].map String.toList

/-- The order matters in two cases.  If the individual comes first, its reference is kept; if
the submitter comes first, the record counts as a submitter to whom nobody refers.  And if a
graph is pruned after every record, then a note loses its reference to a source unless the
individual who refers to the note comes first. -/
theorem not_alike_of_perm :
    (¬∀ ts us : List Text, ts.Perm us →
      ∀ x y, y ∈ (ofTexts ts).prune.2.referencesOf x ↔ y ∈ (ofTexts us).prune.2.referencesOf x) ∧
    ¬∀ t u : Text, ∀ x y,
      y ∈ ((ofTexts [t]).prune.2.addRecord u).prune.2.referencesOf x ↔
        y ∈ ((ofTexts [u]).prune.2.addRecord t).prune.2.referencesOf x := by
  constructor
  · intro h
    have hperm : namesakes.Perm namesakes.reverse := (List.reverse_perm namesakes).symm
    have hfirst : (ofTexts namesakes).prune.2.referencesOf "X1" = ["N1"] := by decide +kernel
    have hlast : (ofTexts namesakes.reverse).prune.2.referencesOf "X1" = [] := by decide +kernel
    have hsame := h namesakes namesakes.reverse hperm "X1" "N1"
    rw [hfirst, hlast] at hsame
    exact absurd (hsame.mp List.mem_cons_self) List.not_mem_nil
  · intro h
    have hsame := h "0 @N1@ NOTE At sea\n1 SOUR @S1@".toList "0 @I1@ INDI\n1 NOTE @N1@".toList
      "N1" "S1"
    exact absurd hsame (by decide +kernel)

end Gedcom.Graph
