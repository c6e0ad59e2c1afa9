import Gedcom.Inclusion
import Gedcom.Proofs.Compilation
import Mathlib.Data.List.Chain
import Mathlib.Logic.Relation

/-!
# What a request for filters is answered with

The inclusions of the filters of a registry are an arbitrary graph, which may lead back to
where it came from.  `resolve_registered` says what becomes of a request for some names,
in terms of this graph.

* It is granted exactly if every name that is met is known and no chain of inclusions has
  more than `maxDepth` filters (`Resolvable`).  The answer then lists what is included, each
  filter between what it includes before and after itself (`Flattens`).
* Otherwise the first fault is told.  `visits` lists the names that are met from the top
  down, each with the filters that are open there, and goes on below faults: it is the order
  of the names that makes a fault the first one, not where the search stops.
-/
namespace Gedcom

namespace Registry
variable {r : Registry} {f g : Filter}

/-! ## The graph of inclusions -/

/-- The names that a filter includes, in the order in which they are met. -/
def inclusions (f : Filter) : List String := f.before ++ f.after

/-- A filter includes another one, which the registry has under an included name. -/
def Includes (r : Registry) (f g : Filter) : Prop :=
  ∃ name ∈ inclusions f, r.find? name = some g

/-- Every chain of inclusions that begins with a filter has at most `n` filters. -/
def Shallow (r : Registry) (n : Nat) (f : Filter) : Prop :=
  ∀ gs, List.IsChain r.Includes (f :: gs) → (f :: gs).length ≤ n

/-- A filter leads back to itself by inclusions. -/
def Circular (r : Registry) (f : Filter) : Prop := Relation.TransGen r.Includes f f

mutual

/-- The filters to apply for a filter: what it includes before itself, the filter, and what
it includes after itself. -/
inductive FlattensTo (r : Registry) : Filter → List Filter → Prop
  | intro {f : Filter} {before after : List Filter} (hbefore : Flattens r f.before before)
      (hafter : Flattens r f.after after) : FlattensTo r f (before ++ f :: after)

/-- The filters to apply for some names, one after the other. -/
inductive Flattens (r : Registry) : List String → List Filter → Prop
  | nil : Flattens r [] []
  | cons {name : String} {names : List String} {f : Filter} {fs rest : List Filter}
      (hfind : r.find? name = some f) (hf : FlattensTo r f fs) (hrest : Flattens r names rest) :
      Flattens r (name :: names) (fs ++ rest)

end

/-- What a request needs to be granted. -/
structure Resolvable (r : Registry) (names : List String) : Prop where
  /-- All names are known. -/
  known : ∀ name ∈ names, (r.find? name).isSome
  /-- All names that are met by inclusion are known. -/
  included : ∀ name ∈ names, ∀ f, r.find? name = some f →
    ∀ g, Relation.ReflTransGen r.Includes f g → ∀ m ∈ inclusions g, (r.find? m).isSome
  /-- No chain of inclusions is too long. -/
  shallow : ∀ name ∈ names, ∀ f, r.find? name = some f → r.Shallow maxDepth f

/-! ## Chains -/

theorem not_shallow_zero : ¬r.Shallow 0 f := by
  intro h
  have hlength := h [] (List.isChain_singleton f)
  simp at hlength

theorem shallow_succ {n : Nat} : r.Shallow (n + 1) f ↔ ∀ g, r.Includes f g → r.Shallow n g := by
  constructor
  · intro h g hg gs hgs
    have hlength := h (g :: gs) (List.isChain_cons_cons.mpr ⟨hg, hgs⟩)
    simp only [List.length_cons] at hlength ⊢
    omega
  · intro h gs hgs
    cases gs with
    | nil => simp
    | cons g gs =>
      obtain ⟨hg, hgs⟩ := List.isChain_cons_cons.mp hgs
      have hlength := h g hg gs hgs
      simp only [List.length_cons] at hlength ⊢
      omega

theorem Shallow.of_meets {n : Nat} (h : r.Shallow n f) (hg : Relation.ReflTransGen r.Includes f g) :
    ∃ m, r.Shallow m g := by
  induction hg with
  | refl => exact ⟨n, h⟩
  | tail _ hstep ih =>
    obtain ⟨m, hm⟩ := ih
    cases m with
    | zero => exact absurd hm not_shallow_zero
    | succ m => exact ⟨m, shallow_succ.mp hm _ hstep⟩

/-- What a filter that leads back to itself includes on this way leads back to itself. -/
theorem Circular.exists_includes (h : r.Circular f) : ∃ g, r.Includes f g ∧ r.Circular g := by
  obtain ⟨g, hfg, hgf⟩ := Relation.TransGen.head'_iff.mp h
  exact ⟨g, hfg, Relation.TransGen.tail' hgf hfg⟩

/-- A circle has chains of any length. -/
theorem Circular.not_shallow (h : r.Circular f) (n : Nat) : ¬r.Shallow n f := by
  induction n generalizing f with
  | zero => exact not_shallow_zero
  | succ n ih =>
    obtain ⟨g, hfg, hg⟩ := h.exists_includes
    intro hshallow
    exact ih hg (shallow_succ.mp hshallow g hfg)

/-! ## Requests that are granted -/

theorem find_eq_ok {name : String} : r.find name = .ok f ↔ r.find? name = some f := by
  unfold find
  cases r.find? name <;> simp

theorem flattensTo_iff {fs : List Filter} :
    r.FlattensTo f fs ↔
      ∃ before after, r.Flattens f.before before ∧ r.Flattens f.after after ∧
        before ++ f :: after = fs := by
  constructor
  · intro h
    cases h with
    | intro hbefore hafter => exact ⟨_, _, hbefore, hafter, rfl⟩
  · rintro ⟨before, after, hbefore, hafter, rfl⟩
    exact .intro hbefore hafter

/-- The answer to one name. -/
def unfoldName (r : Registry) (room : Nat) (opened : List String) (name : String) :
    Except Fault (List Filter) := do
  r.unfoldWithin room opened (← r.find name)

theorem unfoldWithin_succ (room : Nat) (opened : List String) (f : Filter) :
    r.unfoldWithin (room + 1) opened f = (do
      let before ← f.before.mapM (r.unfoldName room (f.name :: opened))
      let after ← f.after.mapM (r.unfoldName room (f.name :: opened))
      return before.flatten ++ f :: after.flatten) := rfl

theorem unfoldName_eq_ok {room : Nat} {opened : List String} {name : String} {gs : List Filter} :
    r.unfoldName room opened name = .ok gs ↔
      ∃ g, r.find? name = some g ∧ r.unfoldWithin room opened g = .ok gs := by
  rw [unfoldName, bind_eq_ok]
  simp only [find_eq_ok]

/-- Names are unfolded if each of them is. -/
theorem mapM_unfoldName_eq_ok {room : Nat} {opened : List String}
    (ih : ∀ g gs, r.unfoldWithin room opened g = .ok gs ↔ r.FlattensTo g gs ∧ r.Shallow room g)
    {names : List String} {fs : List Filter} :
    (∃ gss, names.mapM (r.unfoldName room opened) = .ok gss ∧ gss.flatten = fs) ↔
      r.Flattens names fs ∧
        ∀ name ∈ names, ∀ g, r.find? name = some g → r.Shallow room g := by
  induction names generalizing fs with
  | nil =>
    constructor
    · rintro ⟨gss, hgss, rfl⟩
      obtain rfl : [] = gss := Except.ok.inj hgss
      exact ⟨.nil, fun _ hname => absurd hname List.not_mem_nil⟩
    · rintro ⟨hflat, _⟩
      cases hflat
      exact ⟨[], rfl, rfl⟩
  | cons name names ihnames =>
    simp only [mapM_eq_ok] at ihnames ⊢
    constructor
    · rintro ⟨gss, hgss, rfl⟩
      cases hgss with
      | cons hname hnames =>
        obtain ⟨g, hfind, hg⟩ := unfoldName_eq_ok.mp hname
        obtain ⟨hflat, hshallow⟩ := (ih _ _).mp hg
        obtain ⟨hrest, hrestshallow⟩ := ihnames.mp ⟨_, hnames, rfl⟩
        rw [List.flatten_cons]
        refine ⟨.cons hfind hflat hrest, List.forall_mem_cons.mpr ⟨?_, hrestshallow⟩⟩
        intro g' hg'
        obtain rfl := Option.some.inj (hfind.symm.trans hg')
        exact hshallow
    · rintro ⟨hflat, hshallow⟩
      obtain ⟨hhere, hthere⟩ := List.forall_mem_cons.mp hshallow
      cases hflat with
      | cons hfind hf hrest =>
        obtain ⟨gss, hgss, rfl⟩ := ihnames.mpr ⟨hrest, hthere⟩
        have hname := unfoldName_eq_ok.mpr ⟨_, hfind, (ih _ _).mpr ⟨hf, hhere _ hfind⟩⟩
        exact ⟨_ :: gss, .cons hname hgss, List.flatten_cons⟩

/-- **When a filter can be unfolded**: exactly if no chain of inclusions is longer than there
is room for, and then into what it is flattened to. -/
theorem unfoldWithin_eq_ok {room : Nat} {opened : List String} {f : Filter} {fs : List Filter} :
    r.unfoldWithin room opened f = .ok fs ↔ r.FlattensTo f fs ∧ r.Shallow room f := by
  induction room generalizing opened f fs with
  | zero =>
    refine iff_of_false ?_ fun h => not_shallow_zero h.2
    unfold unfoldWithin
    split <;> simp
  | succ room ih =>
    have hnames : ∀ {names : List String} {gs : List Filter},
        (∃ gss, names.mapM (r.unfoldName room (f.name :: opened)) = .ok gss ∧ gss.flatten = gs) ↔
          r.Flattens names gs ∧
            ∀ name ∈ names, ∀ g, r.find? name = some g → r.Shallow room g :=
      mapM_unfoldName_eq_ok fun _ _ => ih
    have hshallow : r.Shallow (room + 1) f ↔
        (∀ name ∈ f.before, ∀ g, r.find? name = some g → r.Shallow room g) ∧
          ∀ name ∈ f.after, ∀ g, r.find? name = some g → r.Shallow room g := by
      rw [shallow_succ, ← List.forall_mem_append]
      exact ⟨fun h name hname g hg => h g ⟨name, hname, hg⟩,
        fun h g ⟨name, hname, hg⟩ => h name hname g hg⟩
    rw [unfoldWithin_succ, bind_eq_ok, flattensTo_iff, hshallow]
    constructor
    · rintro ⟨bss, hbss, h⟩
      obtain ⟨ass, hass, h⟩ := bind_eq_ok.mp h
      obtain ⟨hbefore, hbs⟩ := hnames.mp ⟨bss, hbss, rfl⟩
      obtain ⟨hafter, has⟩ := hnames.mp ⟨ass, hass, rfl⟩
      exact ⟨⟨_, _, hbefore, hafter, Except.ok.inj h⟩, hbs, has⟩
    · rintro ⟨⟨before, after, hbefore, hafter, rfl⟩, hbs, has⟩
      obtain ⟨bss, hbss, rfl⟩ := hnames.mpr ⟨hbefore, hbs⟩
      obtain ⟨ass, hass, rfl⟩ := hnames.mpr ⟨hafter, has⟩
      exact ⟨bss, hbss, bind_eq_ok.mpr ⟨ass, hass, rfl⟩⟩

/-! ## Which requests are granted -/

/-- What is flattened is known. -/
theorem Flattens.exists_flattensTo {names : List String} {fs : List Filter}
    (h : r.Flattens names fs) {name : String} (hname : name ∈ names) :
    ∃ g gs, r.find? name = some g ∧ r.FlattensTo g gs := by
  induction names generalizing fs with
  | nil => cases hname
  | cons first names ih =>
    cases h with
    | cons hfind hf hrest =>
      rcases List.mem_cons.mp hname with rfl | hname
      · exact ⟨_, _, hfind, hf⟩
      · exact ih hrest hname

/-- All that a filter includes is flattened with it. -/
theorem FlattensTo.exists_of_mem {fs : List Filter} (h : r.FlattensTo f fs) {name : String}
    (hname : name ∈ inclusions f) : ∃ g gs, r.find? name = some g ∧ r.FlattensTo g gs := by
  cases h with
  | intro hbefore hafter =>
    rcases List.mem_append.mp hname with hname | hname
    · exact hbefore.exists_flattensTo hname
    · exact hafter.exists_flattensTo hname

/-- All that is met from a filter is flattened with it. -/
theorem FlattensTo.of_meets {fs : List Filter} (h : r.FlattensTo f fs)
    (hg : Relation.ReflTransGen r.Includes f g) : ∃ gs, r.FlattensTo g gs := by
  induction hg with
  | refl => exact ⟨fs, h⟩
  | tail _ hstep ih =>
    obtain ⟨gs, hgs⟩ := ih
    obtain ⟨name, hname, hfind⟩ := hstep
    obtain ⟨k, ks, hk, hks⟩ := hgs.exists_of_mem hname
    obtain rfl := Option.some.inj (hk.symm.trans hfind)
    exact ⟨ks, hks⟩

/-- Names whose filters can be flattened can be flattened. -/
theorem exists_flattens {names : List String}
    (h : ∀ name ∈ names, ∃ g gs, r.find? name = some g ∧ r.FlattensTo g gs) :
    ∃ fs, r.Flattens names fs := by
  induction names with
  | nil => exact ⟨[], .nil⟩
  | cons name names ih =>
    obtain ⟨hhere, hthere⟩ := List.forall_mem_cons.mp h
    obtain ⟨g, gs, hfind, hg⟩ := hhere
    obtain ⟨fs, hfs⟩ := ih hthere
    exact ⟨gs ++ fs, .cons hfind hg hfs⟩

/-- A filter can be flattened if its chains are bounded and everything that is met is known. -/
theorem exists_flattensTo {n : Nat} (hshallow : r.Shallow n f)
    (hknown : ∀ g, Relation.ReflTransGen r.Includes f g → ∀ m ∈ inclusions g, (r.find? m).isSome) :
    ∃ fs, r.FlattensTo f fs := by
  induction n generalizing f with
  | zero => exact absurd hshallow not_shallow_zero
  | succ n ih =>
    have hinclusions : ∀ name ∈ inclusions f,
        ∃ g gs, r.find? name = some g ∧ r.FlattensTo g gs := by
      intro name hname
      obtain ⟨g, hg⟩ := Option.isSome_iff_exists.mp (hknown f .refl name hname)
      have hstep : r.Includes f g := ⟨name, hname, hg⟩
      obtain ⟨gs, hgs⟩ := ih (shallow_succ.mp hshallow g hstep)
        fun k hk => hknown k (.head hstep hk)
      exact ⟨g, gs, hg, hgs⟩
    obtain ⟨hbefore, hafter⟩ := List.forall_mem_append.mp hinclusions
    obtain ⟨before, hbefore⟩ := exists_flattens hbefore
    obtain ⟨after, hafter⟩ := exists_flattens hafter
    exact ⟨_, .intro hbefore hafter⟩

/-- The names of a request are looked up before any is unfolded, which makes no difference to
what is granted. -/
theorem resolve_eq_ok {names : List String} {fs : List Filter} :
    r.resolve names = .ok fs ↔
      r.Flattens names fs ∧
        ∀ name ∈ names, ∀ f, r.find? name = some f → r.Shallow maxDepth f := by
  have hunfold : ∀ g gs, r.unfoldWithin maxDepth [] g = .ok gs ↔
      r.FlattensTo g gs ∧ r.Shallow maxDepth g := fun _ _ => unfoldWithin_eq_ok
  rw [← mapM_unfoldName_eq_ok hunfold, resolve, bind_eq_ok]
  simp only [unfoldAll, map_eq_ok, mapM_eq_ok]
  constructor
  · rintro ⟨found, hfound, gss, hgss, rfl⟩
    refine ⟨gss, ?_, rfl⟩
    induction hfound generalizing gss with
    | nil =>
      cases hgss
      exact .nil
    | cons hf _ ih =>
      cases hgss with
      | cons hg hrest => exact .cons (unfoldName_eq_ok.mpr ⟨_, find_eq_ok.mp hf, hg⟩) (ih _ hrest)
  · rintro ⟨gss, hgss, rfl⟩
    suffices key : ∃ found, List.Forall₂ (fun name f => r.find name = .ok f) names found ∧
        List.Forall₂ (fun f gs => r.unfold f = .ok gs) found gss by
      obtain ⟨found, hfound, hunfold⟩ := key
      exact ⟨found, hfound, gss, hunfold, rfl⟩
    induction hgss with
    | nil => exact ⟨[], .nil, .nil⟩
    | cons hname _ ih =>
      obtain ⟨f, hfind, hf⟩ := unfoldName_eq_ok.mp hname
      obtain ⟨found, hfound, hunfold⟩ := ih
      exact ⟨f :: found, .cons (find_eq_ok.mpr hfind) hfound, .cons hf hunfold⟩

/-- **Which requests are granted.** -/
theorem exists_resolve_eq_ok_iff {names : List String} :
    (∃ fs, r.resolve names = .ok fs) ↔ r.Resolvable names := by
  constructor
  · rintro ⟨fs, h⟩
    obtain ⟨hflat, hshallow⟩ := resolve_eq_ok.mp h
    refine ⟨fun name hname => ?_, fun name hname f hf g hg m hm => ?_, hshallow⟩
    · obtain ⟨g, _, hfind, _⟩ := hflat.exists_flattensTo hname
      exact Option.isSome_of_eq_some hfind
    · obtain ⟨f', fs', hfind, hf'⟩ := hflat.exists_flattensTo hname
      obtain rfl := Option.some.inj (hfind.symm.trans hf)
      obtain ⟨gs, hgs⟩ := hf'.of_meets hg
      obtain ⟨k, _, hk, _⟩ := hgs.exists_of_mem hm
      exact Option.isSome_of_eq_some hk
  · intro h
    have hnames : ∀ name ∈ names, ∃ g gs, r.find? name = some g ∧ r.FlattensTo g gs := by
      intro name hname
      obtain ⟨f, hf⟩ := Option.isSome_iff_exists.mp (h.known name hname)
      obtain ⟨fs, hfs⟩ := exists_flattensTo (h.shallow name hname f hf) (h.included name hname f hf)
      exact ⟨f, fs, hf, hfs⟩
    obtain ⟨fs, hfs⟩ := exists_flattens hnames
    exact ⟨fs, resolve_eq_ok.mpr ⟨hfs, h.shallow⟩⟩

/-! ## The first fault -/

/-- A name that is met, with the names of the filters that are open there, innermost
first. -/
structure Visit where
  opened : List String
  name : String
deriving DecidableEq, Repr

/-- The names that are met from a name on, from the top down, in filters that are nested at
most `room` deep. -/
def visits (r : Registry) : (room : Nat) → (opened : List String) → (name : String) → List Visit
  | 0, opened, name => [⟨opened, name⟩]
  | room + 1, opened, name =>
    ⟨opened, name⟩ :: match r.find? name with
      | some f => (inclusions f).flatMap (visits r room (name :: opened))
      | none => []

/-- What is wrong with a name that is met: it is unknown, or its filter is nested too deeply,
and then either is open already or not. -/
def Visit.fault? (r : Registry) (v : Visit) : Option Fault :=
  if (r.find? v.name).isNone then some (.unknownFilter v.name)
  else if v.opened.length < maxDepth then none
  else if v.name ∈ v.opened then some (.includeCycle v.name maxDepth)
  else some (.includeDepth v.name maxDepth)

/-- The first fault of a request: an unknown name of the request, or else what is wrong with
the first name that is met. -/
def firstFault? (r : Registry) (names : List String) : Option Fault :=
  ((names.find? fun name => (r.find? name).isNone).map .unknownFilter).or
    ((names.flatMap (r.visits maxDepth [])).findSome? (Visit.fault? r))

/-- Every filter stands under its own name. -/
def Named (r : Registry) : Prop := ∀ name f, r.find? name = some f → f.name = name

theorem named_registerAll (fs : List Filter) : (registerAll {} fs).Named := by
  suffices key : ∀ r : Registry, r.Named → (registerAll r fs).Named by
    exact key {} fun name f h => nomatch h
  induction fs with
  | nil => exact fun r hr => hr
  | cons g fs ih =>
    intro r hr
    refine ih (r.register g) fun name f hf => ?_
    rw [find?_register] at hf
    split at hf
    · rename_i hname
      rw [hname, Option.some.inj hf]
    · exact hr name f hf

theorem error?_find (name : String) :
    error? (r.find name) = if (r.find? name).isNone then some (.unknownFilter name) else none := by
  unfold find
  cases r.find? name <;> rfl

/-- The filters of known names are unfolded as the names are. -/
theorem findSome?_unfold {names : List String} {found : List Filter}
    (h : List.Forall₂ (fun name f => r.find name = .ok f) names found) :
    (found.findSome? fun f => error? (r.unfold f)) =
      names.findSome? fun name => error? (r.unfoldName maxDepth [] name) := by
  induction h with
  | nil => rfl
  | cons hf _ ih =>
    rw [List.findSome?_cons, List.findSome?_cons, unfoldName, hf, ih]
    rfl

/-- The names of a request fail to be found as the first unknown one does. -/
theorem error?_mapM_find (names : List String) :
    error? (names.mapM r.find) =
      (names.find? fun name => (r.find? name).isNone).map .unknownFilter := by
  rw [error?_mapM, List.find?_eq_findSome?_guard, List.map_findSome?]
  refine congrArg (fun test => names.findSome? test) (funext fun name => ?_)
  simp only [error?_find, Function.comp_apply, Option.guard]
  split <;> rfl

section Named
variable (hr : r.Named)
include hr

/-- **What goes wrong below a name** is what is wrong with the first name that is met there. -/
theorem error?_unfoldName {room : Nat} {opened : List String}
    (hroom : opened.length + room = maxDepth) (name : String) :
    error? (r.unfoldName room opened name) =
      (r.visits room opened name).findSome? (Visit.fault? r) := by
  -- The room that is left is the fuel of the recursion, and runs out where the depth is checked.
  induction room generalizing opened name with
  | zero =>
    have hfull : ¬opened.length < maxDepth := by omega
    rw [visits, List.findSome?_singleton, Visit.fault?, unfoldName, find]
    cases hfind : r.find? name with
    | none => rfl
    | some f =>
      show error? (r.unfoldWithin 0 opened f) = _
      rw [Option.isNone_some, if_neg Bool.false_ne_true, if_neg hfull, unfoldWithin,
        hr name f hfind]
      by_cases hopen : name ∈ opened
      · rw [if_pos (List.contains_iff_mem.mpr hopen), if_pos hopen]
        rfl
      · rw [if_neg (fun h => hopen (List.contains_iff_mem.mp h)), if_neg hopen]
        rfl
  | succ room ih =>
    have hfree : opened.length < maxDepth := by omega
    rw [visits, List.findSome?_cons, Visit.fault?, unfoldName, find]
    cases hfind : r.find? name with
    | none => rfl
    | some f =>
      have hbelow : ∀ names : List String,
          error? (names.mapM (r.unfoldName room (name :: opened))) =
            (names.flatMap (r.visits room (name :: opened))).findSome? (Visit.fault? r) := by
        intro names
        rw [error?_mapM, findSome?_flatMap]
        refine congrArg (fun test => names.findSome? test) (funext fun m => ih ?_ m)
        rw [List.length_cons]
        omega
      rw [Option.isNone_some, if_neg Bool.false_ne_true, if_pos hfree]
      show error? (r.unfoldWithin (room + 1) opened f) =
        ((f.before ++ f.after).flatMap (r.visits room (name :: opened))).findSome? (Visit.fault? r)
      rw [unfoldWithin_succ, hr name f hfind, error?_seq, hbelow, hbelow, List.flatMap_append,
        List.findSome?_append]

/-- **The first fault of a request** is what it fails with. -/
theorem error?_resolve (names : List String) :
    error? (r.resolve names) = r.firstFault? names := by
  have hunfold : ∀ name, error? (r.unfoldName maxDepth [] name) =
      (r.visits maxDepth [] name).findSome? (Visit.fault? r) :=
    error?_unfoldName hr (Nat.zero_add maxDepth)
  rw [firstFault?, ← error?_mapM_find, findSome?_flatMap, ← funext hunfold, resolve]
  cases hfound : names.mapM r.find with
  | error e => rfl
  | ok found =>
    rw [← findSome?_unfold (mapM_eq_ok.mp hfound), ← error?_mapM]
    show error? (r.unfoldAll found) = error? (found.mapM r.unfold)
    rw [unfoldAll]
    cases found.mapM r.unfold <;> rfl

end Named

/-! ## Circles -/

/-- A request that meets a circle is not granted. -/
theorem not_resolvable_of_circular {names : List String} {name : String} (hname : name ∈ names)
    (hfind : r.find? name = some f) (hg : Relation.ReflTransGen r.Includes f g)
    (hcircular : r.Circular g) : ¬r.Resolvable names := by
  intro h
  obtain ⟨m, hm⟩ := (h.shallow name hname f hfind).of_meets hg
  exact hcircular.not_shallow m hm

/-- Every filter that is open at a visit leads to the name that is visited. -/
def Visit.Led (r : Registry) (v : Visit) : Prop :=
  ∀ m ∈ v.opened, ∃ f g, r.find? m = some f ∧ Relation.ReflTransGen r.Includes f g ∧
    v.name ∈ inclusions g

/-- What is open at a name is open at what its filter includes, together with the name. -/
theorem Visit.Led.step {opened : List String} {name m : String}
    (h : Visit.Led r ⟨opened, name⟩) (hfind : r.find? name = some f) (hm : m ∈ inclusions f) :
    Visit.Led r ⟨name :: opened, m⟩ := by
  intro k hk
  rcases List.mem_cons.mp hk with rfl | hk
  · exact ⟨f, f, hfind, .refl, hm⟩
  · obtain ⟨first, last, hfirst, hmeets, hname⟩ := h k hk
    exact ⟨first, f, hfirst, hmeets.tail ⟨name, hname, hfind⟩, hm⟩

theorem Visit.Led.of_mem_visits {room : Nat} {opened : List String} {name : String}
    (h : Visit.Led r ⟨opened, name⟩) {v : Visit} (hv : v ∈ r.visits room opened name) :
    v.Led r := by
  induction room generalizing opened name with
  | zero =>
    obtain rfl := List.mem_singleton.mp hv
    exact h
  | succ room ih =>
    rw [visits] at hv
    rcases List.mem_cons.mp hv with rfl | hv
    · exact h
    · cases hfind : r.find? name with
      | none =>
        rw [hfind] at hv
        cases hv
      | some f =>
        rw [hfind] at hv
        obtain ⟨m, hm, hv⟩ := List.mem_flatMap.mp hv
        exact ih (h.step hfind hm) hv

/-- Only a name whose filter is open already is told to be on a circle. -/
theorem Visit.name_mem_opened {v : Visit} {name : String} {depth : Nat}
    (h : v.fault? r = some (.includeCycle name depth)) : v.name = name ∧ name ∈ v.opened := by
  unfold Visit.fault? at h
  split at h
  · cases h
  split at h
  · cases h
  split at h
  · rename_i hopened
    cases h
    exact ⟨rfl, hopened⟩
  · cases h

/-- **What is told to be on a circle** is on one. -/
theorem circular_of_firstFault? {names : List String} {name : String} {depth : Nat}
    (h : r.firstFault? names = some (.includeCycle name depth)) :
    ∃ f, r.find? name = some f ∧ r.Circular f := by
  rw [firstFault?, Option.or_eq_some_iff] at h
  rcases h with h | ⟨_, h⟩
  · obtain ⟨_, _, hne⟩ := Option.map_eq_some_iff.mp h
    cases hne
  · obtain ⟨v, hv, hfault⟩ := List.exists_of_findSome?_eq_some h
    obtain ⟨top, _, hv⟩ := List.mem_flatMap.mp hv
    have hled : v.Led r :=
      Visit.Led.of_mem_visits (fun m hm => absurd hm List.not_mem_nil) hv
    obtain ⟨rfl, hopened⟩ := Visit.name_mem_opened hfault
    obtain ⟨f, g, hfind, hmeets, hname⟩ := hled v.name hopened
    exact ⟨f, hfind, Relation.TransGen.tail' hmeets ⟨v.name, hname, hfind⟩⟩

/-! ## Requests of a registry -/

end Registry
end Gedcom
