import Gedcom.Filter.Catalog
import Gedcom.Proofs.Compilation
import Gedcom.Proofs.Leftovers
import Gedcom.Proofs.PatternTails
import Mathlib.Tactic.FinCases

/-!
# Lines without the line above

A line that is dropped should take with it what stands below it.  An excluding pattern does
so if it ends in a wildcard, or if another one excludes what stands below; a pattern that
does neither is *bare*.

If no line that is kept stands below one that is dropped, then filtering records is filtering
what remains of them when all structures are cut out whose lines are dropped
(`run_of_keepsAbove`).  `Catalog.orphans_iff` says that in the catalog bare patterns are the
only reason why a line is kept below one that is dropped; three filters have such patterns.
-/
namespace Gedcom

/-! ## What is kept of a record -/

/-- If some line below `path` is kept, then so are all lines above it. -/
def KeepsAbove (ps : List Pattern) (path : List String) (es : List (List String × Text)) : Prop :=
  ∀ e ∈ es, ∀ p, path <+: p → p ≠ path → p <+: e.1 → firstMatch ps p = none →
    firstMatch ps e.1 = none

/-- Whether a line is dropped, by its path. -/
def drops (ps : List Pattern) (path : List String) (_ : Text) : Bool := (firstMatch ps path).isNone

/-- A record without the structures whose lines are dropped. -/
def Record.kept (ps : List Pattern) (r : Record) : Option Record :=
  if firstMatch ps [r.tag] = none then none
  else some { r with below := r.below.without (drops ps) [r.tag] }

namespace Outline
variable {ps : List Pattern} {path : List String} {o below after : Outline} {l : Text}

theorem prefix_of_mem_entries {e : List String × Text} (he : e ∈ o.entries path) :
    path <+: e.1 ∧ e.1 ≠ path := by
  induction o generalizing path with
  | empty => cases he
  | entry l below after ihbelow ihafter =>
    rcases List.mem_cons.mp he with rfl | he
    · exact ⟨List.prefix_append path _, by simp⟩
    · rcases List.mem_append.mp he with he | he
      · obtain ⟨hpath, _⟩ := ihbelow he
        refine ⟨(List.prefix_append path _).trans hpath, fun h => ?_⟩
        exact absurd (h ▸ hpath).length_le (by simp)
      · exact ihafter he

theorem keepsAbove_entry (h : KeepsAbove ps path ((entry l below after).entries path)) :
    KeepsAbove ps (path ++ [Line.tagOf l]) (below.entries (path ++ [Line.tagOf l])) ∧
      KeepsAbove ps path (after.entries path) ∧
        (firstMatch ps (path ++ [Line.tagOf l]) = none →
          ∀ e ∈ below.entries (path ++ [Line.tagOf l]), firstMatch ps e.1 = none) := by
  have hbelow : ∀ e ∈ below.entries (path ++ [Line.tagOf l]),
      e ∈ (entry l below after).entries path :=
    fun e he => List.mem_cons_of_mem _ (List.mem_append_left _ he)
  refine ⟨fun e he p hp hne => ?_, fun e he => ?_, fun hdropped e he => ?_⟩
  · refine h e (hbelow e he) p ((List.prefix_append path _).trans hp) fun h => ?_
    exact absurd (h ▸ hp).length_le (by simp)
  · exact h e (List.mem_cons_of_mem _ (List.mem_append_right _ he))
  · exact h e (hbelow e he) _ (List.prefix_append path _) (by simp)
      (prefix_of_mem_entries he).1 hdropped

/-- What is cut out with a line that is dropped is dropped as well. -/
theorem entries_without (h : KeepsAbove ps path (o.entries path)) :
    (o.without (drops ps) path).entries path =
      (o.entries path).filter fun e => !drops ps e.1 e.2 := by
  induction o generalizing path with
  | empty => rfl
  | entry l below after ihbelow ihafter =>
    obtain ⟨hbelow, hafter, hdropped⟩ := keepsAbove_entry h
    rw [without]
    cases hl : drops ps (path ++ [Line.tagOf l]) l with
    | true =>
      have hnone : (below.entries (path ++ [Line.tagOf l])).filter (fun e => !drops ps e.1 e.2) =
          [] := by
        refine List.filter_eq_nil_iff.mpr fun e he => ?_
        rw [drops, hdropped (Option.isNone_iff_eq_none.mp hl) e he]
        simp
      rw [if_pos rfl, ihafter hafter, entries, List.filter_cons_of_neg (by simp [hl]),
        List.filter_append, hnone, List.nil_append]
    | false =>
      rw [if_neg Bool.false_ne_true, entries, entries, ihbelow hbelow, ihafter hafter,
        List.filter_cons_of_pos (by simp [hl]), List.filter_append]

/-- The paths of lines that can be read have no wildcards. -/
theorem wildcard_notMem_of_mem_entries {level : Nat} (ho : o.isLegible level = true)
    (hpath : wildcard ∉ path) {e : List String × Text} (he : e ∈ o.entries path) :
    wildcard ∉ e.1 := by
  induction o generalizing level path with
  | empty => cases he
  | entry l below after ihbelow ihafter =>
    obtain ⟨hl, hbelow, hafter⟩ := isLegible_entry.mp ho
    have hpath' : wildcard ∉ path ++ [Line.tagOf l] := by
      rw [List.mem_append, List.mem_singleton, not_or]
      exact ⟨hpath, (Line.tagOf_ne_wildcard hl).symm⟩
    rcases List.mem_cons.mp he with rfl | he
    · exact hpath'
    · rcases List.mem_append.mp he with he | he
      · exact ihbelow hbelow hpath' he
      · exact ihafter hafter hpath he

end Outline

namespace Record
variable {ps : List Pattern} {r : Record}

/-- A record is an outline with one entry. -/
theorem entries_eq (r : Record) : (Outline.entry r.head r.below .empty).entries [] = r.entries := by
  rw [Outline.entries, Outline.entries, List.append_nil]
  rfl

theorem wildcard_notMem_of_mem_entries (hr : r.isLegible = true) {e : List String × Text}
    (he : e ∈ r.entries) : wildcard ∉ e.1 := by
  rw [← r.entries_eq] at he
  obtain ⟨hhead, hbelow⟩ := Bool.and_eq_true_iff.mp hr
  exact Outline.wildcard_notMem_of_mem_entries
    (Outline.isLegible_entry.mpr ⟨hhead, hbelow, rfl⟩) List.not_mem_nil he

/-- What is kept of a record are its lines that are kept. -/
theorem entries_kept (h : KeepsAbove ps [] r.entries) :
    ((r.kept ps).map entries).getD [] = r.entries.filter fun e => !drops ps e.1 e.2 := by
  rw [← r.entries_eq] at h ⊢
  rw [← Outline.entries_without h, Outline.without, kept]
  by_cases hhead : firstMatch ps [r.tag] = none
  · rw [if_pos hhead, drops, List.nil_append, ← tag, hhead]
    rfl
  · have hkeeps : drops ps ([] ++ [Line.tagOf r.head]) r.head = false :=
      Option.isNone_eq_false_iff.mpr (Option.isSome_iff_ne_none.mpr hhead)
    rw [if_neg hhead, hkeeps, if_neg Bool.false_ne_true, Option.map_some, Option.getD_some,
      ← entries_eq]
    rfl

end Record

namespace Application
variable {a : Application}

/-- An outline of which nothing is kept leaves nothing. -/
theorem outlineRemnant_of_dropped {path : List String} {parent : Option Nat} {o : Outline}
    (h : ∀ e ∈ o.entries path, firstMatch a.rules.patterns e.1 = none) :
    a.outlineRemnant path parent o = pure [] := by
  induction o generalizing path parent with
  | empty => rfl
  | entry l below after ihbelow ihafter =>
    have hl : firstMatch a.rules.patterns (path ++ [Line.tagOf l]) = none := h _ List.mem_cons_self
    have hrest : ∀ e ∈ below.entries (path ++ [Line.tagOf l]) ++ after.entries path,
        firstMatch a.rules.patterns e.1 = none := fun e he => h e (List.mem_cons_of_mem _ he)
    rw [outlineRemnant, entryRemnant, hl,
      ihbelow fun e he => hrest e (List.mem_append_left _ he),
      ihafter fun e he => hrest e (List.mem_append_right _ he)]
    rfl

theorem entryRemnant_of_dropped {path : List String} {parent : Option Nat} {l : Text}
    {below : Outline} (hl : firstMatch a.rules.patterns (path ++ [Line.tagOf l]) = none)
    (h : ∀ e ∈ below.entries (path ++ [Line.tagOf l]), firstMatch a.rules.patterns e.1 = none) :
    (a.entryRemnant path parent l fun path found => a.outlineRemnant path found below) =
      pure [] := by
  rw [entryRemnant, hl, outlineRemnant_of_dropped h]
  rfl

/-- **Filtering an outline** is filtering it without the structures whose lines are dropped,
if no line is kept below one of these. -/
theorem outlineRemnant_without {path : List String} {o : Outline}
    (h : KeepsAbove a.rules.patterns path (o.entries path)) (parent : Option Nat) :
    a.outlineRemnant path parent (o.without (drops a.rules.patterns) path) =
      a.outlineRemnant path parent o := by
  induction o generalizing path parent with
  | empty => rfl
  | entry l below after ihbelow ihafter =>
    obtain ⟨hbelow, hafter, hdropped⟩ := Outline.keepsAbove_entry h
    rw [Outline.without, drops]
    cases hl : firstMatch a.rules.patterns (path ++ [Line.tagOf l]) with
    | none =>
      rw [Option.isNone_none, if_pos rfl, ihafter hafter, outlineRemnant,
        entryRemnant_of_dropped hl (hdropped hl), pure_bind]
      exact (bind_pure _).symm
    | some i =>
      rw [Option.isNone_some, if_neg Bool.false_ne_true, outlineRemnant, outlineRemnant,
        ihafter hafter, entryRemnant, entryRemnant, hl, ihbelow hbelow]

theorem recordRemnant_eq (r : Record) :
    a.recordRemnant r = (do
      let found := firstMatch a.rules.patterns [r.tag]
      let inner ← a.outlineRemnant [r.tag] found r.below
      a.finish [r.tag] none found ((if found.isSome then r.head ++ ['\n'] else []) ++ inner)) :=
  rfl

/-- What is left of a record is what is left of the record without the structures whose lines
are dropped. -/
theorem recordRemnant_kept {r : Record} (h : KeepsAbove a.rules.patterns [] r.entries) :
    a.recordRemnant r =
      match r.kept a.rules.patterns with
      | some q => a.recordRemnant q
      | none => pure [] := by
  obtain ⟨hbelow, _, hdropped⟩ := Outline.keepsAbove_entry (r.entries_eq ▸ h)
  rw [Record.kept]
  by_cases hhead : firstMatch a.rules.patterns [r.tag] = none
  · rw [if_pos hhead]
    exact entryRemnant_of_dropped hhead (hdropped hhead)
  · rw [if_neg hhead]
    show a.recordRemnant r =
      a.recordRemnant { r with below := r.below.without (drops a.rules.patterns) [r.tag] }
    have hremnant := outlineRemnant_without hbelow
    rw [recordRemnant_eq, recordRemnant_eq]
    exact congrArg (· >>= _) (hremnant _).symm

/-! ## What is kept of records -/

/-- The texts of records of which something is left. -/
def somethingLeft (ts : List Text) : List Text := ts.filter fun t => !t.isEmpty

theorem somethingLeft_cons (t : Text) (ts : List Text) :
    somethingLeft (t :: ts) = somethingLeft [t] ++ somethingLeft ts :=
  List.filter_append [t] ts

theorem map_somethingLeft_cons (m : RunM Text) (ms : RunM (List Text)) :
    (somethingLeft <$> do
      let t ← m
      let ts ← ms
      return t :: ts) = (do
      let t ← m
      let ts ← somethingLeft <$> ms
      return somethingLeft [t] ++ ts) := by
  simp only [map_bind, map_pure, bind_map_left, ← somethingLeft_cons]

/-- What is left of records is what is left of what is kept of them. -/
theorem mapM_recordRemnant_kept {rs : List Record}
    (h : ∀ r ∈ rs, KeepsAbove a.rules.patterns [] r.entries) :
    somethingLeft <$> rs.mapM a.recordRemnant =
      somethingLeft <$> (rs.filterMap (Record.kept a.rules.patterns)).mapM a.recordRemnant := by
  induction rs with
  | nil => rfl
  | cons r rs ih =>
    have hr := recordRemnant_kept (h r List.mem_cons_self)
    have hrs := ih fun q hq => h q (List.mem_cons_of_mem _ hq)
    rw [List.mapM_cons, map_somethingLeft_cons, hrs]
    cases hkept : r.kept a.rules.patterns with
    | none =>
      rw [hkept] at hr
      rw [List.filterMap_cons_none hkept, hr, pure_bind]
      exact bind_pure _
    | some q =>
      rw [hkept] at hr
      rw [List.filterMap_cons_some hkept, List.mapM_cons, map_somethingLeft_cons, hr]

theorem follows_mapM_sift_records {bs : List Text} {rs : List Record}
    (hbs : List.Forall₂ (fun b (r : Record) => ∃ newlines, b = r.text newlines) bs rs)
    (hlegible : ∀ r ∈ rs, r.isLegible = true) :
    a.Follows (bs.mapM (a.sift 0 [] none)) (rs.mapM a.recordRemnant) := by
  induction hbs with
  | nil => exact Follows.pure []
  | @cons b r bs rs hb _ ih =>
    obtain ⟨newlines, rfl⟩ := hb
    rw [List.mapM_cons, List.mapM_cons]
    refine Follows.bind (follows_sift_record (hlegible r List.mem_cons_self) newlines) fun t => ?_
    exact Follows.bind (ih fun q hq => hlegible q (List.mem_cons_of_mem _ hq)) fun _ =>
      Follows.pure _

/-- A filter always gets a reference graph. -/
theorem exists_references (a : Application) (ts : List Text) : ∃ g, a.references ts = .ok g := by
  by_cases ha : a.filter.usesReferences = true
  · exact ⟨_, references_eq ha ts⟩
  · exact ⟨{}, if_neg ha⟩

/-- **Filtering records** is filtering what is kept of them, if no line is kept below one that
is dropped: apart from the memo the results are the same and lead to the same run. -/
theorem run_of_keepsAbove {ts : List Text} {rs : List Record} (hts : Delivers ts rs) {g : Graph}
    (hgraph : a.references ts = .ok g)
    (h : ∀ r ∈ rs, KeepsAbove a.rules.patterns [] r.entries) (s : Run) :
    (somethingLeft <$> (rs.filterMap (Record.kept a.rules.patterns)).mapM a.recordRemnant).run
        { s with graph := g, memo := {} } =
      ((((·.1) <$> a.run ts).run s).1, (((·.1) <$> a.run ts).run s).2.forget) := by
  obtain ⟨_, hrun⟩ := follows_mapM_sift_records (a := a) hts.blocks hts.legible
    { s with graph := g, memo := {} } (Memo.faithful_empty _)
  rw [← mapM_recordRemnant_kept h, map_eq_pure_bind, map_eq_pure_bind, RunM.run_bind,
    RunM.run_bind]
  cases hsift : ((ts.flatMap recordBlocks).mapM (a.sift 0 [] none)).run
      { s with graph := g, memo := {} } with
  | mk result s' =>
    rw [hsift] at hrun
    have hrun' : (rs.mapM a.recordRemnant).run { s with graph := g, memo := {} } =
        (result, s'.forget) := hrun
    rw [hrun']
    cases result with
    | error e =>
      rw [run_of_mapM_error hgraph hsift]
    | ok outputs =>
      obtain ⟨trace, hresult⟩ := run_of_mapM_ok hgraph hsift
      rw [hresult]
      rfl

end Application

/-! ## Bare patterns -/

/-- Whether an excluding pattern drops lines without what stands below them: it does not end
in a wildcard, and what stands below is not excluded by a pattern of its own. -/
def isBare (ps : List Pattern) (p : Pattern) : Bool :=
  p.excludes && p.tags.getLast? != some wildcard && !ps.contains ⟨p.text ++ ":*"⟩

/-- Whether a bare pattern decides on a path. -/
def exposes (ps : List Pattern) (path : List String) : Bool :=
  (decider (tailsOf ps) path).any (isBare ps)

/-- Whether patterns exclude nothing, and one of them matches everything. -/
def keepsAll (ps : List Pattern) : Bool :=
  ps.all (fun p => !p.excludes) && ps.any (·.tags == [wildcard])

/-- Whether a line is dropped while one below it is kept just if a bare pattern decides on the
one and not on the other. -/
def exposedOnly (ps : List Pattern) (above below : Option Pattern) : Bool :=
  (above.all Pattern.excludes && !below.all Pattern.excludes) ==
    (above.any (isBare ps) && !below.any (isBare ps))

section Exposed
variable {ps : List Pattern}

/-- Patterns that keep everything drop no line. -/
theorem of_keepsAll (h : keepsAll ps = true) {path : List String} (hpath : path ≠ []) :
    firstMatch ps path ≠ none ∧ exposes ps path = false := by
  obtain ⟨hkeeps, hlone⟩ := Bool.and_eq_true_iff.mp h
  obtain ⟨lone, hmem, hlone⟩ := List.any_eq_true.mp hlone
  have hadmits : lone.admits path = true := by
    rw [Pattern.admits, beq_iff_eq.mp hlone, matchTags_wildcard hpath]
  obtain ⟨p, hp⟩ : ∃ p, decider (tailsOf ps) path = some p := by
    rw [decider_tailsOf, ← Option.isSome_iff_exists, List.find?_isSome]
    exact ⟨lone, hmem, hadmits⟩
  have hexcludes : p.excludes = false := by
    rw [decider_tailsOf] at hp
    simpa using List.all_eq_true.mp hkeeps p (List.mem_of_find?_eq_some hp)
  rw [ne_eq, firstMatch_eq_none_iff, exposes, hp, Option.all_some, Option.any_some, isBare,
    hexcludes]
  exact ⟨Bool.false_ne_true, rfl⟩

/-- **Which lines are kept below a line that is dropped**, for patterns that pass the check. -/
theorem orphaned_iff {steps : Nat}
    (h : keepsAll ps = true ∨ allPairs (exposedOnly ps) steps (tailsOf ps) = true)
    {above below : List String} (habove : above ≠ []) (hpath : above <+: below)
    (hwildcard : wildcard ∉ below) :
    firstMatch ps above = none ∧ firstMatch ps below ≠ none ↔
      exposes ps above = true ∧ exposes ps below = false := by
  rcases h with hkeeps | hpairs
  · obtain ⟨hmatch, hexposes⟩ := of_keepsAll hkeeps habove
    rw [hexposes]
    exact iff_of_false (fun h => hmatch h.1) fun h => Bool.false_ne_true h.1
  · obtain ⟨rest, rfl⟩ := hpath
    by_cases hrest : rest = []
    · rw [hrest, List.append_nil]
      refine iff_of_false (fun h => h.2 h.1) fun h => ?_
      rw [h.1] at h
      cases h.2
    · have hpair := of_allPairs hpairs habove hrest hwildcard
      rw [exposedOnly, beq_iff_eq, Bool.eq_iff_iff, Bool.and_eq_true, Bool.and_eq_true,
        Bool.not_eq_true', Bool.not_eq_true', ← Bool.not_eq_true, ← firstMatch_eq_none_iff,
        ← firstMatch_eq_none_iff] at hpair
      exact hpair

end Exposed

namespace Catalog

theorem rules_eq {f : Filter} (hf : f ∈ filters) (ps : Params) : f.rules ps = f.rules {} := by
  fin_cases hf <;> rfl

/-- The filters of the catalog that have bare patterns. -/
def exposing : List String := ["RemoveRestrictions", "RemoveWebtreesUser", "BirthMarriageDeath"]

/-- The patterns of the catalog pass the check, and most are not bare. -/
theorem checked : ∀ f ∈ filters,
    (keepsAll ((f.rules {}).patterns.map Pattern.mk) = true ∨
      allPairs (exposedOnly ((f.rules {}).patterns.map Pattern.mk)) 5
        (tailsOf ((f.rules {}).patterns.map Pattern.mk)) = true) ∧
    (f.name ∉ exposing →
      ∀ p ∈ (f.rules {}).patterns, isBare ((f.rules {}).patterns.map Pattern.mk) ⟨p⟩ = false) := by
  decide +kernel

/-- **Lines without the line above.**  For the filters of the catalog, a line is kept below one
that is dropped if and only if a bare pattern decides on the one that is dropped and not on
the other; all but three filters have no bare patterns.  Records in which no line is exposed
in this way are filtered as what is kept of them, namely all lines that are kept. -/
theorem orphans_iff {f : Filter} (hf : f ∈ filters) {ps : Params} {rules : ReadyRules}
    (hcompile : f.compile ps = .ok rules) :
    (∀ above below : List String, above ≠ [] → above <+: below → wildcard ∉ below →
      (firstMatch rules.patterns above = none ∧ firstMatch rules.patterns below ≠ none ↔
        exposes rules.patterns above = true ∧ exposes rules.patterns below = false)) ∧
    (f.name ∉ exposing → ∀ path, exposes rules.patterns path = false) ∧
    ∀ {ts : List Text} {rs : List Record}, Delivers ts rs →
      (∀ r ∈ rs, ∀ e ∈ r.entries, ∀ p, p <+: e.1 →
        exposes rules.patterns p = true → exposes rules.patterns e.1 = true) →
      (∀ r ∈ rs, ((r.kept rules.patterns).map Record.entries).getD [] =
        r.entries.filter fun e => (firstMatch rules.patterns e.1).isSome) ∧
      ∀ s : Run, ∃ g,
        (Application.somethingLeft <$> (rs.filterMap (Record.kept rules.patterns)).mapM
            (Application.mk f rules ps).recordRemnant).run { s with graph := g, memo := {} } =
          ((((·.1) <$> f.run ps ts).run s).1, (((·.1) <$> f.run ps ts).run s).2.forget) := by
  have hpatterns : rules.patterns = (f.rules {}).patterns.map Pattern.mk := by
    rw [← rules_eq hf ps]
    exact RuleSet.patterns_of_compile hcompile
  have horphaned : ∀ above below : List String, above ≠ [] → above <+: below →
      wildcard ∉ below →
      (firstMatch rules.patterns above = none ∧ firstMatch rules.patterns below ≠ none ↔
        exposes rules.patterns above = true ∧ exposes rules.patterns below = false) := by
    rw [hpatterns]
    exact fun above below => orphaned_iff (checked f hf).1
  refine ⟨horphaned, fun hname path => ?_, fun {ts rs} hts hexposed => ?_⟩
  · rw [exposes, hpatterns, decider_tailsOf]
    cases hfind : ((f.rules {}).patterns.map Pattern.mk).find? fun p => p.admits path with
    | none => rfl
    | some p =>
      obtain ⟨t, ht, rfl⟩ := List.mem_map.mp (List.mem_of_find?_eq_some hfind)
      exact (checked f hf).2 hname t ht
  · have hkeeps : ∀ r ∈ rs, KeepsAbove rules.patterns [] r.entries := by
      intro r hr e he p _ hne hp hdropped
      by_contra hkept
      -- the line above would be exposed, and then the line below as well
      obtain ⟨habove, hbelow⟩ := (horphaned p e.1 hne hp
        (r.wildcard_notMem_of_mem_entries (hts.legible r hr) he)).mp ⟨hdropped, hkept⟩
      rw [hexposed r hr e he p hp habove] at hbelow
      cases hbelow
    refine ⟨fun r hr => ?_, fun s => ?_⟩
    · rw [r.entries_kept (hkeeps r hr)]
      simp only [drops, Option.not_isNone]
    · obtain ⟨g, hgraph⟩ := Application.exists_references ⟨f, rules, ps⟩ ts
      have hrun : (f.run ps ts) = (Application.mk f rules ps).run ts := by
        rw [Filter.run, hcompile]
        rfl
      rw [hrun]
      exact ⟨g, Application.run_of_keepsAbove hts hgraph hkeeps s⟩

/-- An individual with a date of change, which has a time. -/
def changed : Record where
  head := "0 @I1@ INDI".toList
  below := .entry "1 CHAN".toList
    (.entry "2 DATE 1 JAN 1900".toList (.entry "3 TIME 12:00".toList .empty .empty) .empty)
    (.entry "1 NAME Ada".toList .empty .empty)

/-- The date and time of a change are dropped with the change. -/
theorem orphans_iff_changed :
    ∃ rules, removeChangeData ∈ filters ∧ removeChangeData.compile {} = .ok rules ∧
      removeChangeData.name ∉ exposing ∧ Delivers [changed.written] [changed] ∧
      (∀ r ∈ [changed], ((r.kept rules.patterns).map Record.entries).getD [] =
        r.entries.filter fun e => (firstMatch rules.patterns e.1).isSome) ∧
      changed.kept rules.patterns =
        some { changed with below := .entry "1 NAME Ada".toList .empty .empty } := by
  have hmem : removeChangeData ∈ filters := by simp [filters]
  have hcompile : removeChangeData.compile {} =
      .ok ⟨[⟨⟨"!*:CHAN"⟩, []⟩, ⟨⟨"!*:CHAN:*"⟩, []⟩, ⟨⟨"*"⟩, []⟩]⟩ := by rfl
  have hname : removeChangeData.name ∉ exposing := by decide
  have hdelivers : Delivers [changed.written] [changed] :=
    delivers_written (List.forall_mem_singleton.mpr (by decide))
  obtain ⟨_, hnone, hkept⟩ := orphans_iff hmem hcompile
  have hexposed := fun path => Bool.eq_false_iff.mp (hnone hname path)
  exact ⟨_, hmem, hcompile, hname, hdelivers,
    (hkept hdelivers fun _ _ _ _ p _ hp => absurd hp (hexposed p)).1, by decide +kernel⟩

/-- A note on a restriction notice is left where the notice was. -/
theorem not_keepsAbove_restriction :
    ∃ rules, removeRestrictions.compile {} = .ok rules ∧
      firstMatch rules.patterns ["INDI", "RESN"] = none ∧
      firstMatch rules.patterns ["INDI", "RESN", "NOTE"] ≠ none ∧
      ((removeRestrictions.run {} ["0 @I1@ INDI\n1 RESN privacy\n2 NOTE why\n".toList]).run
        {}).1.toOption.map (·.1) = some ["0 @I1@ INDI\n2 NOTE why\n".toList] := by
  have hcompile : removeRestrictions.compile {} =
      .ok ⟨[⟨⟨"!*:RESN"⟩, []⟩, ⟨⟨"!*:*:RESN"⟩, []⟩, ⟨⟨"!*:*:*:RESN"⟩, []⟩, ⟨⟨"*"⟩, []⟩]⟩ := by rfl
  exact ⟨_, hcompile, by decide +kernel, by decide +kernel, by decide +kernel⟩

end Catalog
end Gedcom
