import Gedcom.Proofs.Chains
import Gedcom.Proofs.Independence
import Gedcom.Proofs.Outermost
import Mathlib.Data.List.Infix

/-!
# The tags that a chain leaves

The trace of a chain lists the paths of tags that its last filter kept.  These are paths of what
the filter was given, looked up line by line; what it has left may have other paths.  A line that
is kept below one that is dropped is listed with the tag of the line that is gone, and the
operations of rules, which are carried out later, put in, change and remove whole structures.

`tellsTags_iff` says that nothing else parts the list from the paths in what is left, and that
nothing less does: the list is right exactly if both do no harm.  The reason is that with a path
all paths above it occur in a text.  `forall_tellsTags_iff` names the rules without operations
behind which the list is always right.
-/
namespace Gedcom

/-! ## Paths of tags in texts -/

/-- A path of tags occurs in some texts: it is the path of a line that can be read, as can all
lines above it. -/
def HasTagPath (ts : List Text) (path : List String) : Prop :=
  ∃ r ∈ ts.flatMap records, Line.isLegible 0 r.head = true ∧ path ∈ r.paths ∧
    ∀ tag ∈ path, Line.isTag tag = true

theorem HasTagPath.isTag {ts : List Text} {path : List String} (h : HasTagPath ts path) :
    ∀ tag ∈ path, Line.isTag tag = true := by
  obtain ⟨_, _, _, _, htags⟩ := h
  exact htags

/-- With a path, all paths above it occur. -/
theorem HasTagPath.above {ts : List Text} {path p : List String} (h : HasTagPath ts path)
    (hp : p <+: path) (hne : p ≠ []) : HasTagPath ts p := by
  obtain ⟨r, hr, hhead, hpath, htags⟩ := h
  refine ⟨r, hr, hhead, ?_, fun tag htag => htags tag (hp.mem htag)⟩
  exact Outline.mem_paths_above hpath hp (List.length_pos_iff.mpr hne)

theorem Record.mem_paths_iff {r : Record} {path : List String} :
    path ∈ r.paths ↔ ∃ e ∈ r.entries, e.1 = path := by
  rw [paths, Outline.mem_paths_iff, r.entries_eq]

/-- A record that is written is read again. -/
theorem records_written {q : Record} (hq : q.isLegible = true) : records q.written = [q] := by
  obtain ⟨_, hlegible, htail⟩ :=
    Application.leftover_of_sublist hq (List.cons_ne_nil _ _) (List.Sublist.refl q.lines)
  have hrecords := records_unlines hlegible htail
  rwa [Record.ofLines_lines hq] at hrecords

/-- The paths in records that are written are those of the records. -/
theorem hasTagPath_written_iff {qs : List Record} (hqs : ∀ q ∈ qs, q.isLegible = true)
    {path : List String} :
    HasTagPath (qs.map Record.written) path ↔ path ∈ qs.flatMap Record.paths := by
  have hrecords : (qs.map Record.written).flatMap records = qs := by
    rw [List.flatMap_map, List.flatMap_congr fun q hq => records_written (hqs q hq)]
    exact List.flatMap_singleton' qs
  rw [HasTagPath, hrecords, List.mem_flatMap]
  refine exists_congr fun q => and_congr_right fun hq => ?_
  have hlegible := hqs q hq
  constructor
  · exact fun h => h.2.1
  · exact fun hpath => ⟨(Bool.and_eq_true_iff.mp hlegible).1, hpath,
      Record.isTag_of_mem_paths hlegible hpath⟩

/-- Paths of tags are told apart by their names. -/
theorem intercalate_inj {p q : List String} (hp : ∀ tag ∈ p, Line.isTag tag = true)
    (hq : ∀ tag ∈ q, Line.isTag tag = true) (h : ":".intercalate p = ":".intercalate q) :
    p = q := by
  rw [← tagsOf_intercalate hp, h, tagsOf_intercalate hq]

/-! ## Paths that are kept -/

/-- A path of some records that leads to a rule that keeps. -/
def KeepsPath (ps : List Pattern) (rs : List Record) (path : List String) : Prop :=
  path ∈ rs.flatMap Record.paths ∧ firstMatch ps path ≠ none

instance (ps : List Pattern) (path : List String) (es : List (List String × Text)) :
    Decidable (KeepsAbove ps path es) :=
  decidable_of_iff
    (∀ e ∈ es, ∀ p ∈ e.1.inits, path <+: p → p ≠ path → firstMatch ps p = none →
      firstMatch ps e.1 = none)
    (forall₂_congr fun e _ => forall_congr' fun p => by
      rw [List.mem_inits]
      tauto)

section KeepsPath
variable {ps : List Pattern} {rs : List Record}

/-- If no line of a record is kept below one that is dropped, the paths that are kept are those of
what is kept of it. -/
theorem Record.mem_paths_kept_iff {r : Record} (h : KeepsAbove ps [] r.entries)
    {path : List String} :
    path ∈ ((r.kept ps).map paths).getD [] ↔ path ∈ r.paths ∧ firstMatch ps path ≠ none := by
  have hpaths : path ∈ ((r.kept ps).map paths).getD [] ↔
      ∃ e ∈ ((r.kept ps).map entries).getD [], e.1 = path := by
    cases r.kept ps with
    | none => exact iff_of_false List.not_mem_nil (by simp)
    | some q => exact mem_paths_iff
  rw [hpaths, entries_kept h, mem_paths_iff]
  simp only [drops, Option.not_isNone, List.mem_filter, Option.isSome_iff_ne_none]
  constructor
  · rintro ⟨e, ⟨he, hkept⟩, rfl⟩
    exact ⟨⟨e, he, rfl⟩, hkept⟩
  · rintro ⟨⟨e, he, rfl⟩, hkept⟩
    exact ⟨e, ⟨he, hkept⟩, rfl⟩

theorem keepsPath_iff (h : ∀ r ∈ rs, KeepsAbove ps [] r.entries) {path : List String} :
    KeepsPath ps rs path ↔ path ∈ (rs.filterMap (Record.kept ps)).flatMap Record.paths := by
  simp only [KeepsPath, List.mem_flatMap, List.mem_filterMap]
  constructor
  · rintro ⟨⟨r, hr, hpath⟩, hkept⟩
    have hmem := (Record.mem_paths_kept_iff (h r hr)).mpr ⟨hpath, hkept⟩
    cases hq : r.kept ps with
    | none =>
      rw [hq] at hmem
      cases hmem
    | some q =>
      rw [hq] at hmem
      exact ⟨q, ⟨r, hr, hq⟩, hmem⟩
  · rintro ⟨q, ⟨r, hr, hq⟩, hpath⟩
    have hmem : path ∈ ((r.kept ps).map Record.paths).getD [] := by rwa [hq]
    obtain ⟨hpath, hkept⟩ := (Record.mem_paths_kept_iff (h r hr)).mp hmem
    exact ⟨⟨r, hr, hpath⟩, hkept⟩

/-- **Why no line may be kept below one that is dropped**: if the paths that are kept are those of
some texts, the paths above them are among them. -/
theorem keepsAbove_of_keepsPath_iff {ts : List Text}
    (h : ∀ path, KeepsPath ps rs path ↔ HasTagPath ts path) :
    ∀ r ∈ rs, KeepsAbove ps [] r.entries := by
  intro r hr e he p _ hne hp hdropped
  by_contra hkept
  have hpath : e.1 ∈ rs.flatMap Record.paths :=
    List.mem_flatMap.mpr ⟨r, hr, Record.mem_paths_iff.mpr ⟨e, he, rfl⟩⟩
  have habove : HasTagPath ts p := ((h e.1).mp ⟨hpath, hkept⟩).above hp hne
  exact ((h p).mpr habove).2 hdropped

end KeepsPath

/-- The names that a trace lists as kept have a pattern. -/
theorem FilterTrace.mem_kept_iff {trace : FilterTrace} (h : trace.matched.Sorted) {name : String} :
    name ∈ trace.kept ↔ ∃ pattern, trace.matched.find? name = some (some pattern) := by
  rw [kept, List.mem_map]
  constructor
  · rintro ⟨⟨_, found⟩, hentry, rfl⟩
    obtain ⟨hentry, hfound⟩ := List.mem_filter.mp hentry
    obtain ⟨pattern, rfl⟩ := Option.isSome_iff_exists.mp hfound
    exact ⟨pattern, (Table.mem_entries_iff h _).mp hentry⟩
  · rintro ⟨pattern, hfind⟩
    refine ⟨(name, some pattern), List.mem_filter.mpr ⟨?_, rfl⟩, rfl⟩
    exact (Table.mem_entries_iff h _).mpr hfind

namespace Application
variable {a : Application}

/-- What the lines that are kept of some records write, before any operation. -/
def sieved (a : Application) (rs : List Record) : List Text := (a.leftovers rs).map Text.unlines

theorem hasTagPath_sieved_iff {rs : List Record} (hrs : ∀ r ∈ rs, r.isLegible = true)
    (h : ∀ r ∈ rs, KeepsAbove a.rules.patterns [] r.entries) {path : List String} :
    HasTagPath (a.sieved rs) path ↔ KeepsPath a.rules.patterns rs path := by
  rw [sieved, ← map_written_kept h, keepsPath_iff h]
  refine hasTagPath_written_iff fun q hq => ?_
  obtain ⟨r, hr, hq⟩ := List.mem_filterMap.mp hq
  exact Record.isLegible_of_kept (hrs r hr) hq

/-- **When the paths that are kept are those of some texts**: exactly if no line is kept below one
that is dropped, and the texts have the paths that the kept lines have. -/
theorem forall_hasTagPath_iff {rs : List Record} (hrs : ∀ r ∈ rs, r.isLegible = true)
    (ts : List Text) :
    (∀ path, KeepsPath a.rules.patterns rs path ↔ HasTagPath ts path) ↔
      (∀ r ∈ rs, KeepsAbove a.rules.patterns [] r.entries) ∧
        ∀ path, HasTagPath ts path ↔ HasTagPath (a.sieved rs) path := by
  constructor
  · intro h
    have habove := keepsAbove_of_keepsPath_iff h
    refine ⟨habove, fun path => ?_⟩
    rw [← h, hasTagPath_sieved_iff hrs habove]
  · rintro ⟨habove, hpaths⟩ path
    rw [hpaths, hasTagPath_sieved_iff hrs habove]

/-- A path has no pattern only if it leads to no rule. -/
theorem verdict_eq_none_iff {path : List String} :
    a.verdict path = none ↔ firstMatch a.rules.patterns path = none := by
  cases hfirst : firstMatch a.rules.patterns path with
  | none => simp [verdict, hfirst]
  | some i =>
    obtain ⟨p, hp, _⟩ := getElem?_of_firstMatch hfirst
    rw [ReadyRules.patterns, List.getElem?_map] at hp
    obtain ⟨rule, hrule, _⟩ := Option.map_eq_some_iff.mp hp
    simp [verdict, hfirst, patternAt, hrule]

section Run
variable {ts outputs : List Text} {trace : FilterTrace} {s s' : Run}
  (h : (a.run ts).run s = (.ok (outputs, trace), s'))
include h

/-- **The names that a trace lists as kept** are those of the paths that are kept. -/
theorem mem_kept_of_run (name : String) :
    name ∈ trace.kept ↔ ∃ path, KeepsPath a.rules.patterns (ts.flatMap records) path ∧
      ":".intercalate path = name := by
  obtain ⟨_, hsorted, hnames⟩ := trace_of_run h
  rw [FilterTrace.mem_kept_iff hsorted]
  constructor
  · rintro ⟨pattern, hfind⟩
    obtain ⟨path, hpath, rfl⟩ := (hnames name).mp ((Table.mem_names_iff _ _).mpr ⟨_, hfind⟩)
    rw [find?_intercalate_of_run h hpath, Option.some.injEq] at hfind
    refine ⟨path, ⟨hpath, fun hnone => ?_⟩, rfl⟩
    rw [verdict_eq_none_iff.mpr hnone] at hfind
    cases hfind
  · rintro ⟨path, ⟨hpath, hkept⟩, rfl⟩
    obtain ⟨pattern, hpattern⟩ := Option.ne_none_iff_exists'.mp (mt verdict_eq_none_iff.mp hkept)
    exact ⟨pattern, by rw [find?_intercalate_of_run h hpath, hpattern]⟩

/-- Names and paths say the same of what is kept. -/
theorem forall_mem_kept_iff :
    (∀ name, name ∈ trace.kept ↔ ∃ path, HasTagPath outputs path ∧ ":".intercalate path = name) ↔
      ∀ path, KeepsPath a.rules.patterns (ts.flatMap records) path ↔ HasTagPath outputs path := by
  constructor
  · intro hall path
    have hname := hall (":".intercalate path)
    rw [mem_kept_of_run h] at hname
    constructor
    · intro hkeeps
      obtain ⟨q, hq, heq⟩ := hname.mp ⟨path, hkeeps, rfl⟩
      rwa [intercalate_inj (isTag_of_run h hkeeps.1) hq.isTag heq.symm]
    · intro hhas
      obtain ⟨q, hq, heq⟩ := hname.mpr ⟨path, hhas, rfl⟩
      rwa [← intercalate_inj (isTag_of_run h hq.1) hhas.isTag heq]
  · intro hall name
    rw [mem_kept_of_run h]
    exact exists_congr fun path => and_congr_left fun _ => hall path

/-- Without operations, what is left is what the lines that are kept write. -/
theorem outputs_of_idle (ha : a.Idle) : outputs = a.sieved (ts.flatMap records) := by
  obtain ⟨_, _, _, hremnants, rfl⟩ := exists_remnants_of_run h
  rw [mapM_recordRemnant_of_idle ha, RunM.run_pure] at hremnants
  rw [← Except.ok.inj (Prod.mk.inj hremnants).1, sieved, leftovers, ← somethingLeft_map_unlines,
    List.map_map]
  rfl

end Run
end Application

/-! ## Traces of chains -/

/-- The tags that a trace lists for the host are those that occur in some texts. -/
def ChainTrace.TellsTags (trace : ChainTrace) (ts : List Text) : Prop :=
  ∀ name, name ∈ trace.outputTags ↔ ∃ path, HasTagPath ts path ∧ ":".intercalate path = name

namespace Chain
variable {ps : Params} {fs : List (Option Filter)} {ts outputs : List Text} {trace : ChainTrace}
  {s s' : Run}

/-- **The last filter of a chain that succeeds** is applied to what the others left, and leaves
what the chain leaves; the tags that the host is told are those that it kept. -/
theorem exists_last_of_runTraced (hfs : present fs ≠ [])
    (h : (runTraced ps fs ts).run s = (.ok (outputs, trace), s')) :
    ∃ before f rules input traces last s₁, present fs = before ++ [f] ∧
      (applyEach ps before ts).run s = (.ok (input, traces), s₁) ∧ f.compile ps = .ok rules ∧
      ((Application.mk f rules ps).run input).run s₁ = (.ok (outputs, last), s') ∧
      trace.outputTags = last.kept := by
  obtain ⟨before, f, hpresent⟩ : ∃ before f, present fs = before ++ [f] :=
    ⟨_, _, (List.dropLast_append_getLast hfs).symm⟩
  rw [runTraced] at h
  obtain ⟨as, s₀, hready, h⟩ := RunM.exists_of_run_bind h
  rw [RunM.run_ofExcept] at hready
  obtain ⟨hcompile, rfl⟩ := Prod.mk.inj hready
  have has : List.Forall₂ (Prepared ps) (present fs) as := mapM_eq_ok.mp hcompile
  rw [runAll_eq has, hpresent, map_eq_pure_bind, List.foldlM_append] at h
  obtain ⟨left, s₂, hfold, h⟩ := RunM.exists_of_run_bind h
  obtain ⟨⟨input, traces⟩, s₁, hbefore, hlast⟩ := RunM.exists_of_run_bind hfold
  rw [List.foldlM_cons] at hlast
  obtain ⟨next, s₃, hnext, hlast⟩ := RunM.exists_of_run_bind hlast
  obtain ⟨⟨us, last⟩, s₄, hrun, hnext⟩ := RunM.exists_of_run_bind hnext
  cases hlast
  cases hnext
  cases h
  cases hf : f.compile ps with
  | error e =>
    rw [Filter.run, hf] at hrun
    cases hrun
  | ok rules =>
    rw [Filter.run_of_compile hf] at hrun
    refine ⟨before, f, rules, input, traces, last, s₁, hpresent, hbefore, hf, hrun, ?_⟩
    simp [ChainTrace.outputTags]

/-- When the list of the last filter is right. -/
theorem tellsTags_iff_of_run {a : Application} {input : List Text} {last : FilterTrace} {s₁ : Run}
    (hrun : (a.run input).run s₁ = (.ok (outputs, last), s'))
    (htags : trace.outputTags = last.kept) :
    trace.TellsTags outputs ↔
      (∀ r ∈ input.flatMap records, KeepsAbove a.rules.patterns [] r.entries) ∧
        ∀ path, HasTagPath outputs path ↔ HasTagPath (a.sieved (input.flatMap records)) path := by
  rw [ChainTrace.TellsTags, htags, Application.forall_mem_kept_iff hrun,
    Application.forall_hasTagPath_iff (Application.isLegible_of_run hrun)]

/-- **Which tags a trace lists.**  If a chain with filters succeeds, the tags that the host is told
are those of the paths that the last filter kept among the paths of what the other filters left
for it.  They are the tags that occur in what the chain leaves if and only if the last filter
keeps no line below one that it drops, and its operations leave the set of paths as it is in the
lines that are kept.  Without operations, these lines are what is left. -/
theorem tellsTags_iff (hfs : present fs ≠ [])
    (h : (runTraced ps fs ts).run s = (.ok (outputs, trace), s')) :
    ∃ before f rules input traces s₁, present fs = before ++ [f] ∧
      (applyEach ps before ts).run s = (.ok (input, traces), s₁) ∧ f.compile ps = .ok rules ∧
      (∀ name, name ∈ trace.outputTags ↔
        ∃ path, KeepsPath rules.patterns (input.flatMap records) path ∧
          ":".intercalate path = name) ∧
      (trace.TellsTags outputs ↔
        (∀ r ∈ input.flatMap records, KeepsAbove rules.patterns [] r.entries) ∧
          ∀ path, HasTagPath outputs path ↔
            HasTagPath ((Application.mk f rules ps).sieved (input.flatMap records)) path) ∧
      ((∀ r ∈ rules.rules, r.ops = []) →
        outputs = (Application.mk f rules ps).sieved (input.flatMap records)) := by
  obtain ⟨before, f, rules, input, traces, last, s₁, hpresent, hbefore, hf, hrun, htags⟩ :=
    exists_last_of_runTraced hfs h
  refine ⟨before, f, rules, input, traces, s₁, hpresent, hbefore, hf, ?_,
    tellsTags_iff_of_run hrun htags, Application.outputs_of_idle hrun⟩
  rw [htags]
  exact Application.mem_kept_of_run hrun

/-- Behind two filters, of which the second one drops a date of change with its structure, the
list is right. -/
theorem tellsTags_iff_changed :
    let fs := [some Catalog.allRecords, none, some Catalog.removeChangeData]
    let ts := ["0 @I1@ INDI\n1 CHAN\n2 DATE 1 JAN 1900\n1 NAME Ada\n".toList]
    ∃ trace s', (runTraced {} fs ts).run {} =
        (.ok (["0 @I1@ INDI\n1 NAME Ada\n".toList], trace), s') ∧
      trace.outputTags = ["INDI", "INDI:NAME"] ∧
      trace.TellsTags ["0 @I1@ INDI\n1 NAME Ada\n".toList] := by
  intro fs ts
  let trace : ChainTrace :=
    { filters :=
        [{ filter := "AllRecords", inputs := 1, outputs := 1
           matched := ⟨[("INDI", some "*"), ("INDI:CHAN", some "*"), ("INDI:CHAN:DATE", some "*"),
             ("INDI:NAME", some "*")]⟩ },
          { filter := "RemoveChangeData", inputs := 1, outputs := 1
            matched := ⟨[("INDI", some "*"), ("INDI:CHAN", none), ("INDI:CHAN:DATE", none),
              ("INDI:NAME", some "*")]⟩ }]
      usesSchema := true }
  have hresult : ((runTraced {} fs ts).run {}).1 =
      .ok (["0 @I1@ INDI\n1 NAME Ada\n".toList], trace) :=
    eq_ok_of_toOption (by decide +kernel)
  have hrun : (runTraced {} fs ts).run {} =
      (.ok (["0 @I1@ INDI\n1 NAME Ada\n".toList], trace), ((runTraced {} fs ts).run {}).2) :=
    Prod.ext hresult rfl
  obtain ⟨before, f, rules, input, traces, s₁, hpresent, hbefore, hf, _, hiff, hidle⟩ :=
    tellsTags_iff (by decide) hrun
  -- the last filter is given what the first one left, which is everything
  have hboth : present fs = [Catalog.allRecords] ++ [Catalog.removeChangeData] := rfl
  obtain ⟨rfl, hlast⟩ := List.append_inj' (hboth.symm.trans hpresent) rfl
  obtain rfl := List.singleton_inj.mp hlast
  have hinput : ((applyEach {} [Catalog.allRecords] ts).run {}).1.toOption.map (·.1) = some ts := by
    decide +kernel
  rw [hbefore] at hinput
  obtain rfl : input = ts := Option.some.inj hinput
  have hcompile : Catalog.removeChangeData.compile {} =
      .ok ⟨[⟨⟨"!*:CHAN"⟩, []⟩, ⟨⟨"!*:CHAN:*"⟩, []⟩, ⟨⟨"*"⟩, []⟩]⟩ := by rfl
  obtain rfl := Except.ok.inj (hcompile.symm.trans hf)
  refine ⟨trace, _, hrun, by decide +kernel, hiff.mpr ⟨by decide +kernel, fun path => ?_⟩⟩
  rw [← hidle (by decide)]

/-- A pointer to a family that no record has is dropped by the conversion of a rule, when it has
been listed as kept already. -/
theorem not_tellsTags_pointer :
    let ts := ["0 @I1@ INDI\n1 FAMC @F9@\n".toList]
    let outputs := ["0 @I1@ INDI\n".toList]
    isStepwise 0 ["0 @I1@ INDI".toList, "1 FAMC @F9@".toList] = true ∧
      ∃ trace s', (runTraced {} [some VoidPointers.filter] ts).run {} =
          (.ok (outputs, trace), s') ∧
        trace.outputTags = ["INDI", "INDI:FAMC"] ∧ ¬trace.TellsTags outputs := by
  intro ts outputs
  let trace : ChainTrace :=
    { filters := [{ filter := "RemoveVoidReferences", inputs := 1, outputs := 1
                    matched := ⟨[("INDI", some "*"), ("INDI:FAMC", some "INDI:*")]⟩ }]
      usesSchema := true }
  have hresult : ((runTraced {} [some VoidPointers.filter] ts).run {}).1 = .ok (outputs, trace) :=
    eq_ok_of_toOption (by decide +kernel)
  refine ⟨by decide, trace, _, Prod.ext hresult rfl, by decide, fun htells => ?_⟩
  obtain ⟨path, ⟨r, hr, _, hpath, _⟩, hname⟩ := (htells "INDI:FAMC").mp (by decide)
  have hpaths : ∀ r ∈ outputs.flatMap records, ∀ path ∈ r.paths, ":".intercalate path = "INDI" := by
    decide +kernel
  rw [hpaths r hr path hpath] at hname
  exact absurd hname (by decide)

/-! ## Rules behind which the list is right -/

theorem exists_runTraced_singleton {f : Filter} {rules : ReadyRules} (hf : f.compile ps = .ok rules)
    {last : FilterTrace}
    (h : ((Application.mk f rules ps).run ts).run s = (.ok (outputs, last), s')) :
    ∃ trace, (runTraced ps [some f] ts).run s = (.ok (outputs, trace), s') ∧
      trace.outputTags = last.kept := by
  have hcompile : compile ps [some f] = .ok [⟨f, rules, ps⟩] := by
    show (fun rules => (⟨f, rules, ps⟩ : Application)) <$> f.compile ps >>= _ = _
    rw [hf]
    rfl
  rw [runTraced, hcompile, RunM.ofExcept_ok, pure_bind, runAll, RunM.run_bind_of_ok h]
  exact ⟨_, rfl, rfl⟩

/-- **Without operations, the list is right on all data** behind every chain that ends in a filter
if and only if the filter keeps nothing directly below what it drops. -/
theorem forall_tellsTags_iff {f : Filter} {rules : ReadyRules} (hf : f.compile ps = .ok rules)
    (hidle : ∀ r ∈ rules.rules, r.ops = []) :
    (∀ fs ts outputs trace s s',
      (runTraced ps (fs ++ [some f]) ts).run s = (.ok (outputs, trace), s') →
        trace.TellsTags outputs) ↔ Downward rules.patterns := by
  constructor
  · intro h
    refine forall_settles_iff.mp fun r hr => ?_
    obtain ⟨last, s', hrun⟩ := Application.exists_run_of_idle (a := ⟨f, rules, ps⟩) hidle
      (delivers_written (List.forall_mem_singleton.mpr hr)) {}
    obtain ⟨trace, htraced, htags⟩ := exists_runTraced_singleton hf hrun
    obtain ⟨habove, _⟩ := (tellsTags_iff_of_run hrun htags).mp (h [] _ _ _ _ _ htraced)
    refine Record.settles_of_keepsAbove hr (habove r ?_)
    rw [List.map_singleton, List.flatMap_singleton, records_written hr]
    exact List.mem_singleton_self r
  · intro hdown fs ts outputs trace s s' h
    have hpresent : present (fs ++ [some f]) = present fs ++ [f] := List.filterMap_append
    obtain ⟨_, f', rules', input, _, last, s₁, hpresent', _, hf', hrun, htags⟩ :=
      exists_last_of_runTraced (by simp [hpresent]) h
    rw [hpresent] at hpresent'
    obtain ⟨_, hlast⟩ := List.append_inj' hpresent' rfl
    obtain rfl := List.singleton_inj.mp hlast
    obtain rfl := Except.ok.inj (hf.symm.trans hf')
    refine (tellsTags_iff_of_run hrun htags).mpr ⟨fun r hr => ?_, fun path => ?_⟩
    · exact hdown.keepsAbove (Application.isLegible_of_run hrun r hr)
    · rw [Application.outputs_of_idle hrun hidle]

end Chain
end Gedcom
