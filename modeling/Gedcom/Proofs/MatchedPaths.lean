import Gedcom.Proofs.Acceptance
import Gedcom.Proofs.Refiltering

/-!
# What a trace tells

The trace of a filter is read off the memo of its run.  So it can only be right about the paths
of the records, and about the patterns that decide on them, if the memo is: `Exact` says that
every answer it holds is the one that the rules give, and `remembers_mapM_siftRecord` that this
stays so whatever is done on the way.  A trace writes paths as names; since a filter only
succeeds if it can read all lines (`requires_mapM_siftRecord`), their tags have no colons, and
different paths have different names (`tagsOf_intercalate`).

`trace_exact` puts this together, and adds that the memo has no other part in a run: what a
filter leaves is what it leaves without one.
-/
namespace Gedcom

/-! ## Names of paths -/

theorem Line.colon_notMem_of_isTag {tag : String} (h : isTag tag = true) : ':' ∉ tag.toList := by
  intro hmem
  have hchar := List.all_eq_true.mp (Bool.and_eq_true_iff.mp h).2 ':' hmem
  cases hchar

/-- The name of a path has the tags of the path. -/
theorem tagsOf_intercalate {path : List String} (h : ∀ tag ∈ path, Line.isTag tag = true) :
    tagsOf (":".intercalate path).toList = path := by
  cases path with
  | nil => rfl
  | cons tag tags =>
    have hpieces : Text.pieces (· == ':') ([':'].intercalate ((tag :: tags).map String.toList)) =
        (tag :: tags).map String.toList := by
      refine Text.pieces_intercalate rfl (by simp) ?_
      rw [List.forall_mem_map]
      intro t ht c hc
      rw [beq_eq_false_iff_ne]
      rintro rfl
      exact Line.colon_notMem_of_isTag (h t ht) hc
    have hfull : ∀ t ∈ (tag :: tags).map String.toList, (!t.isEmpty) = true := by
      rw [List.forall_mem_map]
      exact fun t ht => (Bool.and_eq_true_iff.mp (h t ht)).1
    rw [tagsOf, Text.fields, String.toList_intercalate]
    show ((Text.pieces (· == ':') ([':'].intercalate _)).filter _).map String.ofList = _
    rw [hpieces, List.filter_eq_self.mpr hfull, List.map_map]
    simp

namespace Outline

/-- The paths of the lines of an outline are those of its entries. -/
theorem mem_paths_iff {path w : List String} {o : Outline} :
    w ∈ o.paths path ↔ ∃ e ∈ o.entries path, e.1 = w := by
  induction o generalizing path with
  | empty => exact iff_of_false List.not_mem_nil (by simp [entries])
  | entry l below after ihbelow ihafter =>
    simp only [paths, entries, List.mem_append, List.mem_cons, ihbelow, ihafter]
    constructor
    · rintro (⟨e, he, rfl⟩ | rfl | ⟨e, he, rfl⟩)
      · exact ⟨e, .inr (.inl he), rfl⟩
      · exact ⟨_, .inl rfl, rfl⟩
      · exact ⟨e, .inr (.inr he), rfl⟩
    · rintro ⟨e, rfl | he | he, rfl⟩
      · exact .inr (.inl rfl)
      · exact .inl ⟨e, he, rfl⟩
      · exact .inr (.inr ⟨e, he, rfl⟩)

end Outline

/-- The paths of the lines of a record that can be read are made of tags. -/
theorem Record.isTag_of_mem_paths {r : Record} (hr : r.isLegible = true) {path : List String}
    (hpath : path ∈ r.paths) : ∀ tag ∈ path, Line.isTag tag = true := by
  obtain ⟨e, he, rfl⟩ := Outline.mem_paths_iff.mp hpath
  have hlegible : (Outline.entry r.head r.below .empty).isLegible 0 = true :=
    Outline.illegible?_eq_none.mp (illegible?_eq_none.mpr hr)
  exact (Outline.path_of_mem_entries hlegible rfl (List.forall_mem_nil _) he).2

/-! ## Lines that a filter has read -/

namespace Application
variable {a : Application} {α β : Type}

/-- A step that succeeds only if some condition holds. -/
def Requires (m : RunM α) (p : Prop) : Prop :=
  ∀ (s s' : Run) (v : α), m.run s = (.ok v, s') → p

theorem Requires.trivial (m : RunM α) : Requires m True :=
  fun _ _ _ _ => True.intro

theorem Requires.mono {m : RunM α} {p q : Prop} (h : Requires m p) (hpq : p → q) : Requires m q :=
  fun s s' v hrun => hpq (h s s' v hrun)

theorem Requires.bind {m : RunM α} {f : α → RunM β} {p q : Prop} (hm : Requires m p)
    (hf : ∀ v, Requires (f v) q) : Requires (m >>= f) (p ∧ q) := by
  intro s s' w hrun
  obtain ⟨v, s₁, hfirst, hrun⟩ := RunM.exists_of_run_bind hrun
  exact ⟨hm s s₁ v hfirst, hf v s₁ s' w hrun⟩

theorem requires_ofTextAt (level : Nat) {l : Text} (hl : '\n' ∉ l) :
    Requires (MonadExcept.ofExcept (Line.ofTextAt level l) : RunM Line)
      (Line.isLegible level l = true) := by
  intro s s' line hrun
  rcases Line.ofTextAt_eq level hl with ⟨hlegible, _⟩ | ⟨_, hline⟩
  · exact hlegible
  · rw [hline] at hrun
    cases hrun

theorem requires_siftEntry (level : Nat) {l : Text} (hl : '\n' ∉ l)
    {below : List String → Option Nat → RunM Text} {p : Prop}
    (hbelow : ∀ path found, Requires (below path found) p) (path : List String)
    (parent : Option Nat) :
    Requires (a.siftEntry level path parent l below) (Line.isLegible level l = true ∧ p) := by
  refine (requires_ofTextAt level hl).bind fun _ => ?_
  have hrest := (Requires.trivial (a.resolve (path ++ [Line.tagOf l]))).bind fun found =>
    (hbelow (path ++ [Line.tagOf l]) found).bind fun inner => Requires.trivial
      (a.finish (path ++ [Line.tagOf l]) parent found
        ((if found.isSome then l ++ ['\n'] else []) ++ inner))
  exact hrest.mono fun h => h.2.1

/-- **A filter gets through an outline** only if all of its lines can be read. -/
theorem requires_siftOutline (level : Nat) {o : Outline} (hlines : ∀ l ∈ o.lines, '\n' ∉ l)
    (path : List String) (parent : Option Nat) :
    Requires (a.siftOutline level path parent o) (o.isLegible level = true) := by
  induction o generalizing level path parent with
  | empty => exact (Requires.trivial _).mono fun _ => rfl
  | entry l below after ihbelow ihafter =>
    rw [Outline.lines, List.forall_mem_cons] at hlines
    obtain ⟨hl, hrest⟩ := hlines
    obtain ⟨hbelow, hafter⟩ := List.forall_mem_append.mp hrest
    have hentry := requires_siftEntry (a := a) level hl
      (fun path found => ihbelow (level + 1) hbelow path found) path parent
    have hboth := hentry.bind fun entry => (ihafter level hafter path parent).bind fun others =>
      Requires.trivial (pure (entry ++ others))
    exact hboth.mono fun h => Outline.isLegible_entry.mpr ⟨h.1.1, h.1.2, h.2.1⟩

theorem requires_mapM_siftRecord {rs : List Record} (hlines : ∀ r ∈ rs, ∀ l ∈ r.lines, '\n' ∉ l) :
    Requires (rs.mapM a.siftRecord) (∀ r ∈ rs, r.isLegible = true) := by
  induction rs with
  | nil => exact (Requires.trivial _).mono fun _ => List.forall_mem_nil _
  | cons r rs ih =>
    obtain ⟨hr, hrs⟩ := List.forall_mem_cons.mp hlines
    have hrecord := requires_siftEntry (a := a) 0 (hr r.head List.mem_cons_self)
      (fun path found => requires_siftOutline (a := a) 1
        (fun l hl => hr l (List.mem_cons_of_mem _ hl)) path found) [] none
    rw [List.mapM_cons]
    have hboth := hrecord.bind fun first => (ih hrs).bind fun others =>
      Requires.trivial (pure (first :: others))
    exact hboth.mono fun h =>
      List.forall_mem_cons.mpr ⟨Bool.and_eq_true_iff.mpr h.1, h.2.1⟩

end Application

/-! ## What is remembered -/

/-- Every answer that a memo holds is the one that a function gives. -/
def Memo.Exact {κ ω : Type} (answer : κ → ω) (m : Memo κ ω) : Prop :=
  ∀ e ∈ m.entries, e.2 = answer e.1

/-- An exact memo stays exact when it is asked. -/
theorem Memo.Exact.ask {κ ω : Type} [BEq κ] {answer : κ → ω} {m : Memo κ ω} (hm : m.Exact answer)
    (k : κ) : (m.ask answer k).2.Exact answer := by
  cases h : m.find? k with
  | some w =>
    rw [ask_of_find? h]
    exact hm
  | none =>
    have step : m.ask answer k = (answer k, ⟨(k, answer k) :: m.entries⟩) := by simp [Memo.ask, h]
    rw [step]
    exact List.forall_mem_cons.mpr ⟨rfl, hm⟩

namespace Application
variable {a : Application} {α β : Type}

/-- A step that keeps the memo exact, whether it succeeds or not. -/
def Remembers (a : Application) (m : RunM α) : Prop :=
  ∀ s : Run, s.memo.Exact a.answer → (m.run s).2.memo.Exact a.answer

theorem LeavesMemo.remembers {m : RunM α} (h : LeavesMemo m) : a.Remembers m := by
  intro s hs
  have hmemo : (m.run s).2.memo = s.memo := congrArg (fun r => r.2.memo) (h s s.memo)
  rwa [hmemo]

theorem Remembers.pure (v : α) : a.Remembers (pure v) :=
  LeavesMemo.remembers fun _ _ => rfl

theorem Remembers.bind {m : RunM α} {f : α → RunM β} (hm : a.Remembers m)
    (hf : ∀ v, a.Remembers (f v)) : a.Remembers (m >>= f) := by
  intro s hs
  have hfirst := hm s hs
  rw [RunM.run_bind]
  revert hfirst
  rcases m.run s with ⟨_ | v, s₁⟩
  · exact id
  · exact hf v s₁

theorem remembers_resolve (path : List String) : a.Remembers (a.resolve path) :=
  fun _ hs => hs.ask (path.length, path)

theorem remembers_siftEntry (level : Nat) (l : Text) {below : List String → Option Nat → RunM Text}
    (hbelow : ∀ path found, a.Remembers (below path found)) (path : List String)
    (parent : Option Nat) : a.Remembers (a.siftEntry level path parent l below) := by
  refine (leavesMemo_ofExcept _).remembers.bind fun _ => ?_
  refine (remembers_resolve _).bind fun found => ?_
  exact (hbelow _ found).bind fun _ => (leavesMemo_finish _ _ _ _).remembers

theorem remembers_siftOutline (level : Nat) (path : List String) (parent : Option Nat)
    (o : Outline) : a.Remembers (a.siftOutline level path parent o) := by
  induction o generalizing level path parent with
  | empty => exact Remembers.pure []
  | entry l below after ihbelow ihafter =>
    refine Remembers.bind ?_ fun entry => ?_
    · exact remembers_siftEntry level l (fun path found => ihbelow _ path found) path parent
    · exact (ihafter level path parent).bind fun _ => Remembers.pure _

/-- **What is remembered of records** is what the rules say. -/
theorem remembers_mapM_siftRecord (rs : List Record) : a.Remembers (rs.mapM a.siftRecord) := by
  induction rs with
  | nil => exact Remembers.pure []
  | cons r rs ih =>
    rw [List.mapM_cons]
    refine Remembers.bind ?_ fun first => ih.bind fun _ => Remembers.pure _
    exact remembers_siftEntry 0 r.head
      (fun path found => remembers_siftOutline 1 path found r.below) [] none

/-! ## The trace of a run -/

/-- The pattern of the rule to which a path leads, if it leads to one. -/
def verdict (a : Application) (path : List String) : Option String :=
  (firstMatch a.rules.patterns path).bind a.patternAt

section Run
variable {ts outputs : List Text} {trace : FilterTrace} {s s' : Run}
  (h : (a.run ts).run s = (.ok (outputs, trace), s'))
include h

theorem isLegible_of_run : ∀ r ∈ ts.flatMap records, r.isLegible = true := by
  obtain ⟨_, _, _, hsift, _, _⟩ := exists_of_run h
  exact requires_mapM_siftRecord (newline_notMem_of_mem_flatMap ts) _ _ _ hsift

theorem isTag_of_run {path : List String}
    (hpath : path ∈ (ts.flatMap records).flatMap Record.paths) :
    ∀ tag ∈ path, Line.isTag tag = true := by
  obtain ⟨r, hr, hpath⟩ := List.mem_flatMap.mp hpath
  exact Record.isTag_of_mem_paths (isLegible_of_run h r hr) hpath

/-- What a run remembers at its end are the paths of the records, each with the rule to which it
leads. -/
theorem of_mem_entries_of_run {n : Nat} {path : List String} {found : Option Nat}
    (hentry : ((n, path), found) ∈ s'.memo.entries) :
    path ∈ (ts.flatMap records).flatMap Record.paths ∧
      found = firstMatch a.rules.patterns path := by
  obtain ⟨g, _, _, hsift, _, _⟩ := exists_of_run h
  have hexact := remembers_mapM_siftRecord (a := a) (ts.flatMap records)
    { s with graph := g, memo := {} } fun _ he => absurd he List.not_mem_nil
  rw [hsift] at hexact
  have hmet : path ∈ s'.met := List.mem_map.mpr ⟨(n, path), List.mem_map_of_mem hentry, rfl⟩
  have hpath := (meets_mapM_siftRecord _ _ _ _ hsift path).mp hmet
  exact ⟨hpath.resolve_left List.not_mem_nil, hexact _ hentry⟩

/-- **What a trace tells of a name** is what the rules say about the path of this name. -/
theorem find?_of_run {name : String} (hname : name ∈ trace.matched.names) :
    trace.matched.find? name = some (a.verdict (tagsOf name.toList)) := by
  obtain ⟨value, hvalue⟩ := (Table.mem_names_iff _ _).mp hname
  obtain ⟨_, _, _, _, _, htrace⟩ := exists_of_run h
  have hmatched : trace.matched = a.matched s' := congrArg FilterTrace.matched htrace
  rw [hvalue]
  rw [hmatched] at hvalue
  obtain ⟨⟨⟨n, path⟩, found⟩, hentry, heq⟩ := List.mem_map.mp (Table.mem_of_find?_ofList hvalue)
  have hpathname : ":".intercalate path = name := congrArg Prod.fst heq
  have hpattern : found.bind a.patternAt = value := congrArg Prod.snd heq
  obtain ⟨hpath, hfound⟩ := of_mem_entries_of_run h hentry
  rw [← hpathname, ← hpattern, tagsOf_intercalate (isTag_of_run h hpath), verdict, hfound]

theorem find?_intercalate_of_run {path : List String}
    (hpath : path ∈ (ts.flatMap records).flatMap Record.paths) :
    trace.matched.find? (":".intercalate path) = some (a.verdict path) := by
  obtain ⟨_, _, hnames⟩ := trace_of_run h
  rw [find?_of_run h ((hnames _).mpr ⟨path, hpath, rfl⟩), tagsOf_intercalate (isTag_of_run h hpath)]

end Run

theorem checkedRecord_of_isLegible {r : Record} (hr : r.isLegible = true) :
    a.checkedRecord r = a.recordRemnant r := by
  obtain ⟨hhead, hbelow⟩ := Bool.and_eq_true_iff.mp hr
  obtain ⟨line, hline⟩ := Line.ofTextAt_of_isLegible hhead
  rw [checkedRecord, checkedEntry, hline, recordRemnant]
  simp only [checkedOutline_of_isLegible hbelow]
  rfl

theorem mapM_checkedRecord_of_isLegible {rs : List Record} (hrs : ∀ r ∈ rs, r.isLegible = true) :
    rs.mapM a.checkedRecord = rs.mapM a.recordRemnant := by
  induction rs with
  | nil => rfl
  | cons r rs ih =>
    obtain ⟨hr, hrs⟩ := List.forall_mem_cons.mp hrs
    rw [List.mapM_cons, List.mapM_cons, checkedRecord_of_isLegible hr, ih hrs]

/-- **A filter that succeeds** has left of the records what is left of them without a memo. -/
theorem exists_remnants_of_run {ts outputs : List Text} {trace : FilterTrace} {s s' : Run}
    (h : (a.run ts).run s = (.ok (outputs, trace), s')) :
    ∃ g results, a.references ts = .ok g ∧
      ((ts.flatMap records).mapM a.recordRemnant).run { s with graph := g, memo := {} } =
        (.ok results, s'.forget) ∧
      outputs = results.filter fun t => !t.isEmpty := by
  obtain ⟨g, results, hgraph, hsift, houtputs, _⟩ := exists_of_run h
  refine ⟨g, results, hgraph, ?_, houtputs⟩
  obtain ⟨_, hfollows⟩ := follows_mapM_siftRecord (a := a) (ts.flatMap records)
    { s with graph := g, memo := {} } (Memo.faithful_empty _)
  rw [mapM_checkedRecord_of_isLegible (isLegible_of_run h), hsift] at hfollows
  exact hfollows

end Application

/-! ## The rules behind a trace -/

/-- The pattern that decides on a path stands at the position that is found. -/
theorem getElem?_of_firstMatch {ps : List Pattern} {path : List String} {i : Nat}
    (h : firstMatch ps path = some i) :
    ∃ p, ps[i]? = some p ∧ ps.find? (·.admits path) = some p ∧ p.excludes = false := by
  induction ps generalizing i with
  | nil => cases h
  | cons p ps ih =>
    rw [firstMatch] at h
    cases hadmits : p.admits path with
    | true =>
      rw [hadmits, if_pos rfl] at h
      cases hexcludes : p.excludes with
      | true =>
        rw [hexcludes] at h
        cases h
      | false =>
        rw [hexcludes] at h
        obtain rfl : 0 = i := Option.some.inj h
        exact ⟨p, rfl, List.find?_cons_of_pos hadmits, hexcludes⟩
    | false =>
      rw [hadmits, if_neg Bool.false_ne_true] at h
      obtain ⟨j, hj, rfl⟩ := Option.map_eq_some_iff.mp h
      obtain ⟨q, hq, hfind, hexcludes⟩ := ih hj
      refine ⟨q, hq, ?_, hexcludes⟩
      rw [List.find?_cons_of_neg (by simp [hadmits]), hfind]

/-- A trace that tells exactly what a filter with its rules ready did with some texts. -/
structure FilterTrace.Exact (trace : FilterTrace) (f : Filter) (ps : Params) (rules : ReadyRules)
    (ts outputs : List Text) : Prop where
  filter : trace.filter = f.name
  inputs : trace.inputs = (ts.flatMap recordBlocks).length
  outputs : trace.outputs = outputs.length
  sorted : trace.matched.Sorted
  /-- The paths of the lines of the records are named, and nothing else is. -/
  names : ∀ name, name ∈ trace.matched.names ↔
    ∃ path ∈ (ts.flatMap records).flatMap Record.paths, ":".intercalate path = name
  /-- A path that leads to no rule has no pattern. -/
  dropped : ∀ path ∈ (ts.flatMap records).flatMap Record.paths,
    firstMatch rules.patterns path = none →
      trace.matched.find? (":".intercalate path) = some none
  /-- A path that leads to a rule has the pattern of the rule as it is written. -/
  kept : ∀ path ∈ (ts.flatMap records).flatMap Record.paths, ∀ i r,
    firstMatch rules.patterns path = some i → (f.rules ps).rules[i]? = some r →
      trace.matched.find? (":".intercalate path) = some (some r.pattern)

namespace Filter

/-- **What a trace tells.**  The rule that decides on a path is there, both ready and as it is
written, at the same position; no rule decides if no pattern matches or if an excluding one
comes first.  The trace of a filter that succeeds tells exactly this of the paths of all lines,
and counts the records.  All texts that are left have something in them, and they are what is
left of the records without a memo. -/
theorem trace_exact {f : Filter} {ps : Params} {rules : ReadyRules} (hf : f.compile ps = .ok rules)
    {ts outputs : List Text} {trace : FilterTrace} {s s' : Run}
    (h : (f.run ps ts).run s = (.ok (outputs, trace), s')) :
    (∀ path i, firstMatch rules.patterns path = some i →
      ∃ r q, (f.rules ps).rules[i]? = some r ∧ rules.rules[i]? = some q ∧
        Rule.Becomes ps { r with ops := r.ops.flatMap (RuleSet.writtenOut f.macros) } q ∧
        rules.patterns.find? (·.admits path) = some q.pattern ∧ q.pattern.excludes = false) ∧
      (∀ path, firstMatch rules.patterns path = none ↔
        ∀ p, rules.patterns.find? (·.admits path) = some p → p.excludes = true) ∧
      trace.Exact f ps rules ts outputs ∧ (∀ t ∈ outputs, t ≠ []) ∧
      ∃ g results, (Application.mk f rules ps).references ts = .ok g ∧
        ((ts.flatMap records).mapM (Application.mk f rules ps).recordRemnant).run
          { s with graph := g, memo := {} } = (.ok results, s'.forget) ∧
        outputs = results.filter fun t => !t.isEmpty := by
  rw [run_of_compile hf] at h
  have hrule : ∀ path i, firstMatch rules.patterns path = some i →
      ∃ r q, (f.rules ps).rules[i]? = some r ∧ rules.rules[i]? = some q ∧
        Rule.Becomes ps { r with ops := r.ops.flatMap (RuleSet.writtenOut f.macros) } q ∧
        rules.patterns.find? (·.admits path) = some q.pattern ∧ q.pattern.excludes = false := by
    intro path i hi
    obtain ⟨p, hp, hfind, hexcludes⟩ := getElem?_of_firstMatch hi
    rw [ReadyRules.patterns, List.getElem?_map] at hp
    obtain ⟨q, hq, rfl⟩ := Option.map_eq_some_iff.mp hp
    obtain ⟨r, hr, hbecomes⟩ := exists_rule_of_compile hf hq
    exact ⟨r, q, hr, hq, hbecomes, hfind, hexcludes⟩
  obtain ⟨hinputs, hsorted, hnames⟩ := Application.trace_of_run h
  obtain ⟨_, _, _, _, _, htrace⟩ := Application.exists_of_run h
  obtain ⟨g, results, hgraph, hremnants, houtputs⟩ := Application.exists_remnants_of_run h
  refine ⟨hrule, fun path => ?_, ⟨?_, hinputs, ?_, hsorted, hnames, ?_, ?_⟩, ?_,
    g, results, hgraph, hremnants, houtputs⟩
  · rw [firstMatch_eq_none_iff, decider_tailsOf, Option.all_eq_true]
  · exact congrArg FilterTrace.filter htrace
  · exact congrArg FilterTrace.outputs htrace
  · intro path hpath hnone
    rw [Application.find?_intercalate_of_run h hpath, Application.verdict, hnone]
    rfl
  · intro path hpath i r hi hr
    obtain ⟨r', q, hr', hq, hbecomes, _⟩ := hrule path i hi
    obtain rfl : r' = r := Option.some.inj (hr'.symm.trans hr)
    have hpattern : q.pattern.text = r'.pattern := congrArg Pattern.text hbecomes.pattern
    rw [Application.find?_intercalate_of_run h hpath, Application.verdict, hi, Option.bind_some,
      Application.patternAt, hq, Option.map_some, hpattern]
  · intro t ht
    rw [houtputs] at ht
    simpa using (List.mem_filter.mp ht).2

/-- Of an individual with two names the filter that numbers names tells three paths, one of which
it has dropped. -/
theorem trace_exact_numbering :
    let f := Application.numbering.filter
    let ts := ["0 @I1@ INDI\n1 NAME Ada\n2 GIVN Ada\n1 NAME Countess\n0 TRLR\n".toList]
    let outputs := ["0 @I1@ INDI\n1 NAME Ada 0\n1 NAME Countess 1\n".toList]
    let trace : FilterTrace :=
      { filter := "NumberNames", inputs := 2, outputs := 1
        matched := ⟨[("INDI", some "INDI"), ("INDI:NAME", some "INDI:NAME"),
          ("INDI:NAME:GIVN", none), ("TRLR", none)]⟩ }
    ∃ rules s', f.compile {} = .ok rules ∧ (f.run {} ts).run {} = (.ok (outputs, trace), s') ∧
      trace.Exact f {} rules ts outputs := by
  intro f ts outputs trace
  have hcompile : f.compile {} = .ok Application.numbering.rules := rfl
  have hresult : ((f.run {} ts).run {}).1 = .ok (outputs, trace) :=
    eq_ok_of_toOption (by decide +kernel)
  have hrun : (f.run {} ts).run {} = (.ok (outputs, trace), ((f.run {} ts).run {}).2) :=
    Prod.ext hresult rfl
  obtain ⟨_, _, hexact, _⟩ := trace_exact hcompile hrun
  exact ⟨_, _, hcompile, hrun, hexact⟩

end Filter
end Gedcom
