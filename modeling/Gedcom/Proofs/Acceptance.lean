import Gedcom.Proofs.Compilation
import Gedcom.Proofs.Orphans
import Gedcom.Proofs.StrayLines
import Mathlib.Data.List.Sort

/-!
# Which texts are accepted

Rules say which lines are kept and how they are changed.  Which lines are looked at is another
matter: below a line that is dropped a filter goes on as below any other, and it has cut the
text before an operation changes it.  So the rules have no say in it, and as long as they ask
for no conversion nothing that they do can fail.

`Filter.accepts_alike` draws the conclusion for two filters on the same texts.  Both fail, and
with the same line, or both go through the same records and meet the same paths.  The two
halves are proved for one step after the other: `Meets` says which paths a step leaves in the
memo, and `StopsAt` at which line it fails.
-/
namespace Gedcom

/-- Two tables in order that have the same names list them alike. -/
theorem Table.names_eq {α β : Type} {t : Table α} {u : Table β} (ht : t.Sorted) (hu : u.Sorted)
    (h : ∀ name, name ∈ t.names ↔ name ∈ u.names) : t.names = u.names := by
  have ht' : t.names.Pairwise (· < ·) := List.pairwise_map.mpr ht
  have hu' : u.names.Pairwise (· < ·) := List.pairwise_map.mpr hu
  exact ht'.eq_of_mem_iff hu' fun {name} => h name

/-- The paths met so far, latest first. -/
def Run.met (s : Run) : List (List String) := s.memo.keys.map (·.2)

namespace Application
variable {a : Application} {α β : Type}

/-! ## The paths that a filter meets -/

/-- A step that meets some paths: if it succeeds, then the paths met after it are those that
were met before it and these. -/
def Meets (m : RunM α) (paths : List (List String)) : Prop :=
  ∀ (s s' : Run) (v : α), m.run s = (.ok v, s') → ∀ p, p ∈ s'.met ↔ p ∈ s.met ∨ p ∈ paths

theorem Meets.perm {m : RunM α} {paths paths' : List (List String)} (h : Meets m paths)
    (hperm : paths.Perm paths') : Meets m paths' := by
  intro s s' v hrun p
  rw [h s s' v hrun p, hperm.mem_iff]

theorem LeavesMemo.meets {m : RunM α} (h : LeavesMemo m) : Meets m [] := by
  intro s s' v hrun p
  have hmemo : (m.run s).2.memo = s.memo := congrArg (fun r => r.2.memo) (h s s.memo)
  rw [hrun] at hmemo
  rw [Run.met, hmemo, ← Run.met, or_iff_left List.not_mem_nil]

theorem Meets.pure (v : α) : Meets (pure v) [] :=
  LeavesMemo.meets fun _ _ => rfl

theorem Meets.bind {m : RunM α} {f : α → RunM β} {paths paths' : List (List String)}
    (hm : Meets m paths) (hf : ∀ v, Meets (f v) paths') : Meets (m >>= f) (paths ++ paths') := by
  intro s s' w hrun p
  obtain ⟨v, s₁, hfirst, hrun⟩ := RunM.exists_of_run_bind hrun
  rw [hf v s₁ s' w hrun p, hm s s₁ v hfirst p, List.mem_append, or_assoc]

/-- Looking up a path is the only way to meet it. -/
theorem meets_resolve (path : List String) : Meets (a.resolve path) [path] := by
  intro s s' v hrun p
  have hmemo : s'.memo = (s.memo.ask a.answer (path.length, path)).2 :=
    congrArg (fun r : _ × Run => r.2.memo) hrun.symm
  rw [Run.met, hmemo, Run.met, List.mem_map, List.mem_map, List.mem_singleton]
  simp only [Memo.mem_keys_ask]
  constructor
  · rintro ⟨q, rfl | hq, rfl⟩
    · exact .inr rfl
    · exact .inl ⟨q, hq, rfl⟩
  · rintro (⟨q, hq, rfl⟩ | rfl)
    · exact ⟨q, .inr hq, rfl⟩
    · exact ⟨_, .inl rfl, rfl⟩

/-- A line is met first, and then what stands below it, whether it is kept or not. -/
theorem meets_siftEntry {level : Nat} {path : List String} {parent : Option Nat} {l : Text}
    {below : List String → Option Nat → RunM Text} {inner : List (List String)}
    (hbelow : ∀ found, Meets (below (path ++ [Line.tagOf l]) found) inner) :
    Meets (a.siftEntry level path parent l below) ((path ++ [Line.tagOf l]) :: inner) := by
  refine Meets.bind (leavesMemo_ofExcept _).meets fun _ => ?_
  refine Meets.bind (meets_resolve _) fun found => ?_
  rw [← List.append_nil inner]
  exact (hbelow found).bind fun _ => (leavesMemo_finish _ _ _ _).meets

theorem meets_siftOutline (level : Nat) (path : List String) (parent : Option Nat)
    (o : Outline) : Meets (a.siftOutline level path parent o) (o.paths path) := by
  induction o generalizing level path parent with
  | empty => exact Meets.pure []
  | entry l below after ihbelow ihafter =>
    have hentry : Meets
        (a.siftEntry level path parent l fun path found =>
          a.siftOutline (level + 1) path found below)
        ((path ++ [Line.tagOf l]) :: below.paths (path ++ [Line.tagOf l])) :=
      meets_siftEntry fun found => ihbelow (level + 1) _ found
    have hothers : ∀ entry : Text, Meets (do
        let others ← a.siftOutline level path parent after
        return entry ++ others) (after.paths path) := by
      intro entry
      rw [← List.append_nil (after.paths path)]
      exact (ihafter level path parent).bind fun _ => Meets.pure _
    -- the paths of an outline are listed as its lines are finished, not as they are met
    exact (hentry.bind hothers).perm List.perm_middle.symm

/-- A record is an outline with one entry. -/
theorem siftOutline_entry_empty (r : Record) :
    a.siftOutline 0 [] none (.entry r.head r.below .empty) = a.siftRecord r := by
  simp [siftOutline, siftRecord]

/-- **The paths that a filter meets** are those of the records, whatever its rules are. -/
theorem meets_mapM_siftRecord (rs : List Record) :
    Meets (rs.mapM a.siftRecord) (rs.flatMap Record.paths) := by
  induction rs with
  | nil => exact Meets.pure []
  | cons r rs ih =>
    rw [List.mapM_cons, List.flatMap_cons, ← siftOutline_entry_empty,
      ← List.append_nil (rs.flatMap Record.paths)]
    refine (meets_siftOutline 0 [] none _).bind fun first => ?_
    exact ih.bind fun _ => Meets.pure _

/-- **A filter that succeeds** has gone through all records, and has met their paths. -/
theorem exists_of_run {ts outputs : List Text} {trace : FilterTrace} {s s' : Run}
    (h : (a.run ts).run s = (.ok (outputs, trace), s')) :
    ∃ g results, a.references ts = .ok g ∧
      ((ts.flatMap records).mapM a.siftRecord).run { s with graph := g, memo := {} } =
        (.ok results, s') ∧
      outputs = results.filter (fun t => !t.isEmpty) ∧
      trace =
        { filter := a.filter.name
          inputs := (ts.flatMap recordBlocks).length
          outputs := outputs.length
          matched := a.matched s' } := by
  obtain ⟨g, hgraph⟩ := a.exists_references ts
  cases hsift : ((ts.flatMap recordBlocks).mapM (a.sift 0 [] none)).run
      { s with graph := g, memo := {} } with
  | mk result s₁ =>
    cases result with
    | error e =>
      rw [run_of_mapM_error hgraph hsift] at h
      cases h
    | ok results =>
      rw [run_eq_of_mapM_ok hgraph hsift] at h
      obtain ⟨hresult, rfl⟩ := Prod.ext_iff.mp h
      obtain ⟨rfl, rfl⟩ := Prod.ext_iff.mp (Except.ok.inj hresult)
      rw [mapM_sift_flatMap] at hsift
      exact ⟨g, results, hgraph, hsift, rfl, rfl⟩

/-- **The trace of a filter** counts the records and names the paths of their lines. -/
theorem trace_of_run {ts outputs : List Text} {trace : FilterTrace} {s s' : Run}
    (h : (a.run ts).run s = (.ok (outputs, trace), s')) :
    trace.inputs = (ts.flatMap recordBlocks).length ∧ trace.matched.Sorted ∧
      ∀ name, name ∈ trace.matched.names ↔
        ∃ path ∈ (ts.flatMap records).flatMap Record.paths, ":".intercalate path = name := by
  obtain ⟨g, results, _, hsift, _, rfl⟩ := exists_of_run h
  refine ⟨rfl, Table.ofList_sorted _, fun name => ?_⟩
  have hmet := meets_mapM_siftRecord _ _ _ _ hsift
  have hnames : name ∈ (a.matched s').names ↔
      name ∈ s'.met.map fun path => ":".intercalate path := by
    rw [matched, Table.mem_names_ofList, Run.met, Memo.keys, List.map_map, List.map_map,
      List.map_map]
    rfl
  rw [hnames, List.mem_map]
  refine exists_congr fun path => and_congr_left fun _ => ?_
  exact (hmet path).trans (or_iff_right List.not_mem_nil)

/-! ## Lines at which a filter stops -/

/-- A step that stops at a line that cannot be read, if there is one, and succeeds otherwise. -/
def StopsAt (m : RunM α) : Option Text → Prop
  | some l => ∀ s : Run, (m.run s).1 = .error (.malformed l)
  | none => ∀ s : Run, ∃ v, (m.run s).1 = .ok v

theorem StopsAt.pure (v : α) : StopsAt (pure v) none :=
  fun _ => ⟨v, rfl⟩

/-- Of two steps, one after the other, the first has the first say. -/
theorem StopsAt.bind {m : RunM α} {f : α → RunM β} {stray stray' : Option Text}
    (hm : StopsAt m stray) (hf : ∀ v, StopsAt (f v) stray') :
    StopsAt (m >>= f) (stray.or stray') := by
  cases stray with
  | some l =>
    intro s
    rw [RunM.run_bind_of_error (Prod.ext (hm s) rfl)]
  | none =>
    have hstep : ∀ s, ∃ v s₁, (m >>= f).run s = (f v).run s₁ := by
      intro s
      obtain ⟨v, hv⟩ := hm s
      exact ⟨v, _, RunM.run_bind_of_ok (Prod.ext hv rfl) f⟩
    cases stray' with
    | some l =>
      intro s
      obtain ⟨v, s₁, hrun⟩ := hstep s
      rw [hrun]
      exact hf v s₁
    | none =>
      intro s
      obtain ⟨v, s₁, hrun⟩ := hstep s
      rw [hrun]
      exact hf v s₁

theorem stopsAt_ofTextAt (level : Nat) {l : Text} (hl : '\n' ∉ l) :
    StopsAt (MonadExcept.ofExcept (Line.ofTextAt level l) : RunM Line)
      (if Line.isLegible level l then none else some l) := by
  rcases Line.ofTextAt_eq level hl with ⟨hlegible, line, hline⟩ | ⟨hlegible, hline⟩
  · rw [hlegible, hline, if_pos rfl]
    exact StopsAt.pure line
  · rw [hlegible, hline, if_neg Bool.false_ne_true]
    exact fun _ => rfl

theorem stopsAt_resolve (path : List String) : StopsAt (a.resolve path) none :=
  fun _ => ⟨_, rfl⟩

theorem stopsAt_modify (f : Run → Run) : StopsAt (modify f : RunM PUnit) none :=
  fun _ => ⟨⟨⟩, rfl⟩

/-- No rule asks for a conversion. -/
def ConversionFree (a : Application) : Prop :=
  ∀ rule ∈ a.rules.rules, ReadyOp.convert ∉ rule.ops

theorem stopsAt_runOps (pattern : String) {ops : List ReadyOp} (hops : .convert ∉ ops)
    (t : Text) : StopsAt (a.runOps pattern ops t) none := by
  induction ops generalizing t with
  | nil => exact StopsAt.pure t
  | cons op ops ih =>
    rw [List.mem_cons, not_or] at hops
    obtain ⟨hop, hops⟩ := hops
    cases op with
    | substitute _ regex replacement => exact ih hops _
    | convert => exact absurd rfl hop

section ConversionFree
variable (ha : a.ConversionFree)
include ha

/-- Substitutions do not fail. -/
theorem stopsAt_finish (path : List String) (parent found : Option Nat) (t : Text) :
    StopsAt (a.finish path parent found t) none := by
  rcases a.finish_cases path parent found t with h | ⟨i, rule, _, _, hrule, _, h⟩
  · rw [h]
    exact StopsAt.pure t
  · rw [h]
    refine (stopsAt_modify _).bind fun _ => ?_
    exact stopsAt_runOps _ (ha rule (List.mem_of_getElem? hrule)) t

theorem stopsAt_siftEntry (level : Nat) {l : Text} (hl : '\n' ∉ l)
    {below : List String → Option Nat → RunM Text} {stray : Option Text}
    (hbelow : ∀ path found, StopsAt (below path found) stray) (path : List String)
    (parent : Option Nat) :
    StopsAt (a.siftEntry level path parent l below)
      ((if Line.isLegible level l then none else some l).or stray) := by
  refine (stopsAt_ofTextAt level hl).bind fun _ => ?_
  refine StopsAt.bind (stopsAt_resolve _) fun found => ?_
  rw [← Option.or_none (o := stray)]
  exact (hbelow _ found).bind fun _ => stopsAt_finish ha _ _ _ _

/-- **A filter stops at the first line of an outline that cannot be read**, and at no other. -/
theorem stopsAt_siftOutline (level : Nat) {o : Outline} (hlines : ∀ l ∈ o.lines, '\n' ∉ l)
    (path : List String) (parent : Option Nat) :
    StopsAt (a.siftOutline level path parent o) (o.illegible? level) := by
  induction o generalizing level path parent with
  | empty => exact StopsAt.pure []
  | entry l below after ihbelow ihafter =>
    rw [Outline.lines, List.forall_mem_cons] at hlines
    obtain ⟨hl, hrest⟩ := hlines
    obtain ⟨hbelow, hafter⟩ := List.forall_mem_append.mp hrest
    have hentry := stopsAt_siftEntry ha level hl
      (fun path found => ihbelow (level + 1) hbelow path found) path parent
    have hothers : ∀ entry : Text, StopsAt (do
        let others ← a.siftOutline level path parent after
        return entry ++ others) (after.illegible? level) := by
      intro entry
      rw [← Option.or_none (o := after.illegible? level)]
      exact (ihafter level hafter path parent).bind fun _ => StopsAt.pure _
    have hboth := hentry.bind hothers
    rw [Outline.illegible?]
    split
    · rename_i hlegible
      rwa [if_pos hlegible, Option.none_or] at hboth
    · rename_i hlegible
      rwa [if_neg hlegible, Option.or_assoc, Option.some_or] at hboth

theorem stopsAt_mapM_siftRecord {rs : List Record} (hlines : ∀ r ∈ rs, ∀ l ∈ r.lines, '\n' ∉ l) :
    StopsAt (rs.mapM a.siftRecord) (rs.findSome? Record.illegible?) := by
  induction rs with
  | nil => exact StopsAt.pure []
  | cons r rs ih =>
    obtain ⟨hr, hrs⟩ := List.forall_mem_cons.mp hlines
    have hrecord : ∀ l ∈ (Outline.entry r.head r.below .empty).lines, '\n' ∉ l := by
      rwa [r.lines_entry_empty]
    have hfirst := stopsAt_siftOutline ha 0 hrecord [] none
    have hboth := hfirst.bind fun first => (ih hrs).bind fun others =>
      StopsAt.pure (first :: others)
    rw [Option.or_none] at hboth
    rw [List.mapM_cons, List.findSome?_cons, ← siftOutline_entry_empty]
    cases hstray : r.illegible? with
    | some l => rwa [← Record.illegible?, hstray] at hboth
    | none => rwa [← Record.illegible?, hstray] at hboth

theorem run_of_conversionFree (ts : List Text) :
    StopsAt (a.run ts) ((ts.flatMap records).findSome? Record.illegible?) := by
  obtain ⟨g, hgraph⟩ := a.exists_references ts
  have hsift := stopsAt_mapM_siftRecord ha (newline_notMem_of_mem_flatMap ts)
  rw [← mapM_sift_flatMap] at hsift
  cases hstray : (ts.flatMap records).findSome? Record.illegible? with
  | some l =>
    rw [hstray] at hsift
    intro s
    rw [run_of_mapM_error (s := s) hgraph (Prod.ext (hsift _) rfl)]
  | none =>
    rw [hstray] at hsift
    intro s
    obtain ⟨outs, houts⟩ := hsift { s with graph := g, memo := {} }
    rw [run_eq_of_mapM_ok hgraph (Prod.ext houts rfl)]
    exact ⟨_, rfl⟩

end ConversionFree
end Application

/-! ## Filters without conversions -/

/-- Writing out macros brings no conversion in. -/
theorem RuleSet.eq_convert_of_mem_writtenOut {macros : Macros} {op : Op}
    (h : .convert ∈ writtenOut macros op) : op = .convert := by
  cases op with
  | substitute sub => cases List.mem_singleton.mp h
  | convert => rfl
  | useMacro name =>
    obtain ⟨sub, _, hsub⟩ := List.mem_map.mp h
    cases hsub

namespace Filter

/-- A filter whose rules ask for no conversion does not come to ask for one when it is made
ready. -/
theorem conversionFree_of_compile {f : Filter} {ps : Params} {rules : ReadyRules}
    (hf : f.compile ps = .ok rules) (hplain : (f.rules ps).usesHook = false) :
    Application.ConversionFree ⟨f, rules, ps⟩ := by
  intro rule hrule hconvert
  -- go back from the conversion to the operation that it was made of
  obtain ⟨i, hi⟩ := List.mem_iff_getElem?.mp hrule
  obtain ⟨r, hr, hbecomes⟩ := exists_rule_of_compile hf hi
  obtain ⟨j, hj⟩ := List.mem_iff_getElem?.mp hconvert
  obtain ⟨op, hop, hready⟩ := getElem?_of_forall₂ hbecomes.ops.flip hj
  obtain ⟨source, hsource, hmem⟩ := List.mem_flatMap.mp (List.mem_of_getElem? hop)
  cases hready with
  | convert =>
    obtain rfl := RuleSet.eq_convert_of_mem_writtenOut hmem
    have huses : (f.rules ps).usesHook = true :=
      List.any_eq_true.mpr ⟨r, List.mem_of_getElem? hr, List.contains_iff_mem.mpr hsource⟩
    rw [hplain] at huses
    cases huses

/-- **Acceptance does not depend on the rules.**  Of two filters that can be made ready and ask
for no conversions, both fail on texts that have a line that cannot be read at its level, with
the first such line; on other texts both succeed, count the same records and meet the same
paths. -/
theorem accepts_alike {f f' : Filter} {ps ps' : Params} {rules rules' : ReadyRules}
    (hf : f.compile ps = .ok rules) (hf' : f'.compile ps' = .ok rules')
    (hplain : (f.rules ps).usesHook = false) (hplain' : (f'.rules ps').usesHook = false)
    (ts : List Text) (s s' : Run) :
    match (ts.flatMap records).findSome? Record.illegible? with
    | some l =>
      ((f.run ps ts).run s).1 = .error (.malformed l) ∧
        ((f'.run ps' ts).run s').1 = .error (.malformed l)
    | none => ∃ outputs trace outputs' trace',
      ((f.run ps ts).run s).1 = .ok (outputs, trace) ∧
        ((f'.run ps' ts).run s').1 = .ok (outputs', trace') ∧
        trace.inputs = trace'.inputs ∧ trace.matched.names = trace'.matched.names := by
  have hstop := Application.run_of_conversionFree (conversionFree_of_compile hf hplain) ts
  have hstop' := Application.run_of_conversionFree (conversionFree_of_compile hf' hplain') ts
  rw [run_of_compile hf, run_of_compile hf']
  cases hstray : (ts.flatMap records).findSome? Record.illegible? with
  | some l =>
    rw [hstray] at hstop hstop'
    exact ⟨hstop s, hstop' s'⟩
  | none =>
    rw [hstray] at hstop hstop'
    obtain ⟨⟨outputs, trace⟩, hrun⟩ := hstop s
    obtain ⟨⟨outputs', trace'⟩, hrun'⟩ := hstop' s'
    obtain ⟨hinputs, hsorted, hnames⟩ := Application.trace_of_run (Prod.ext hrun rfl)
    obtain ⟨hinputs', hsorted', hnames'⟩ := Application.trace_of_run (Prod.ext hrun' rfl)
    refine ⟨outputs, trace, outputs', trace', hrun, hrun', hinputs.trans hinputs'.symm, ?_⟩
    exact Table.names_eq hsorted hsorted' fun name => (hnames name).trans (hnames' name).symm

/-- Two filters, one of which looks at references and drops all individuals, stumble over the
same line below the birth of one. -/
theorem accepts_alike_birth :
    let f := Catalog.allRecords
    let f' := { Catalog.noRecords with usesReferences := true }
    let ts := ["0 HEAD\n0 @I1@ INDI\n1 BIRT\n2 @ DATE\n".toList]
    ((f.run {} ts).run {}).1 = .error (.malformed "2 @ DATE".toList) ∧
      ((f'.run {} ts).run {}).1 = .error (.malformed "2 @ DATE".toList) := by
  intro f f' ts
  have hstray : (ts.flatMap records).findSome? Record.illegible? = some "2 @ DATE".toList := by
    decide +kernel
  have hf : f.compile {} = .ok ⟨[⟨⟨"*"⟩, []⟩]⟩ := rfl
  have hf' : f'.compile {} =
      .ok ⟨["HEAD", "HEAD:*", "SUBM", "SUBM:*", "TRLR"].map fun p => ⟨⟨p⟩, []⟩⟩ := rfl
  have halike := accepts_alike hf hf' rfl rfl ts {} {}
  rw [hstray] at halike
  exact halike

end Filter
end Gedcom
