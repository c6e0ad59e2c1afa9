import Gedcom.Filter.Catalog
import Gedcom.Proofs.MatchedPaths

/-!
# Records are filtered one by one

A filter without conversions treats every record by itself, although its memo and its graph
live through all of them.  What it leaves of some texts and of more texts is what it leaves of
both together, and the trace of both is put together from the two traces.  `run_append` says so,
faults included: it is the first line of all that cannot be read that decides.

The memo is taken care of by then, for what is left of records is what is left without one.
The graph is not: what is left of a record could depend on it.  It does not if only
substitutions are carried out (`steady_recordRemnant`).  The tables of two traces fit together
since both tell of a name what the rules say about it.
-/
namespace Gedcom

/-! ## Tables put together -/

namespace Table
variable {α : Type}

/-- The names of two tables; a name of both has its value in the second one. -/
def union (t u : Table α) : Table α := u.entries.foldl (fun t p => t.insert p.1 p.2) t

/-- A name of two tables has the same value in both. -/
def Agrees (t u : Table α) : Prop :=
  ∀ name v w, t.find? name = some v → u.find? name = some w → v = w

theorem union_sorted {t : Table α} (ht : t.Sorted) (u : Table α) : (t.union u).Sorted := by
  obtain ⟨es⟩ := u
  rw [union]
  induction es generalizing t with
  | nil => exact ht
  | cons e es ih => exact ih (insert_sorted ht e.1 e.2)

theorem find?_union (t : Table α) {u : Table α} (hu : u.Sorted) (name : String) :
    (t.union u).find? name = (u.find? name).or (t.find? name) := by
  obtain ⟨es⟩ := u
  rw [union]
  induction es generalizing t with
  | nil => rfl
  | cons e es ih =>
    obtain ⟨hhead, htail⟩ := List.pairwise_cons.mp hu
    have hcons : (Table.mk (e :: es)).find? name =
        if name = e.1 then some e.2 else es.lookup name := lookup_entry ..
    have hrest : ((Table.mk es).entries.foldl (fun t p => t.insert p.1 p.2)
        (t.insert e.1 e.2)).find? name = (es.lookup name).or ((t.insert e.1 e.2).find? name) :=
      ih (t.insert e.1 e.2) htail
    rw [List.foldl_cons, hrest, find?_insert, hcons]
    by_cases hname : name = e.1
    · -- no later entry has the name
      have hnone : es.lookup name = none := by
        rw [List.lookup_eq_none_iff]
        intro p hp
        rw [bne_iff_ne, hname]
        exact fun heq => String.lt_irrefl _ (heq ▸ hhead p hp)
      rw [hnone, if_pos hname, if_pos hname]
      rfl
    · rw [if_neg hname, if_neg hname]

/-- In a table in order, the entries are the names with their values. -/
theorem mem_entries_iff {t : Table α} (ht : t.Sorted) (p : String × α) :
    p ∈ t.entries ↔ t.find? p.1 = some p.2 := by
  obtain ⟨es⟩ := t
  simp only [find?, Sorted] at ht ⊢
  induction es with
  | nil => exact iff_of_false List.not_mem_nil (by simp)
  | cons e es ih =>
    obtain ⟨hhead, htail⟩ := List.pairwise_cons.mp ht
    rw [List.mem_cons, lookup_entry]
    by_cases h : p.1 = e.1
    · rw [if_pos h, Option.some_inj]
      constructor
      · rintro (rfl | hp)
        · rfl
        · exact absurd (h ▸ hhead p hp) (String.lt_irrefl _)
      · exact fun hvalue => .inl (Prod.ext h hvalue.symm)
    · rw [if_neg h, ← ih htail, or_iff_right fun hp => h (congrArg Prod.fst hp)]

/-- Two tables in order that give the same values are the same. -/
theorem eq_of_find? {t u : Table α} (ht : t.Sorted) (hu : u.Sorted)
    (h : ∀ name, t.find? name = u.find? name) : t = u := by
  have hentries : t.entries = u.entries := ht.eq_of_mem_iff hu fun p => by
    rw [mem_entries_iff ht, mem_entries_iff hu, h]
  obtain ⟨es⟩ := t
  exact congrArg Table.mk hentries

end Table

/-! ## Results that do not depend on the run -/

namespace Application
variable {a : Application} {α β : Type}

/-- A step that has the same result in all runs. -/
def Steady (m : RunM α) : Prop := ∀ s s' : Run, (m.run s).1 = (m.run s').1

theorem Steady.pure (v : α) : Steady (pure v) :=
  fun _ _ => rfl

theorem Steady.bind {m : RunM α} {f : α → RunM β} (hm : Steady m) (hf : ∀ v, Steady (f v)) :
    Steady (m >>= f) := by
  intro s s'
  have hresult := hm s s'
  rw [RunM.run_bind, RunM.run_bind]
  revert hresult
  rcases m.run s with ⟨result, s₁⟩
  rcases m.run s' with ⟨result', s₁'⟩
  rintro (rfl : result = result')
  cases result with
  | error e => rfl
  | ok v => exact hf v s₁ s₁'

theorem steady_runOps (pattern : String) {ops : List ReadyOp} (hops : .convert ∉ ops) (t : Text) :
    Steady (a.runOps pattern ops t) := by
  induction ops generalizing t with
  | nil => exact Steady.pure t
  | cons op ops ih =>
    rw [List.mem_cons, not_or] at hops
    obtain ⟨hop, hops⟩ := hops
    cases op with
    | substitute _ regex replacement => exact ih hops _
    | convert => exact absurd rfl hop

section ConversionFree
variable (ha : a.ConversionFree)
include ha

theorem steady_finish (path : List String) (parent found : Option Nat) (t : Text) :
    Steady (a.finish path parent found t) := by
  rcases a.finish_cases path parent found t with h | ⟨i, rule, _, _, hrule, _, h⟩
  · rw [h]
    exact Steady.pure t
  · rw [h]
    refine Steady.bind (fun _ _ => rfl) fun _ => ?_
    exact steady_runOps _ (ha rule (List.mem_of_getElem? hrule)) t

theorem steady_outlineRemnant (path : List String) (parent : Option Nat) (o : Outline) :
    Steady (a.outlineRemnant path parent o) := by
  induction o generalizing path parent with
  | empty => exact Steady.pure []
  | entry l below after ihbelow ihafter =>
    refine Steady.bind ?_ fun entry => (ihafter path parent).bind fun _ => Steady.pure _
    exact (ihbelow _ _).bind fun _ => steady_finish ha _ _ _ _

/-- **Without conversions, what is left of a record** depends on nothing but the record. -/
theorem steady_recordRemnant (r : Record) : Steady (a.recordRemnant r) :=
  (steady_outlineRemnant ha _ _ r.below).bind fun _ => steady_finish ha _ _ _ _

theorem steady_mapM_recordRemnant (rs : List Record) : Steady (rs.mapM a.recordRemnant) := by
  induction rs with
  | nil => exact Steady.pure []
  | cons r rs ih =>
    rw [List.mapM_cons]
    exact (steady_recordRemnant ha r).bind fun _ => ih.bind fun _ => Steady.pure _

/-- What is left of records and of more records is what is left of both together. -/
theorem eq_append_of_mapM_recordRemnant {rs rs' : List Record}
    {results results' results'' : List Text} {s s₁ s₂ : Run}
    (h : ((rs.mapM a.recordRemnant).run s₁).1 = .ok results)
    (h' : ((rs'.mapM a.recordRemnant).run s₂).1 = .ok results')
    (h'' : (((rs ++ rs').mapM a.recordRemnant).run s).1 = .ok results'') :
    results'' = results ++ results' := by
  have hfirst : (rs.mapM a.recordRemnant).run s =
      (.ok results, ((rs.mapM a.recordRemnant).run s).2) :=
    Prod.ext ((steady_mapM_recordRemnant ha rs s s₁).trans h) rfl
  have hothers := fun u => (steady_mapM_recordRemnant ha rs' u s₂).trans h'
  rw [List.mapM_append, RunM.run_bind_of_ok hfirst,
    RunM.run_bind_of_ok (Prod.ext (hothers _) rfl)] at h''
  exact (Except.ok.inj h'').symm

end ConversionFree

/-! ## The traces of two runs -/

section Runs
variable {ts us outputs outputs' outputs'' : List Text} {trace trace' trace'' : FilterTrace}
  {s s' s₁ s₁' s₂ s₂' : Run}

theorem find?_eq_ite_of_run (h : (a.run ts).run s = (.ok (outputs, trace), s')) (name : String) :
    trace.matched.find? name =
      if name ∈ trace.matched.names then some (a.verdict (tagsOf name.toList)) else none := by
  split
  · rename_i hname
    exact find?_of_run h hname
  · rename_i hname
    rw [Table.mem_names_iff, ← Option.isSome_iff_exists] at hname
    exact Option.not_isSome_iff_eq_none.mp hname

/-- Two traces tell the same of a name that is in both. -/
theorem agrees_of_run (h : (a.run ts).run s₁ = (.ok (outputs, trace), s₁'))
    (h' : (a.run us).run s₂ = (.ok (outputs', trace'), s₂')) :
    trace.matched.Agrees trace'.matched := by
  intro name v w hv hw
  have hname := (Table.mem_names_iff _ _).mpr ⟨v, hv⟩
  have hname' := (Table.mem_names_iff _ _).mpr ⟨w, hw⟩
  rw [find?_of_run h hname] at hv
  rw [find?_of_run h' hname'] at hw
  exact Option.some.inj (hv.symm.trans hw)

/-- **The trace of all texts** tells what the traces of some and of the others tell. -/
theorem matched_append (h : (a.run ts).run s₁ = (.ok (outputs, trace), s₁'))
    (h' : (a.run us).run s₂ = (.ok (outputs', trace'), s₂'))
    (h'' : (a.run (ts ++ us)).run s = (.ok (outputs'', trace''), s')) :
    trace''.matched = trace.matched.union trace'.matched := by
  obtain ⟨_, hsorted, hnames⟩ := trace_of_run h
  obtain ⟨_, hsorted', hnames'⟩ := trace_of_run h'
  obtain ⟨_, hsorted'', hnames''⟩ := trace_of_run h''
  have hnames : ∀ name, name ∈ trace''.matched.names ↔
      name ∈ trace.matched.names ∨ name ∈ trace'.matched.names := by
    intro name
    rw [hnames'', hnames, hnames', List.flatMap_append, List.flatMap_append]
    simp only [List.mem_append, or_and_right, exists_or]
  refine Table.eq_of_find? hsorted'' (Table.union_sorted hsorted _) fun name => ?_
  rw [Table.find?_union _ hsorted', find?_eq_ite_of_run h, find?_eq_ite_of_run h',
    find?_eq_ite_of_run h'']
  by_cases hmem : name ∈ trace.matched.names
  · by_cases hmem' : name ∈ trace'.matched.names <;> simp [hnames, hmem, hmem']
  · by_cases hmem' : name ∈ trace'.matched.names <;> simp [hnames, hmem, hmem']

/-- **What is left of all texts** is what is left of some, and then what is left of the
others. -/
theorem outputs_append (ha : a.ConversionFree)
    (h : (a.run ts).run s₁ = (.ok (outputs, trace), s₁'))
    (h' : (a.run us).run s₂ = (.ok (outputs', trace'), s₂'))
    (h'' : (a.run (ts ++ us)).run s = (.ok (outputs'', trace''), s')) :
    outputs'' = outputs ++ outputs' := by
  obtain ⟨_, results, _, hresults, rfl⟩ := exists_remnants_of_run h
  obtain ⟨_, results', _, hresults', rfl⟩ := exists_remnants_of_run h'
  obtain ⟨_, results'', _, hresults'', rfl⟩ := exists_remnants_of_run h''
  rw [List.flatMap_append] at hresults''
  rw [eq_append_of_mapM_recordRemnant ha (congrArg Prod.fst hresults)
    (congrArg Prod.fst hresults') (congrArg Prod.fst hresults''), List.filter_append]

/-- **The trace of all texts** is put together from the traces of some and of the others. -/
theorem trace_append (ha : a.ConversionFree)
    (h : (a.run ts).run s₁ = (.ok (outputs, trace), s₁'))
    (h' : (a.run us).run s₂ = (.ok (outputs', trace'), s₂'))
    (h'' : (a.run (ts ++ us)).run s = (.ok (outputs'', trace''), s')) :
    trace'' =
      { filter := a.filter.name
        inputs := trace.inputs + trace'.inputs
        outputs := trace.outputs + trace'.outputs
        matched := trace.matched.union trace'.matched } := by
  have houtputs := outputs_append ha h h' h''
  have hmatched := matched_append h h' h''
  obtain ⟨_, _, _, _, _, rfl⟩ := exists_of_run h
  obtain ⟨_, _, _, _, _, rfl⟩ := exists_of_run h'
  obtain ⟨_, _, _, _, _, rfl⟩ := exists_of_run h''
  rw [← hmatched, houtputs, List.flatMap_append, List.length_append, List.length_append]

end Runs
end Application

/-! ## Two lists of texts -/

namespace Filter

/-- **Records are filtered independently.**  A filter that asks for no conversion fails on some
texts and more texts as it does on the first, or else on the others.  If it succeeds on both, it
leaves of all what it leaves of the first and then what it leaves of the others; the records are
counted together, and the tables of the two traces agree and are put together. -/
theorem run_append {f : Filter} {ps : Params} {rules : ReadyRules} (hf : f.compile ps = .ok rules)
    (hplain : (f.rules ps).usesHook = false) (ts us : List Text) (s s₁ s₂ : Run) :
    (((f.run ps (ts ++ us)).run s).1 = do
      let (outputs, trace) ← ((f.run ps ts).run s₁).1
      let (outputs', trace') ← ((f.run ps us).run s₂).1
      return (outputs ++ outputs',
        { filter := f.name
          inputs := trace.inputs + trace'.inputs
          outputs := trace.outputs + trace'.outputs
          matched := trace.matched.union trace'.matched })) ∧
      ∀ outputs trace outputs' trace', ((f.run ps ts).run s₁).1 = .ok (outputs, trace) →
        ((f.run ps us).run s₂).1 = .ok (outputs', trace') →
        trace.matched.Agrees trace'.matched := by
  have ha := conversionFree_of_compile hf hplain
  have hstop := Application.run_of_conversionFree ha ts
  have hstop' := Application.run_of_conversionFree ha us
  have hstop'' := Application.run_of_conversionFree ha (ts ++ us)
  rw [List.flatMap_append, List.findSome?_append] at hstop''
  rw [run_of_compile hf, run_of_compile hf, run_of_compile hf]
  refine ⟨?_, fun outputs trace outputs' trace' h h' =>
    Application.agrees_of_run (Prod.ext h rfl) (Prod.ext h' rfl)⟩
  -- a filter fails on the first stray line: it stands in the first texts, or else in the others
  cases hstray : (ts.flatMap records).findSome? Record.illegible? with
  | some l =>
    rw [hstray] at hstop hstop''
    rw [hstop s₁, hstop'' s]
    rfl
  | none =>
    rw [hstray] at hstop hstop''
    obtain ⟨⟨outputs, trace⟩, h⟩ := hstop s₁
    rw [h]
    cases hstray' : (us.flatMap records).findSome? Record.illegible? with
    | some l =>
      rw [hstray'] at hstop' hstop''
      rw [hstop' s₂, hstop'' s]
      rfl
    | none =>
      rw [hstray'] at hstop' hstop''
      obtain ⟨⟨outputs', trace'⟩, h'⟩ := hstop' s₂
      obtain ⟨⟨outputs'', trace''⟩, h''⟩ := hstop'' s
      rw [h', h'']
      rw [Application.outputs_append ha (Prod.ext h rfl) (Prod.ext h' rfl) (Prod.ext h'' rfl),
        Application.trace_append ha (Prod.ext h rfl) (Prod.ext h' rfl) (Prod.ext h'' rfl)]
      rfl

/-- A filter that looks at references, keeps individuals and their births, and says of births of
which nothing is told that they happened. -/
def births : Filter where
  name := "Births"
  rules _ := .ofList [("INDI", []), ("INDI:BIRT", [Catalog.happened "1 BIRT"])]
  usesReferences := true

/-- The births of two individuals are filtered one by one, and a line that cannot be read behind
the first one stops the filter as it does by itself. -/
theorem run_append_births :
    let ts := ["0 @I1@ INDI\n1 BIRT\n1 NOTE Ada\n0 @N1@ NOTE lost\n".toList]
    let us := ["0 @I2@ INDI\n1 BIRT\n2 PLAC Paris\n".toList, "0 TRLR\n".toList]
    let stray := ["0 HEAD\n1 @\n".toList]
    (births.compile {}).toOption.isSome = true ∧ (births.rules {}).usesHook = false ∧
      ((births.run {} (ts ++ us)).run {}).1 = .ok
        (["0 @I1@ INDI\n1 BIRT Y\n".toList, "0 @I2@ INDI\n1 BIRT Y\n".toList],
          { filter := "Births", inputs := 4, outputs := 2
            matched := ⟨[("INDI", some "INDI"), ("INDI:BIRT", some "INDI:BIRT"),
              ("INDI:BIRT:PLAC", none), ("INDI:NOTE", none), ("NOTE", none), ("TRLR", none)]⟩ }) ∧
      ((births.run {} (ts ++ stray)).run {}).1 = .error (.malformed "1 @".toList) := by
  intro ts us stray
  have hcompile : (births.compile {}).toOption.isSome = true := by decide +kernel
  have hplain : (births.rules {}).usesHook = false := by decide +kernel
  obtain ⟨rules, hrules⟩ := Option.isSome_iff_exists.mp hcompile
  have hf : births.compile {} = .ok rules := eq_ok_of_toOption hrules
  have hts : ((births.run {} ts).run {}).1 = .ok (["0 @I1@ INDI\n1 BIRT Y\n".toList],
      { filter := "Births", inputs := 2, outputs := 1
        matched := ⟨[("INDI", some "INDI"), ("INDI:BIRT", some "INDI:BIRT"), ("INDI:NOTE", none),
          ("NOTE", none)]⟩ }) :=
    eq_ok_of_toOption (by decide +kernel)
  have hus : ((births.run {} us).run {}).1 = .ok (["0 @I2@ INDI\n1 BIRT Y\n".toList],
      { filter := "Births", inputs := 2, outputs := 1
        matched := ⟨[("INDI", some "INDI"), ("INDI:BIRT", some "INDI:BIRT"),
          ("INDI:BIRT:PLAC", none), ("TRLR", none)]⟩ }) :=
    eq_ok_of_toOption (by decide +kernel)
  have hstray : ((births.run {} stray).run {}).1 = .error (.malformed "1 @".toList) :=
    error?_eq_some.mp (by decide +kernel)
  refine ⟨hcompile, hplain, ?_, ?_⟩
  · rw [(run_append hf hplain ts us {} {} {}).1, hts, hus]
    exact eq_ok_of_toOption (by decide +kernel)
  · rw [(run_append hf hplain ts stray {} {} {}).1, hts, hstray]
    rfl

end Filter
end Gedcom
