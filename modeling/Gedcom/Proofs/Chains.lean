import Gedcom.Filter.Catalog
import Gedcom.Proofs.Compilation
import Gedcom.Proofs.Traversal

/-!
# Chains of filters

A chain makes all of its filters ready before it applies the first one.  So a filter that
cannot be made ready stops the chain before anything is looked at: no record is read and no
hook is called.

`run_chain` says this, and what a chain does otherwise: it applies its filters one after the
other, each to what the one before it left (`applyEach`).  Only here is it told without the
preparation.  The chain itself goes through ready filters in two ways, with traces (`runAll`)
and without (`runEach`), and both are the same as applying the filters each on its own.
-/
namespace Gedcom

namespace Chain

/-- The filters of a chain that are present, in order. -/
def present (fs : List (Option Filter)) : List Filter := fs.filterMap id

/-- Apply one more filter to what is left, and put its trace to the others. -/
def applyNext (ps : Params) (sofar : List Text × List FilterTrace) (f : Filter) :
    RunM (List Text × List FilterTrace) := do
  let (ts, trace) ← f.run ps sofar.1
  return (ts, sofar.2 ++ [trace])

/-- Apply filters one after the other, each of them on its own. -/
def applyEach (ps : Params) (fs : List Filter) (ts : List Text) :
    RunM (List Text × List FilterTrace) :=
  fs.foldlM (applyNext ps) (ts, [])

/-- The trace of a chain, from the traces of its filters. -/
def traceOf (fs : List Filter) (traces : List FilterTrace) : ChainTrace where
  filters := traces
  usesSchema := fs.any (·.usesSchema)
  wrapsTightly := fs.any (·.wrapsTightly)

variable {ps : Params} {fs : List Filter} {as : List Application}

/-! ## Making a chain ready -/

/-- An application is that of a filter with its rules ready. -/
def Prepared (ps : Params) (f : Filter) (a : Application) : Prop :=
  (fun rules => (⟨f, rules, ps⟩ : Application)) <$> f.compile ps = .ok a

theorem Prepared.filter_eq {f : Filter} {a : Application} (h : Prepared ps f a) :
    a.filter = f := by
  obtain ⟨rules, _, rfl⟩ := map_eq_ok.mp h
  rfl

/-- A filter with its rules ready is applied as the filter is on its own. -/
theorem Prepared.run_eq {f : Filter} {a : Application} (h : Prepared ps f a) (ts : List Text) :
    f.run ps ts = a.run ts := by
  obtain ⟨rules, hrules, rfl⟩ := map_eq_ok.mp h
  exact Filter.run_of_compile hrules ts

/-- The first filter that cannot be made ready tells why the chain cannot. -/
theorem error?_compile (ps : Params) (fs : List (Option Filter)) :
    error? (compile ps fs) = (present fs).findSome? fun f => error? (f.compile ps) := by
  rw [compile, error?_mapM, present]
  congr 1
  funext f
  cases f.compile ps <;> rfl

/-! ## Going through a chain -/

/-- **With traces**, ready filters do what the filters do each on its own. -/
theorem runAll_eq (has : List.Forall₂ (Prepared ps) fs as) (trace : ChainTrace) (ts : List Text) :
    runAll as trace ts =
      (fun left => (left.1,
        { filters := left.2
          usesSchema := trace.usesSchema || fs.any (·.usesSchema)
          wrapsTightly := trace.wrapsTightly || fs.any (·.wrapsTightly) })) <$>
        fs.foldlM (applyNext ps) (ts, trace.filters) := by
  induction has generalizing trace ts with
  | nil => simp [runAll]
  | @cons f a fs as ha _ ih =>
    simp only [runAll, List.foldlM_cons, applyNext, ha.run_eq, bind_assoc, pure_bind, map_bind, ih,
      ha.filter_eq, List.any_cons, Bool.or_assoc]

/-- **Without traces**, ready filters do the same. -/
theorem runEach_eq (has : List.Forall₂ (Prepared ps) fs as) (ts : List Text)
    (traces : List FilterTrace) :
    runEach as ts = (·.1) <$> fs.foldlM (applyNext ps) (ts, traces) := by
  induction has generalizing ts traces with
  | nil => simp [runEach]
  | @cons f a fs as ha _ ih =>
    simp only [runEach, List.foldlM_cons, applyNext, ha.run_eq, bind_assoc, pure_bind, map_bind]
    refine congrArg (a.run ts >>= ·) (funext fun left => ?_)
    exact ih left.1 (traces ++ [left.2])

/-- The first filter whose application fails is the last one that is applied. -/
theorem run_applyEach_of_error {before after : List Filter} {f : Filter} {ts us : List Text}
    {traces : List FilterTrace} {s s₁ s₂ : Run} {e : Fault}
    (hbefore : (applyEach ps before ts).run s = (.ok (us, traces), s₁))
    (hf : (f.run ps us).run s₁ = (.error e, s₂)) :
    (applyEach ps (before ++ f :: after) ts).run s = (.error e, s₂) := by
  have hnext : (applyNext ps (us, traces) f).run s₁ = (.error e, s₂) :=
    RunM.run_bind_of_error hf _
  rw [applyEach] at hbefore ⊢
  rw [List.foldlM_append, RunM.run_bind_of_ok hbefore, List.foldlM_cons,
    RunM.run_bind_of_error hnext]

/-- **What a chain does.**  If some filter that is present cannot be made ready, the chain fails
as the first such filter does, and nothing has been done.  Otherwise it applies the filters that
are present one after the other; if one of them fails, the chain fails with it at this point.
Going through a chain with traces and without is the same, and the trace of a chain has the
traces of its filters and what any of them asks of the host. -/
theorem run_chain (ps : Params) (fs : List (Option Filter)) (ts : List Text) :
    match (present fs).findSome? fun f => error? (f.compile ps) with
    | some e =>
      ∀ s : Run, (run ps fs ts).run s = (.error e, s) ∧ (runTraced ps fs ts).run s = (.error e, s)
    | none =>
      run ps fs ts = (·.1) <$> applyEach ps (present fs) ts ∧
        runTraced ps fs ts =
          (fun left => (left.1, traceOf (present fs) left.2)) <$> applyEach ps (present fs) ts ∧
        ∀ before f after us traces s s₁ s₂ e, present fs = before ++ f :: after →
          (applyEach ps before ts).run s = (.ok (us, traces), s₁) →
          (f.run ps us).run s₁ = (.error e, s₂) →
          (run ps fs ts).run s = (.error e, s₂) ∧ (runTraced ps fs ts).run s = (.error e, s₂) := by
  have herror := error?_compile ps fs
  cases hcompile : compile ps fs with
  | error e =>
    rw [hcompile] at herror
    rw [← herror]
    intro s
    rw [run, runTraced, hcompile]
    exact ⟨rfl, rfl⟩
  | ok as =>
    rw [hcompile] at herror
    rw [← herror]
    have has : List.Forall₂ (Prepared ps) (present fs) as := mapM_eq_ok.mp hcompile
    have hrun : run ps fs ts = (·.1) <$> applyEach ps (present fs) ts := by
      rw [run, hcompile, RunM.ofExcept_ok, pure_bind]
      exact runEach_eq has ts []
    have htraced : runTraced ps fs ts =
        (fun left => (left.1, traceOf (present fs) left.2)) <$> applyEach ps (present fs) ts := by
      rw [runTraced, hcompile, RunM.ofExcept_ok, pure_bind, runAll_eq has]
      simp only [Bool.false_or, applyEach, traceOf]
    refine ⟨hrun, htraced, ?_⟩
    intro before f after us traces s s₁ s₂ e hpresent hbefore hf
    have hfails : (applyEach ps (present fs) ts).run s = (.error e, s₂) := by
      rw [hpresent]
      exact run_applyEach_of_error hbefore hf
    rw [hrun, htraced]
    exact ⟨RunM.run_map_of_error hfails _, RunM.run_map_of_error hfails _⟩

/-- A filter that hands every record to a hook, which takes none. -/
def refusing : Filter where
  name := "Refusing"
  rules _ := .ofList [("*", [.convert])]
  hook := some fun pattern _ _ _ => .error (.conversion "Refusing" pattern "refused")

/-- A filter with a rule that an earlier one dominates. -/
def clashing : Filter where
  name := "Clashing"
  rules _ := .ofPatterns ["INDI:*", "INDI:BIRT:DATE"]

/-- A hook is not called if a later filter cannot be made ready.  Behind a filter that succeeds
it is called once. -/
theorem run_chain_refusing :
    let ts := ["0 HEAD\n0 TRLR\n".toList]
    let refused := (run {} [some Catalog.allRecords, none, some refusing] ts).run {}
    (run {} [some refusing, some clashing] ts).run {} =
        (.error (.dominated "Clashing" "INDI:BIRT:DATE" "INDI:*"), {}) ∧
      refused.1 = .error (.conversion "Refusing" "*" "refused") ∧
      refused.2.conversions = [⟨"Refusing", "*", "0 HEAD\n".toList⟩] := by
  intro ts refused
  have hclash := run_chain {} [some refusing, some clashing] ts
  have hdominated : ((present [some refusing, some clashing]).findSome? fun f =>
      error? (f.compile {})) = some (.dominated "Clashing" "INDI:BIRT:DATE" "INDI:*") := by
    decide
  rw [hdominated] at hclash
  have hrefuse := run_chain {} [some Catalog.allRecords, none, some refusing] ts
  have hready : ((present [some Catalog.allRecords, none, some refusing]).findSome? fun f =>
      error? (f.compile {})) = none := by
    decide
  rw [hready] at hrefuse
  -- the first filter leaves both records, and the second one stops at the first of them
  let first := (applyEach {} [Catalog.allRecords] ts).run {}
  have hleft : first.1 = .ok (["0 HEAD\n".toList, "0 TRLR\n".toList],
      [{ filter := "AllRecords", inputs := 2, outputs := 2,
         matched := ⟨[("HEAD", some "*"), ("TRLR", some "*")]⟩ }]) :=
    eq_ok_of_toOption (by decide +kernel)
  let second := (refusing.run {} ["0 HEAD\n".toList, "0 TRLR\n".toList]).run first.2
  have hrefused : second.1 = .error (.conversion "Refusing" "*" "refused") :=
    error?_eq_some.mp (by decide +kernel)
  have hcalls : second.2.conversions = [⟨"Refusing", "*", "0 HEAD\n".toList⟩] := by
    decide +kernel
  have hrun := hrefuse.2.2 [Catalog.allRecords] refusing [] _ _ {} first.2 second.2 _ rfl
    (Prod.ext hleft rfl) (Prod.ext hrefused rfl)
  have hstate : refused = (.error (.conversion "Refusing" "*" "refused"), second.2) := hrun.1
  rw [hstate]
  exact ⟨(hclash {}).1, rfl, hcalls⟩

end Chain
end Gedcom
