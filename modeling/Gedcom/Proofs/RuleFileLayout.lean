import Gedcom.Proofs.RuleFileLines
import Mathlib.Data.List.Perm.Basic
import Mathlib.Data.List.Nodup

/-!
# Every expressible rule file can be written

A rule file is written section by section: its name, its settings, its inclusions, its macros
and its rules.  `Composes` says which sections write a file, and `Transcribes` which lines
write their statements; both leave the order of the sections open, but for what the file
itself orders.

The sections are read one after the other.  `Fits` says that nothing in the sections that are
still to come is in the draft already; this is kept by every section (`Fits.add`), and so a
file is found again from whatever lines it is written in (`ofText_joinLines`).
-/
namespace Gedcom

theorem filterMap_cons_toList {α β : Type} (f : α → Option β) (a : α) (as : List α) :
    (a :: as).filterMap f = (f a).toList ++ as.filterMap f := by
  rw [List.filterMap_cons]
  cases f a <;> rfl

namespace Table
variable {α : Type}

/-- The last value that is given to a name counts. -/
theorem insert_insert (t : Table α) (name : String) (v w : α) :
    (t.insert name v).insert name w = t.insert name w := by
  obtain ⟨es⟩ := t
  simp only [insert, mk.injEq]
  induction es with
  | nil => simp [insertEntry]
  | cons e es ih =>
    obtain ⟨n, u⟩ := e
    by_cases hlt : name < n
    · simp [insertEntry, hlt]
    · by_cases heq : name = n
      · simp [insertEntry, heq]
      · simp only [insertEntry, hlt, heq, if_false, ih]

/-- A new name is added. -/
theorem perm_insert {t : Table α} {name : String} (h : t.find? name = none) (v : α) :
    (t.insert name v).entries.Perm ((name, v) :: t.entries) := by
  obtain ⟨es⟩ := t
  simp only [insert, find?] at h ⊢
  induction es with
  | nil => exact .refl _
  | cons e es ih =>
    obtain ⟨n, u⟩ := e
    rw [lookup_entry] at h
    by_cases heq : name = n
    · rw [if_pos heq] at h
      cases h
    · rw [if_neg heq] at h
      by_cases hlt : name < n
      · simp [insertEntry, hlt]
      · simp only [insertEntry, hlt, heq, if_false]
        exact ((ih h).cons _).trans (.swap _ _ _)

/-- A table is its names and their values. -/
theorem eq_of_perm {t u : Table α} (ht : t.Sorted) (hu : u.Sorted)
    (h : t.entries.Perm u.entries) : t = u := by
  obtain ⟨es⟩ := t
  obtain ⟨fs⟩ := u
  have heq : es = fs := h.eq_of_pairwise
    (fun a b _ _ hab hba => absurd (String.lt_trans hab hba) (String.lt_irrefl _)) ht hu
  rw [heq]

end Table

namespace RuleSet

/-- The last operations that are given to a pattern count. -/
theorem insert_insert (s : RuleSet) (pattern : String) (ops ops' : List Op) :
    (s.insert pattern ops).insert pattern ops' = s.insert pattern ops' := by
  obtain ⟨rs⟩ := s
  simp only [insert, mk.injEq]
  induction rs with
  | nil => simp [insertRule]
  | cons r rs ih =>
    by_cases h : r.pattern = pattern
    · simp [insertRule, h]
    · simp only [insertRule, h, if_false, ih]

/-- A new pattern is added at the end. -/
theorem insert_of_find?_eq_none {s : RuleSet} {pattern : String} (h : s.find? pattern = none)
    (ops : List Op) : s.insert pattern ops = ⟨s.rules ++ [⟨pattern, ops⟩]⟩ := by
  obtain ⟨rs⟩ := s
  simp only [insert, find?, mk.injEq] at h ⊢
  induction rs with
  | nil => rfl
  | cons r rs ih =>
    obtain ⟨hr, hrs⟩ := List.forall_mem_cons.mp (List.find?_eq_none.mp h)
    have hne : r.pattern ≠ pattern := fun he => hr (beq_iff_eq.mpr he)
    simp only [insertRule, hne, if_false, List.cons_append]
    rw [ih (List.find?_eq_none.mpr hrs)]

theorem find?_insert_self (s : RuleSet) (pattern : String) (ops : List Op) :
    (s.insert pattern ops).find? pattern = some ⟨pattern, ops⟩ := by
  obtain ⟨rs⟩ := s
  simp only [insert, find?]
  induction rs with
  | nil => simp [insertRule]
  | cons r rs ih =>
    by_cases h : r.pattern = pattern
    · simp [insertRule, h]
    · simp [insertRule, h, ih]

end RuleSet

namespace RuleFile

/-! ## Sections -/

/-- A part of a rule file that begins with a statement of its own. -/
inductive Section
  /-- The name of the filter. -/
  | named (name : String)
  /-- Some settings. -/
  | settings (given : List Setting)
  /-- A filter to run before. -/
  | before (name : String)
  /-- A filter to run after. -/
  | after (name : String)
  /-- A macro and its substitutions. -/
  | ofMacro (name : String) (body : List Substitution)
  /-- A rule and its operations. -/
  | ofRule (r : Rule)
deriving DecidableEq, Repr

/-- Whether a file asks for a setting. -/
def Body.asks (b : Body) : Setting → Bool
  | .references => b.usesReferences
  | .noSchema => !b.usesSchema
  | .wrapsTightly => b.wrapsTightly

namespace Section

/-- The statements of a section. -/
def statements : Section → List Statement
  | named name => [.filter name]
  | settings given => [.settings given]
  | before name => [.before name]
  | after name => [.after name]
  | ofMacro name body => .openMacro name :: body.map fun s => .operation (.substitute s)
  | ofRule r => .openRule r.pattern :: r.ops.map .operation

/-- The name that a section gives to the filter. -/
def name? : Section → Option String
  | named name => some name
  | _ => none

/-- The settings that a section asks for. -/
def given : Section → List Setting
  | settings given => given
  | _ => []

/-- The filter that a section has run before. -/
def before? : Section → Option String
  | before name => some name
  | _ => none

/-- The filter that a section has run after. -/
def after? : Section → Option String
  | after name => some name
  | _ => none

/-- The macro of a section. -/
def macroEntry? : Section → Option (String × List Substitution)
  | ofMacro name body => some (name, body)
  | _ => none

/-- The rule of a section. -/
def rule? : Section → Option Rule
  | ofRule r => some r
  | _ => none

end Section

/-- Some sections write a file: they name it once, ask for its settings, have its inclusions and
its rules in their order, and its macros in any order. -/
structure Composes (f : RuleFile) (ss : List Section) : Prop where
  named : ss.filterMap Section.name? = [f.name]
  settings : ∀ g, g ∈ ss.flatMap Section.given ↔ f.asks g = true
  before : ss.filterMap Section.before? = f.before
  after : ss.filterMap Section.after? = f.after
  macros : (ss.filterMap Section.macroEntry?).Perm f.macros.entries
  rules : ss.filterMap Section.rule? = f.rules.rules

/-- Some lines write some statements, with silent lines anywhere between them. -/
inductive Transcribes : List Statement → List Text → Prop
  | nil : Transcribes [] []
  | silent {ss : List Statement} {l : Text} {ls : List Text} (hl : IsSilent l)
      (h : Transcribes ss ls) : Transcribes ss (l :: ls)
  | statement {s : Statement} {ss : List Statement} {l : Text} {ls : List Text} (hl : Writes s l)
      (h : Transcribes ss ls) : Transcribes (s :: ss) (l :: ls)

/-- What a rule file can express: every name is a word, no two rules have one pattern, no
operation asks for a hook, and every search stays on one line.  The macros of a file stand in
the order of their names. -/
structure Expressible (f : RuleFile) : Prop where
  name : IsName f.name
  before : ∀ name ∈ f.before, IsName name
  after : ∀ name ∈ f.after, IsName name
  macros : ∀ m ∈ f.macros.entries, IsName m.1 ∧ ∀ s ∈ m.2, IsWritable (.substitute s)
  sorted : f.macros.Sorted
  rules : ∀ r ∈ f.rules.rules, IsName r.pattern ∧ ∀ op ∈ r.ops, IsWritable op
  patterns : f.rules.patterns.Nodup

/-! ## Lines and statements -/

/-- Lines that write statements are read as these are accepted. -/
theorem readLines_of_transcribes {ss : List Statement} {ls : List Text} (h : Transcribes ss ls)
    (hss : ∀ s ∈ ss, s.IsWritable) {d d' : Draft} (haccept : ss.foldlM Draft.accept d = .ok d')
    (number : Nat) : d.readLines number ls = .ok d' := by
  induction h generalizing d number with
  | nil =>
    obtain rfl : d = d' := Except.ok.inj haccept
    rfl
  | silent hl _ ih =>
    have hline : d.readLine _ = .ok d := bind_eq_ok.mpr ⟨none, ofLine?_of_isSilent hl, rfl⟩
    rw [Draft.readLines, hline]
    exact ih hss haccept _
  | @statement s _ l _ hl _ ih =>
    obtain ⟨hs, hrest⟩ := List.forall_mem_cons.mp hss
    obtain ⟨d₁, hd₁, hd'⟩ := bind_eq_ok.mp haccept
    have hline : d.readLine l = .ok d₁ :=
      bind_eq_ok.mpr ⟨some s, ofLine?_of_writes hl hs, hd₁⟩
    rw [Draft.readLines, hline]
    exact ih hrest hd' _

theorem Transcribes.newline_notMem {ss : List Statement} {ls : List Text} (h : Transcribes ss ls)
    (hss : ∀ s ∈ ss, s.IsWritable) : ∀ l ∈ ls, '\n' ∉ l := by
  induction h with
  | nil => exact List.forall_mem_nil _
  | silent hl _ ih => exact List.forall_mem_cons.mpr ⟨hl.newline_notMem, ih hss⟩
  | statement hl _ ih =>
    obtain ⟨hs, hrest⟩ := List.forall_mem_cons.mp hss
    exact List.forall_mem_cons.mpr ⟨hl.newline_notMem hs, ih hrest⟩

theorem Transcribes.ne_nil {s : Statement} {ss : List Statement} {ls : List Text}
    (h : Transcribes ss ls) (hs : s ∈ ss) : ls ≠ [] := by
  cases h with
  | nil => cases hs
  | silent _ _ => exact List.cons_ne_nil _ _
  | statement _ _ => exact List.cons_ne_nil _ _

/-- An empty last line makes no difference. -/
theorem readLines_concat_nil (d : Draft) (number : Nat) (ls : List Text) :
    d.readLines number (ls ++ [[]]) = d.readLines number ls := by
  induction ls generalizing d number with
  | nil => rfl
  | cons l ls ih =>
    rw [List.cons_append, Draft.readLines, Draft.readLines]
    cases d.readLine l with
    | error p => rfl
    | ok d => exact ih d _

theorem readLines_linesOf {ls : List Text} (hne : ls ≠ []) (h : ∀ l ∈ ls, '\n' ∉ l) (d : Draft)
    (number : Nat) :
    d.readLines number (linesOf (Text.joinLines ls)) = d.readLines number ls := by
  rw [linesOf, Text.lines_joinLines hne h]
  split
  · rename_i hlast
    have hls : ls.dropLast ++ [[]] = ls := List.dropLast_append_getLast? [] hlast
    rw [← readLines_concat_nil, hls]
  · rfl

/-! ## Sections and drafts -/

namespace Draft

/-- A draft with one more section, whatever the draft has already. -/
def add (d : Draft) : Section → Draft
  | .named name => { d with name? := some name, block := .outside }
  | .settings given => { given.foldl set d with block := .outside }
  | .before name => { d with before := d.before ++ [name], block := .outside }
  | .after name => { d with after := d.after ++ [name], block := .outside }
  | .ofMacro name body => { d with macros := d.macros.insert name body, block := .ofMacro name }
  | .ofRule r => { d with rules := ⟨d.rules.rules ++ [r]⟩, block := .ofRule r.pattern }

/-- Nothing in some sections is in a draft already, or in two of them. -/
structure Fits (d : Draft) (ss : List Section) : Prop where
  name : (d.name?.toList ++ ss.filterMap Section.name?).length ≤ 1
  macros : ∀ m ∈ ss.filterMap Section.macroEntry?, d.macros.find? m.1 = none
  distinctMacros : ((ss.filterMap Section.macroEntry?).map (·.1)).Nodup
  rules : ∀ r ∈ ss.filterMap Section.rule?, d.rules.find? r.pattern = none
  distinctRules : ((ss.filterMap Section.rule?).map (·.pattern)).Nodup

/-- The substitutions of an open macro are added to those that it has. -/
theorem foldlM_accept_ofMacro (d : Draft) (name : String) (done body : List Substitution) :
    (body.map fun s => Statement.operation (.substitute s)).foldlM accept
        { d with macros := d.macros.insert name done, block := .ofMacro name } =
      .ok { d with macros := d.macros.insert name (done ++ body), block := .ofMacro name } := by
  induction body generalizing done with
  | nil => rw [List.append_nil]; rfl
  | cons s body ih =>
    rw [List.map_cons, List.foldlM_cons, accept, attach]
    simp only [Table.find?_insert, if_pos, Table.insert_insert, Option.getD_some]
    have hstep := ih (done ++ [s])
    rw [List.append_assoc, List.singleton_append] at hstep
    exact hstep

/-- The operations of an open rule are added to those that it has. -/
theorem foldlM_accept_ofRule (d : Draft) (pattern : String) (done ops : List Op)
    (hops : ∀ op ∈ ops, op ≠ .convert) :
    (ops.map Statement.operation).foldlM accept
        { d with rules := d.rules.insert pattern done, block := .ofRule pattern } =
      .ok { d with rules := d.rules.insert pattern (done ++ ops), block := .ofRule pattern } := by
  induction ops generalizing done with
  | nil => rw [List.append_nil]; rfl
  | cons op ops ih =>
    obtain ⟨hop, hops⟩ := List.forall_mem_cons.mp hops
    rw [List.map_cons, List.foldlM_cons, accept, attach]
    simp only [RuleSet.find?_insert_self, RuleSet.insert_insert, if_neg hop, Option.map_some,
      Option.getD_some]
    have hstep := ih (done ++ [op]) hops
    rw [List.append_assoc, List.singleton_append] at hstep
    exact hstep

theorem ne_convert_of_isWritable {op : Op} (h : IsWritable op) : op ≠ .convert := by
  rintro rfl
  exact h

/-- **A section that fits is accepted**, statement by statement. -/
theorem foldlM_accept_statements {d : Draft} {s : Section} {ss : List Section}
    (hfits : d.Fits (s :: ss)) (hs : ∀ t ∈ s.statements, t.IsWritable) :
    s.statements.foldlM accept d = .ok (d.add s) := by
  cases s with
  | named name =>
    have hname : d.name? = none := by
      have hlength := hfits.name
      cases hd : d.name? with
      | none => rfl
      | some other =>
        rw [hd] at hlength
        simp [Section.name?] at hlength
    show accept d (.filter name) >>= pure = _
    rw [accept, hname]
    rfl
  | settings given => rfl
  | before name => rfl
  | after name => rfl
  | ofMacro name body =>
    have hnew : d.macros.find? name = none := hfits.macros (name, body) List.mem_cons_self
    show accept d (.openMacro name) >>= _ = _
    rw [accept, if_neg (by rw [Table.contains, hnew]; exact Bool.false_ne_true)]
    exact foldlM_accept_ofMacro d name [] body
  | ofRule r =>
    have hnew : d.rules.find? r.pattern = none := hfits.rules r List.mem_cons_self
    have hops : ∀ op ∈ r.ops, op ≠ .convert := fun op hop =>
      ne_convert_of_isWritable
        (hs (.operation op) (List.mem_cons_of_mem _ (List.mem_map_of_mem hop)))
    show accept d (.openRule r.pattern) >>= _ = _
    rw [accept, if_neg (by rw [hnew]; exact Bool.false_ne_true)]
    have hrule := foldlM_accept_ofRule d r.pattern [] r.ops hops
    rw [List.nil_append, RuleSet.insert_of_find?_eq_none hnew r.ops] at hrule
    exact hrule

/-- Settings change nothing but what they ask for. -/
theorem foldl_set (d : Draft) (given : List Setting) :
    given.foldl set d =
      { d with
        usesReferences := d.usesReferences || decide (.references ∈ given)
        usesSchema := d.usesSchema && !decide (.noSchema ∈ given)
        wrapsTightly := d.wrapsTightly || decide (.wrapsTightly ∈ given) } := by
  induction given generalizing d with
  | nil => simp
  | cons g given ih =>
    rw [List.foldl_cons, ih]
    cases g <;> simp [set]

theorem name?_add (d : Draft) (s : Section) : (d.add s).name? = s.name?.or d.name? := by
  cases s <;> simp [add, Section.name?, foldl_set]

theorem rules_add (d : Draft) (s : Section) :
    (d.add s).rules.rules = d.rules.rules ++ s.rule?.toList := by
  cases s <;> simp [add, Section.rule?, foldl_set]

theorem before_add (d : Draft) (s : Section) :
    (d.add s).before = d.before ++ s.before?.toList := by
  cases s <;> simp [add, Section.before?, foldl_set]

theorem after_add (d : Draft) (s : Section) : (d.add s).after = d.after ++ s.after?.toList := by
  cases s <;> simp [add, Section.after?, foldl_set]

theorem macros_add (d : Draft) (s : Section) :
    (d.add s).macros = s.macroEntry?.elim d.macros fun m => d.macros.insert m.1 m.2 := by
  cases s <;> simp [add, Section.macroEntry?, foldl_set]

theorem asks_add (d : Draft) (s : Section) (g : Setting) :
    (d.add s).asks g = (d.asks g || decide (g ∈ s.given)) := by
  cases s with
  | settings given =>
    show (given.foldl set d).asks g = _
    rw [foldl_set]
    cases g
    · rfl
    · show (!(d.usesSchema && !decide (.noSchema ∈ given))) = _
      rw [Bool.not_and, Bool.not_not]
      rfl
    · rfl
  | _ => cases g <;> simp [add, Section.given, Body.asks]

/-- What is still to come fits after a section, too. -/
theorem Fits.add {d : Draft} {s : Section} {ss : List Section} (h : d.Fits (s :: ss)) :
    (d.add s).Fits ss := by
  obtain ⟨hname, hmacros, hdistinct, hrules, hpatterns⟩ := h
  simp only [filterMap_cons_toList, List.map_append, List.mem_append]
    at hname hmacros hdistinct hrules hpatterns
  -- what the section adds to the draft has other names than all that comes after it
  refine ⟨?_, fun m hm => ?_, (List.nodup_append.mp hdistinct).2.1, fun r hr => ?_,
    (List.nodup_append.mp hpatterns).2.1⟩
  · rw [name?_add]
    cases hs : s.name? with
    | none => simpa [hs] using hname
    | some name =>
      rw [hs] at hname
      simp only [List.length_append, Option.toList_some, List.length_singleton,
        Option.some_or] at hname ⊢
      omega
  · have hold := hmacros m (.inr hm)
    rw [macros_add]
    cases hs : s.macroEntry? with
    | none => exact hold
    | some e =>
      have hne : m.1 ≠ e.1 := by
        rw [hs] at hdistinct
        exact ((List.nodup_append.mp hdistinct).2.2 e.1 List.mem_cons_self m.1
          (List.mem_map_of_mem hm)).symm
      rw [Option.elim_some, Table.find?_insert, if_neg hne]
      exact hold
  · have hold := hrules r (.inr hr)
    rw [RuleSet.find?, rules_add, List.find?_append]
    rw [RuleSet.find?] at hold
    rw [hold, Option.none_or, List.find?_eq_none]
    intro q hq hqr
    cases hs : s.rule? with
    | none =>
      rw [hs] at hq
      cases hq
    | some e =>
      rw [hs] at hq hpatterns
      obtain rfl := List.mem_singleton.mp hq
      exact (List.nodup_append.mp hpatterns).2.2 q.pattern List.mem_cons_self r.pattern
        (List.mem_map_of_mem hr) (beq_iff_eq.mp hqr)

/-- **Sections that fit are accepted**, one after the other. -/
theorem foldlM_accept_flatMap {d : Draft} {ss : List Section} (hfits : d.Fits ss)
    (hss : ∀ s ∈ ss, ∀ t ∈ s.statements, t.IsWritable) :
    (ss.flatMap Section.statements).foldlM accept d = .ok (ss.foldl add d) := by
  induction ss generalizing d with
  | nil => rfl
  | cons s ss ih =>
    obtain ⟨hs, hrest⟩ := List.forall_mem_cons.mp hss
    rw [List.flatMap_cons, List.foldlM_append, foldlM_accept_statements hfits hs]
    exact ih hfits.add hrest

/-! ## The draft after all sections -/

/-- A list of a draft that every section adds to. -/
theorem foldl_add_append {α : Type} (field : Draft → List α) (part? : Section → Option α)
    (h : ∀ d s, field (d.add s) = field d ++ (part? s).toList) (d : Draft) (ss : List Section) :
    field (ss.foldl add d) = field d ++ ss.filterMap part? := by
  induction ss generalizing d with
  | nil => exact (List.append_nil _).symm
  | cons s ss ih =>
    rw [List.foldl_cons, ih, h, filterMap_cons_toList, List.append_assoc]

theorem name?_foldl_add (d : Draft) (ss : List Section) :
    (ss.foldl add d).name? = (ss.filterMap Section.name?).getLast?.or d.name? := by
  induction ss generalizing d with
  | nil => rfl
  | cons s ss ih =>
    rw [List.foldl_cons, ih, name?_add, filterMap_cons_toList, List.getLast?_append,
      Option.or_assoc]
    cases s.name? <;> rfl

theorem asks_foldl_add (d : Draft) (ss : List Section) (g : Setting) :
    (ss.foldl add d).asks g = (d.asks g || decide (g ∈ ss.flatMap Section.given)) := by
  induction ss generalizing d with
  | nil => simp
  | cons s ss ih =>
    rw [List.foldl_cons, ih, asks_add, Bool.or_assoc, List.flatMap_cons]
    simp only [List.mem_append, Bool.decide_or]

theorem sorted_foldl_add {d : Draft} (h : d.macros.Sorted) (ss : List Section) :
    (ss.foldl add d).macros.Sorted := by
  induction ss generalizing d with
  | nil => exact h
  | cons s ss ih =>
    refine ih ?_
    rw [macros_add]
    cases s.macroEntry? with
    | none => exact h
    | some m => exact Table.insert_sorted h m.1 m.2

/-- All macros of some sections are in the draft after them. -/
theorem perm_macros_foldl_add {d : Draft} {ss : List Section} (hfits : d.Fits ss) :
    (ss.foldl add d).macros.entries.Perm
      (d.macros.entries ++ ss.filterMap Section.macroEntry?) := by
  induction ss generalizing d with
  | nil => exact .of_eq (List.append_nil _).symm
  | cons s ss ih =>
    have hmacros := hfits.macros
    rw [filterMap_cons_toList] at hmacros ⊢
    refine (ih hfits.add).trans ?_
    rw [macros_add, ← List.append_assoc]
    refine .append_right _ ?_
    cases hs : s.macroEntry? with
    | none => exact .of_eq (List.append_nil _).symm
    | some m =>
      have hnew : d.macros.find? m.1 = none :=
        hmacros m (List.mem_append_left _ (hs ▸ List.mem_singleton_self m))
      exact (Table.perm_insert hnew m.2).trans (List.perm_append_singleton m _).symm

end Draft

/-! ## Files -/

section Composes
variable {f : RuleFile} {ss : List Section}

theorem Composes.fits (hf : f.Expressible) (h : Composes f ss) : Draft.Fits {} ss where
  name := by rw [h.named]; exact Nat.le_refl 1
  macros _ _ := rfl
  distinctMacros := by
    have hnodup : (f.macros.entries.map (·.1)).Nodup :=
      List.pairwise_map.mpr (hf.sorted.imp fun hlt => String.ne_of_lt hlt)
    exact (h.macros.map _).nodup_iff.mpr hnodup
  rules _ _ := rfl
  distinctRules := by rw [h.rules]; exact hf.patterns

/-- What writes an expressible file can be written. -/
theorem Composes.isWritable (hf : f.Expressible) (h : Composes f ss) :
    ∀ s ∈ ss, ∀ t ∈ s.statements, t.IsWritable := by
  intro s hs t ht
  cases s with
  | named name =>
    obtain rfl := List.mem_singleton.mp ht
    have hname : name ∈ ss.filterMap Section.name? := List.mem_filterMap.mpr ⟨_, hs, rfl⟩
    rw [h.named] at hname
    obtain rfl := List.mem_singleton.mp hname
    exact hf.name
  | settings given =>
    obtain rfl := List.mem_singleton.mp ht
    trivial
  | before name =>
    obtain rfl := List.mem_singleton.mp ht
    exact hf.before name (h.before ▸ List.mem_filterMap.mpr ⟨_, hs, rfl⟩)
  | after name =>
    obtain rfl := List.mem_singleton.mp ht
    exact hf.after name (h.after ▸ List.mem_filterMap.mpr ⟨_, hs, rfl⟩)
  | ofMacro name body =>
    obtain ⟨hname, hbody⟩ :=
      hf.macros (name, body) (h.macros.mem_iff.mp (List.mem_filterMap.mpr ⟨_, hs, rfl⟩))
    rcases List.mem_cons.mp ht with rfl | ht
    · exact hname
    · obtain ⟨u, hu, rfl⟩ := List.mem_map.mp ht
      exact hbody u hu
  | ofRule r =>
    obtain ⟨hpattern, hops⟩ := hf.rules r (h.rules ▸ List.mem_filterMap.mpr ⟨_, hs, rfl⟩)
    rcases List.mem_cons.mp ht with rfl | ht
    · exact hpattern
    · obtain ⟨op, hop, rfl⟩ := List.mem_map.mp ht
      exact hops op hop

/-- A body is its rules, its macros, what it asks for and what it includes. -/
theorem Body.ext_asks {a b : Body} (hrules : a.rules.rules = b.rules.rules)
    (hmacros : a.macros = b.macros) (hasks : ∀ g, a.asks g = b.asks g)
    (hbefore : a.before = b.before) (hafter : a.after = b.after) : a = b := by
  have hreferences := hasks .references
  have hschema := hasks .noSchema
  have hwraps := hasks .wrapsTightly
  obtain ⟨⟨_⟩, _⟩ := a
  obtain ⟨⟨_⟩, _⟩ := b
  simp_all [Body.asks]

/-- The sections of a file leave its content in the draft. -/
theorem Composes.toBody_eq (hf : f.Expressible) (h : Composes f ss) :
    (ss.foldl Draft.add {}).toBody = f.toBody := by
  have hfits := h.fits hf
  refine Body.ext_asks ?_ ?_ (fun g => ?_) ?_ ?_
  · rw [Draft.foldl_add_append (fun d => d.rules.rules) Section.rule? Draft.rules_add, h.rules]
    rfl
  · have hsorted : (ss.foldl Draft.add {}).macros.Sorted := Draft.sorted_foldl_add (d := {}) .nil ss
    exact Table.eq_of_perm hsorted hf.sorted ((Draft.perm_macros_foldl_add hfits).trans h.macros)
  · have hasks := h.settings g
    rw [Draft.asks_foldl_add]
    cases hg : f.asks g <;> cases g <;> simp_all [Body.asks]
  · rw [Draft.foldl_add_append (fun d => d.before) Section.before? Draft.before_add, h.before]
    rfl
  · rw [Draft.foldl_add_append (fun d => d.after) Section.after? Draft.after_add, h.after]
    rfl

/-- Every file has a line for its name. -/
theorem Composes.mem_statements (h : Composes f ss) :
    .filter f.name ∈ ss.flatMap Section.statements := by
  have hname : f.name ∈ ss.filterMap Section.name? := by
    rw [h.named]
    exact List.mem_singleton_self _
  obtain ⟨s, hs, hname⟩ := List.mem_filterMap.mp hname
  refine List.mem_flatMap.mpr ⟨s, hs, ?_⟩
  cases s <;> cases hname
  exact List.mem_singleton_self _

/-- **Every expressible file is found again**, in whatever sections and lines it is written. -/
theorem ofText_joinLines {ls : List Text} (hf : f.Expressible) (hss : Composes f ss)
    (hls : Transcribes (ss.flatMap Section.statements) ls) :
    ofText (Text.joinLines ls) = .ok f := by
  have hstatements : ∀ t ∈ ss.flatMap Section.statements, t.IsWritable := by
    intro t ht
    obtain ⟨s, hs, ht⟩ := List.mem_flatMap.mp ht
    exact hss.isWritable hf s hs t ht
  have haccept := Draft.foldlM_accept_flatMap (hss.fits hf) (hss.isWritable hf)
  have hne : ls ≠ [] := by
    rintro rfl
    exact hls.ne_nil hss.mem_statements rfl
  have hread :
      Draft.readLines {} 1 (linesOf (Text.joinLines ls)) = .ok (ss.foldl Draft.add {}) := by
    rw [readLines_linesOf hne (hls.newline_notMem hstatements)]
    exact readLines_of_transcribes hls hstatements haccept 1
  have hname : (ss.foldl Draft.add {}).name? = some f.name := by
    rw [Draft.name?_foldl_add, hss.named]
    rfl
  refine bind_eq_ok.mpr ⟨_, hread, ?_⟩
  rw [hname, hss.toBody_eq hf]
  rfl

end Composes

/-- A filter that reduces dates to years. -/
def reduceDates : RuleFile where
  name := "ReduceDates"
  rules := ⟨[⟨"INDI:*:DATE", [.useMacro "DateToYear"]⟩, ⟨"!*:CHAN", []⟩,
    ⟨"*", [.substitute ⟨"a/b", "c\td"⟩]⟩]⟩
  macros := ⟨[("DateToYear", [⟨"^(\\d) DATE .*(\\d{4})", "$1 DATE $2"⟩])]⟩
  usesReferences := true
  wrapsTightly := true
  after := ["RemoveEmptyRecords"]

/-- The sections of a text that writes this filter. -/
def reduceDatesSections : List Section :=
  [.named "ReduceDates", .ofRule ⟨"INDI:*:DATE", [.useMacro "DateToYear"]⟩,
    .settings [.references, .wrapsTightly], .ofRule ⟨"!*:CHAN", []⟩,
    .ofMacro "DateToYear" [⟨"^(\\d) DATE .*(\\d{4})", "$1 DATE $2"⟩],
    .after "RemoveEmptyRecords", .ofRule ⟨"*", [.substitute ⟨"a/b", "c\td"⟩]⟩]

theorem expressible_reduceDates : reduceDates.Expressible where
  name := by decide
  before := by decide
  after := by decide
  macros := by decide
  sorted := by unfold Table.Sorted; decide
  rules := by decide
  patterns := by decide

theorem composes_reduceDates : Composes reduceDates reduceDatesSections where
  named := rfl
  settings := by intro g; cases g <;> decide
  before := rfl
  after := rfl
  macros := .refl _
  rules := rfl

/-- The lines of a text that writes this filter. -/
def reduceDatesLines : List String :=
  ["# Reduce all dates to years",
    "filter\tReduceDates\r",
    "  Rule INDI:*:DATE",
    "| macro DateToYear ",
    "OPTION references|WRAP_conc",
    "RULE !*:CHAN",
    "",
    "Macro DateToYear",
    " |  Change /^(\\d) DATE .*(\\d{4})/ /$1 DATE $2/\r",
    "|",
    "AFTER RemoveEmptyRecords",
    "RULE *",
    "| CHANGE #a/b##c\\td#"]

theorem transcribes_reduceDates :
    Transcribes (reduceDatesSections.flatMap Section.statements)
      (reduceDatesLines.map String.toList) := by
  have hyear : Delimits ⟨"^(\\d) DATE .*(\\d{4})", "$1 DATE $2"⟩ _ :=
    @Delimits.intro _ '/' [' '] (by decide) (by decide) (by decide) (by decide)
  have hcut : Delimits ⟨"a/b", "c\td"⟩ _ :=
    @Delimits.intro _ '#' [] (by decide) (by decide) (by decide) (by decide)
  have hsettings : Lists [.references, .wrapsTightly] ("references".toList ++ ['|'] ++ _) :=
    .more (by decide) (by decide) (by decide) (.one (t := "WRAP_conc".toList) (by decide))
  have hlines : ∃ ls, Transcribes (reduceDatesSections.flatMap Section.statements) ls ∧
      ls = reduceDatesLines.map String.toList := by
    refine ⟨_,
      .silent (@IsSilent.comment [] " Reduce all dates to years".toList (by decide) (by decide)) <|
      .statement (.of_parts [] "filter".toList ['\t'] ['\r'] (.filter _) (by decide)) <|
      .statement (.of_parts [' ', ' '] "Rule".toList [' '] [] (.openRule _) (by decide)) <|
      .statement (.of_barred_parts [] [' '] "macro".toList [' '] [' '] (.useMacro _) (by decide)) <|
      .statement (.of_parts [] "OPTION".toList [' '] [] (.settings hsettings) (by decide)) <|
      .statement (.of_parts [] "RULE".toList [' '] [] (.openRule _) (by decide)) <|
      .silent (.blank (l := []) (by decide)) <|
      .statement (.of_parts [] "Macro".toList [' '] [] (.openMacro _) (by decide)) <|
      .statement (.of_barred_parts [' '] [' ', ' '] "Change".toList [' '] ['\r']
        (.substitute hyear) (by decide)) <|
      .silent (@IsSilent.bar [] [] (by decide) (by decide)) <|
      .statement (.of_parts [] "AFTER".toList [' '] [] (.after _) (by decide)) <|
      .statement (.of_parts [] "RULE".toList [' '] [] (.openRule _) (by decide)) <|
      .statement (.of_barred_parts [] [' '] "CHANGE".toList [' '] [] (.substitute hcut)
        (by decide))
      .nil, ?_⟩
    decide +kernel
  obtain ⟨_, hls, rfl⟩ := hlines
  exact hls

theorem ofText_reduceDates :
    ofText (Text.joinLines (reduceDatesLines.map String.toList)) = .ok reduceDates :=
  ofText_joinLines expressible_reduceDates composes_reduceDates transcribes_reduceDates

end RuleFile
end Gedcom
