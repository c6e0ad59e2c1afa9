import Gedcom.Proofs.Traversal
import Mathlib.Data.List.Induction

/-!
# On which lines the operations of a rule run

The operations of a rule are meant for the outermost line that leads to it.  A
filter compares a line with the line above only, so the same rule acts again below
a line at which another rule, or none, came in between.

`operationsRun_iff` says exactly when this does not happen: along every path of the
record, a rule with operations that decides on two lines decides on all lines
between them (`Unbroken`).
-/
namespace Gedcom

/-! ## Paths -/

/-- The paths of the lines of an outline that stands below lines with the tags
`path`, in the order in which the lines are finished. -/
def Outline.paths (path : List String) : Outline → List (List String)
  | .empty => []
  | .entry l below after =>
    below.paths (path ++ [Line.tagOf l]) ++ (path ++ [Line.tagOf l]) :: after.paths path

/-- The paths of the lines of a record, in the order in which they are finished. -/
def Record.paths (r : Record) : List (List String) :=
  (Outline.entry r.head r.below .empty).paths []

theorem Outline.prefix_of_mem_paths {path w : List String} {o : Outline}
    (hw : w ∈ o.paths path) : path <+: w := by
  induction o generalizing path with
  | empty => cases hw
  | entry l below after ihbelow ihafter =>
    rcases List.mem_append.mp hw with hw | hw
    · exact (List.prefix_append path [Line.tagOf l]).trans (ihbelow hw)
    · rcases List.mem_cons.mp hw with rfl | hw
      · exact List.prefix_append path [Line.tagOf l]
      · exact ihafter hw

/-- The lines above a line have paths as well. -/
theorem Outline.mem_paths_above {path p w : List String} {o : Outline}
    (hw : w ∈ o.paths path) (hpw : p <+: w) (hp : path.length < p.length) : p ∈ o.paths path := by
  induction o generalizing path with
  | empty => cases hw
  | entry l below after ihbelow ihafter =>
    -- a beginning of the path of the line itself is that path
    have hself : p <+: path ++ [Line.tagOf l] → p = path ++ [Line.tagOf l] := by
      intro h
      rcases List.prefix_concat_iff.mp h with h | h
      · exact h
      · exact absurd h.length_le (Nat.not_le.mpr hp)
    rcases List.mem_append.mp hw with hw | hw
    · rcases Nat.lt_or_ge (path ++ [Line.tagOf l]).length p.length with hlt | hge
      · exact List.mem_append_left _ (ihbelow hw hlt)
      · rw [hself (List.prefix_of_prefix_length_le hpw (prefix_of_mem_paths hw) hge)]
        exact List.mem_append_right _ List.mem_cons_self
    · rcases List.mem_cons.mp hw with rfl | hw
      · rw [hself hpw]
        exact List.mem_append_right _ List.mem_cons_self
      · exact List.mem_append_right _ (List.mem_cons_of_mem _ (ihafter hw hp))

theorem Pattern.admits_nil (p : Pattern) : p.admits [] = false := by
  unfold admits
  cases p.tags <;> rfl

theorem firstMatch_nil (ps : List Pattern) : firstMatch ps [] = none := by
  induction ps with
  | nil => rfl
  | cons p ps ih =>
    rw [firstMatch, p.admits_nil, ih]
    rfl

namespace Application
variable (a : Application)

/-! ## The operations that are due -/

/-- Whether the rule at a position has operations. -/
def acts (i : Nat) : Bool := (a.rules.rules[i]?).any fun rule => !rule.ops.isEmpty

/-- The operations that run on a path: those of the rule to which it leads, unless
the path above leads there, too. -/
def due? (path : List String) : Option Treatment :=
  match firstMatch a.rules.patterns path with
  | none => none
  | some i =>
    if firstMatch a.rules.patterns path.dropLast ≠ some i ∧ a.acts i then some ⟨path, i⟩ else none

theorem due?_eq_some {path : List String} {t : Treatment} :
    a.due? path = some t ↔
      path = t.path ∧ firstMatch a.rules.patterns t.path = some t.rule ∧
        firstMatch a.rules.patterns t.path.dropLast ≠ some t.rule ∧ a.acts t.rule = true := by
  unfold due?
  constructor
  · intro h
    split at h
    · cases h
    · rename_i i hi
      split at h
      · rename_i hdue
        obtain rfl := Option.some.inj h
        exact ⟨rfl, hi, hdue⟩
      · cases h
  · rintro ⟨rfl, hmatch, hdue⟩
    rw [hmatch]
    exact if_pos hdue

/-! ## The operations that run -/

/-- A step carries out operations that are due in their order: all of them, or
those before the one at which it fails. -/
def Performs {α : Type} (m : RunM α) (due : List Treatment) : Prop :=
  ∀ s : Run, ∃ done rest, due = done ++ rest ∧
    (m.run s).2.treatments = s.treatments ++ done ∧ ((m.run s).1.isOk = true → rest = [])

section Performs
variable {α β : Type}

theorem Performs.pure (v : α) : Performs (pure v) [] :=
  fun s => ⟨[], [], rfl, (List.append_nil s.treatments).symm, fun _ => rfl⟩

theorem Performs.bind {m : RunM α} {f : α → RunM β} {due due' : List Treatment}
    (hm : Performs m due) (hf : ∀ v, Performs (f v) due') :
    Performs (m >>= f) (due ++ due') := by
  intro s
  obtain ⟨done, rest, hdue, hdone, hrest⟩ := hm s
  cases hms : m.run s with
  | mk result s' =>
    rw [hms] at hdone hrest
    cases result with
    | error e =>
      rw [RunM.run_bind_of_error hms]
      exact ⟨done, rest ++ due', by rw [hdue, List.append_assoc], hdone, fun h => nomatch h⟩
    | ok v =>
      rw [RunM.run_bind_of_ok hms]
      obtain ⟨done', rest', hdue', hdone', hrest'⟩ := hf v s'
      refine ⟨done ++ done', rest', ?_, ?_, hrest'⟩
      · rw [hdue, hdue', hrest rfl, List.append_nil, List.append_assoc]
      · rw [hdone', hdone, List.append_assoc]

theorem Performs.of_treatments_unused {m : RunM α}
    (h : ∀ s, (m.run s).2.treatments = s.treatments) : Performs m [] := by
  intro s
  refine ⟨[], [], rfl, ?_, fun _ => rfl⟩
  rw [h s, List.append_nil]

end Performs

variable {a}

theorem performs_convert (pattern : String) (t : Text) : Performs (a.convert pattern t) [] := by
  refine Performs.of_treatments_unused fun s => ?_
  unfold convert
  cases a.filter.hook with
  | none => rfl
  | some hook =>
    simp only [RunM.run_bind, RunM.run_modify, RunM.run_get]
    cases hook pattern t a.params s.graph with
    | error e => rfl
    | ok r => rfl

theorem performs_runOps (pattern : String) (ops : List ReadyOp) (t : Text) :
    Performs (a.runOps pattern ops t) [] := by
  induction ops generalizing t with
  | nil => exact Performs.pure t
  | cons op ops ih =>
    cases op with
    | substitute _ regex replacement => exact ih (regex.substitute replacement.toList t)
    | convert => exact (performs_convert pattern t).bind ih

/-- The operations of a line run if they are due. -/
theorem performs_finish (path : List String) (t : Text) :
    Performs
      (a.finish path (firstMatch a.rules.patterns path.dropLast)
        (firstMatch a.rules.patterns path) t)
      (a.due? path).toList := by
  unfold finish due? acts
  -- operations are due if a rule decides that does not decide above, and if it has operations
  cases hfound : firstMatch a.rules.patterns path with
  | none => exact Performs.pure t
  | some i =>
    dsimp only
    by_cases hparent : some i = firstMatch a.rules.patterns path.dropLast
    · rw [if_pos hparent, if_neg fun h => h.1 hparent.symm]
      exact Performs.pure t
    · rw [if_neg hparent]
      cases hrule : a.rules.rules[i]? with
      | none =>
        rw [if_neg fun h => nomatch h.2]
        exact Performs.pure t
      | some rule =>
        cases hops : rule.ops.isEmpty with
        | true =>
          rw [if_neg fun h => by simp [hops] at h]
          show Performs (if rule.ops.isEmpty = true then pure t else _) []
          rw [hops]
          exact Performs.pure t
        | false =>
          rw [if_pos ⟨Ne.symm hparent, by simp [hops]⟩]
          have hlog : Performs
              (modify fun s => { s with treatments := s.treatments ++ [⟨path, i⟩] } : RunM PUnit)
              [⟨path, i⟩] :=
            fun s => ⟨[⟨path, i⟩], [], rfl, rfl, fun _ => rfl⟩
          show Performs (if rule.ops.isEmpty = true then pure t else _) [⟨path, i⟩]
          rw [hops]
          exact hlog.bind fun _ => performs_runOps rule.pattern.text rule.ops t

theorem performs_entryRemnant {path : List String} {l : Text}
    {below : List String → Option Nat → RunM Text} {due : List Treatment}
    (hbelow : Performs
      (below (path ++ [Line.tagOf l]) (firstMatch a.rules.patterns (path ++ [Line.tagOf l]))) due) :
    Performs (a.entryRemnant path (firstMatch a.rules.patterns path) l below)
      (due ++ (a.due? (path ++ [Line.tagOf l])).toList) := by
  refine hbelow.bind fun inner => ?_
  have hfinish := performs_finish (a := a) (path ++ [Line.tagOf l])
    ((if (firstMatch a.rules.patterns (path ++ [Line.tagOf l])).isSome then l ++ ['\n'] else [])
      ++ inner)
  rwa [List.dropLast_concat] at hfinish

/-- **What runs over an outline** is what is due on its paths, leaves first. -/
theorem performs_outlineRemnant (path : List String) (o : Outline) :
    Performs (a.outlineRemnant path (firstMatch a.rules.patterns path) o)
      ((o.paths path).filterMap a.due?) := by
  induction o generalizing path with
  | empty => exact Performs.pure []
  | entry l below after ihbelow ihafter =>
    have hentry : Performs
        (a.entryRemnant path (firstMatch a.rules.patterns path) l fun path found =>
          a.outlineRemnant path found below) _ :=
      performs_entryRemnant (ihbelow (path ++ [Line.tagOf l]))
    have hall := hentry.bind fun entry =>
      (ihafter path).bind fun others => Performs.pure (entry ++ others)
    have hdue : ((Outline.entry l below after).paths path).filterMap a.due? =
        ((below.paths (path ++ [Line.tagOf l])).filterMap a.due? ++
          (a.due? (path ++ [Line.tagOf l])).toList) ++
            ((after.paths path).filterMap a.due? ++ []) := by
      rw [Outline.paths, List.filterMap_append, List.filterMap_cons]
      cases a.due? (path ++ [Line.tagOf l]) <;> simp
    rw [hdue]
    exact hall

theorem performs_recordRemnant (r : Record) :
    Performs (a.recordRemnant r) (r.paths.filterMap a.due?) := by
  have hentry : Performs (a.entryRemnant [] (firstMatch a.rules.patterns []) r.head
      fun path found => a.outlineRemnant path found r.below) _ :=
    performs_entryRemnant (performs_outlineRemnant [Line.tagOf r.head] r.below)
  rw [firstMatch_nil] at hentry
  have hdue : r.paths.filterMap a.due? =
      (r.below.paths [Line.tagOf r.head]).filterMap a.due? ++
        (a.due? [Line.tagOf r.head]).toList := by
    rw [Record.paths, Outline.paths, List.filterMap_append, Outline.paths, List.filterMap_cons]
    cases h : a.due? ([] ++ [Line.tagOf r.head]) <;> rw [List.nil_append] at h <;> simp [h]
  rw [hdue]
  exact hentry

/-- Sifting the text of a record runs what is due on its paths. -/
theorem performs_sift {r : Record} (hr : r.isLegible = true) (newlines : Nat) {s : Run}
    (hs : s.memo.Faithful a.answer) :
    ∃ done rest, r.paths.filterMap a.due? = done ++ rest ∧
      ((a.sift 0 [] none (r.text newlines)).run s).2.treatments = s.treatments ++ done ∧
      (((a.sift 0 [] none (r.text newlines)).run s).1.isOk = true → rest = []) := by
  obtain ⟨_, hrun⟩ := follows_sift_record hr newlines s hs
  obtain ⟨done, rest, hdue, hdone, hrest⟩ := a.performs_recordRemnant r s.forget
  rw [hrun] at hdone hrest
  exact ⟨done, rest, hdue, hdone, hrest⟩

/-! ## Outermost lines -/

variable (a)

/-- No line above one on which the operations of a rule run leads to the rule. -/
def Outermost (ts : List Treatment) : Prop :=
  ∀ t ∈ ts, ∀ p, p <+: t.path → firstMatch a.rules.patterns p = some t.rule → p = t.path

/-- The operations of a rule do not run on a line and on one below it. -/
def Unnested (ts : List Treatment) : Prop :=
  ∀ t ∈ ts, ∀ u ∈ ts, t.rule = u.rule → t.path <+: u.path → t.path = u.path

/-- A rule with operations to which two lines of a record lead, one below the other,
is the one to which all lines between them lead. -/
def Unbroken (r : Record) : Prop :=
  ∀ w ∈ r.paths, ∀ i, a.acts i = true → firstMatch a.rules.patterns w = some i →
    ∀ p q, p <+: q → q <+: w → firstMatch a.rules.patterns p = some i →
      firstMatch a.rules.patterns q = some i

variable {a}

/-- Between a line that does not lead to a rule and one below it that does, there is
a line that does while the line above it does not. -/
theorem exists_onset {q ext : List String} {i : Nat}
    (hq : firstMatch a.rules.patterns q ≠ some i)
    (hw : firstMatch a.rules.patterns (q ++ ext) = some i) :
    ∃ p, q <+: p ∧ p <+: q ++ ext ∧ firstMatch a.rules.patterns p = some i ∧
      firstMatch a.rules.patterns p.dropLast ≠ some i := by
  -- from `w` upwards: the first line whose parent does not lead to the rule
  induction ext using List.reverseRecOn with
  | nil => exact absurd (List.append_nil q ▸ hw) hq
  | append_singleton ext x ih =>
    have hstep : q ++ (ext ++ [x]) = (q ++ ext) ++ [x] := (List.append_assoc q ext [x]).symm
    by_cases hext : firstMatch a.rules.patterns (q ++ ext) = some i
    · obtain ⟨p, hqp, hpw, hp⟩ := ih hext
      exact ⟨p, hqp, hstep ▸ hpw.trans (List.prefix_append (q ++ ext) [x]), hp⟩
    · refine ⟨q ++ (ext ++ [x]), List.prefix_append _ _, List.prefix_rfl, hw, ?_⟩
      rwa [hstep, List.dropLast_concat]

theorem mem_due {r : Record} {t : Treatment} :
    t ∈ r.paths.filterMap a.due? ↔
      t.path ∈ r.paths ∧ firstMatch a.rules.patterns t.path = some t.rule ∧
        firstMatch a.rules.patterns t.path.dropLast ≠ some t.rule ∧ a.acts t.rule = true := by
  rw [List.mem_filterMap]
  constructor
  · rintro ⟨w, hw, hdue⟩
    obtain ⟨rfl, h⟩ := a.due?_eq_some.mp hdue
    exact ⟨hw, h⟩
  · rintro ⟨hw, h⟩
    exact ⟨t.path, hw, a.due?_eq_some.mpr ⟨rfl, h⟩⟩

/-- What is due on a line of a record that leads to a rule, above which there is a
line that does not. -/
theorem exists_due {r : Record} {q w : List String} {i : Nat} (hw : w ∈ r.paths) (hqw : q <+: w)
    (hi : a.acts i = true) (hmatch : firstMatch a.rules.patterns w = some i)
    (hq : firstMatch a.rules.patterns q ≠ some i) :
    ∃ p, q <+: p ∧ p ≠ q ∧ p <+: w ∧ ⟨p, i⟩ ∈ r.paths.filterMap a.due? := by
  obtain ⟨ext, rfl⟩ := hqw
  obtain ⟨p, hqp, hpw, hp, honset⟩ := exists_onset hq hmatch
  have hne : p ≠ [] := by
    rintro rfl
    rw [firstMatch_nil] at hp
    cases hp
  refine ⟨p, hqp, fun h => hq (h ▸ hp), hpw, mem_due.mpr ⟨?_, hp, honset, hi⟩⟩
  exact Outline.mem_paths_above hw hpw (List.length_pos_of_ne_nil hne)

theorem outermost_due_iff (r : Record) :
    a.Outermost (r.paths.filterMap a.due?) ↔ a.Unbroken r := by
  constructor
  · intro h w hw i hi hmatch p q hpq hqw hp
    by_contra hq
    -- below the gap the operations run again, although `p` stands above
    obtain ⟨e, hqe, hne, _, hdue⟩ := exists_due hw hqw hi hmatch hq
    have hpe : p = e := h ⟨e, i⟩ hdue p (hpq.trans hqe) hp
    exact hne (hqe.eq_of_length_le (hpe ▸ hpq).length_le).symm
  · intro h t ht p hpt hp
    obtain ⟨hw, hmatch, hparent, hi⟩ := mem_due.mp ht
    by_contra hne
    have hpdrop : p <+: t.path.dropLast := by
      rcases List.eq_nil_or_concat t.path with hnil | ⟨q, x, hq⟩
      · exact absurd (List.prefix_nil.mp (hnil ▸ hpt)) (hnil ▸ hne)
      · rw [List.concat_eq_append] at hq
        rw [hq] at hpt hne ⊢
        rw [List.dropLast_concat]
        exact (List.prefix_concat_iff.mp hpt).resolve_left hne
    exact hparent (h t.path hw t.rule hi hmatch p t.path.dropLast hpdrop
      (List.dropLast_prefix t.path) hp)

theorem unnested_due_iff (r : Record) :
    Unnested (r.paths.filterMap a.due?) ↔ a.Unbroken r := by
  rw [← outermost_due_iff]
  constructor
  · intro h t ht p hpt hp
    obtain ⟨hw, _, _, hi⟩ := mem_due.mp ht
    have hroot : firstMatch a.rules.patterns [] ≠ some t.rule := by
      rw [firstMatch_nil]
      exact fun h => nomatch h
    have hne : p ≠ [] := by
      rintro rfl
      exact hroot hp
    -- the operations run for the first time at `p` or above it
    have hpaths := Outline.mem_paths_above hw hpt (List.length_pos_of_ne_nil hne)
    obtain ⟨e, _, _, hep, hdue⟩ := exists_due hpaths List.nil_prefix hi hp hroot
    have he : e = t.path := h ⟨e, t.rule⟩ hdue t ht rfl (hep.trans hpt)
    exact hpt.eq_of_length_le (he ▸ hep).length_le
  · intro h t ht u hu hrule htu
    exact h u hu t.path htu (hrule ▸ (mem_due.mp ht).2.1)

theorem Outermost.of_append {ts us : List Treatment} (h : a.Outermost (ts ++ us)) :
    a.Outermost ts :=
  fun t ht => h t (List.mem_append_left us ht)

theorem Unnested.of_append {ts us : List Treatment} (h : Unnested (ts ++ us)) : Unnested ts :=
  fun t ht u hu => h t (List.mem_append_left us ht) u (List.mem_append_left us hu)

/-- **Where the operations of a rule run.**  If the rules are unbroken along the
paths of a record, then operations run on outermost lines only, and no rule acts on
a line and again on one below it.  If the record is filtered to its end, then that
is the only case in which one or the other holds. -/
theorem operationsRun_iff (a : Application) {r : Record} (hr : r.isLegible = true)
    (newlines : Nat) {s : Run} (hs : s.memo.Faithful a.answer) :
    ∃ done, ((a.sift 0 [] none (r.text newlines)).run s).2.treatments = s.treatments ++ done ∧
      (a.Unbroken r → a.Outermost done ∧ Unnested done) ∧
      (((a.sift 0 [] none (r.text newlines)).run s).1.isOk = true →
        (a.Outermost done ↔ a.Unbroken r) ∧ (Unnested done ↔ a.Unbroken r)) := by
  obtain ⟨done, rest, hdue, hdone, hrest⟩ := performs_sift hr newlines hs
  have houtermost := a.outermost_due_iff r
  have hunnested := a.unnested_due_iff r
  rw [hdue] at houtermost hunnested
  refine ⟨done, hdone, ?_, ?_⟩
  · intro hunbroken
    exact ⟨(houtermost.mpr hunbroken).of_append, (hunnested.mpr hunbroken).of_append⟩
  · intro hok
    rw [hrest hok, List.append_nil] at houtermost hunnested
    exact ⟨houtermost, hunnested⟩

/-- The names of an individual are outermost, and so are no other lines. -/
theorem operationsRun_iff_ada :
    ada.isLegible = true ∧
      ∃ done, ((numbering.sift 0 [] none (ada.text 1)).run {}).2.treatments = [] ++ done ∧
        (numbering.Unbroken ada → numbering.Outermost done ∧ Unnested done) ∧
        (((numbering.sift 0 [] none (ada.text 1)).run {}).1.isOk = true →
          (numbering.Outermost done ↔ numbering.Unbroken ada) ∧
            (Unnested done ↔ numbering.Unbroken ada)) :=
  have hlegible : ada.isLegible = true := by decide
  ⟨hlegible, operationsRun_iff numbering hlegible 1 (Memo.faithful_empty _)⟩

/-- A filter with a rule for births that does nothing, and one for everything that
hands structures to a hook, which gives them back. -/
def births : Filter where
  name := "Births"
  rules _ := .ofList [("INDI:BIRT", []), ("*", [.convert])]
  hook := some fun _ t _ g => .ok (t, g)

/-- The application of that filter. -/
def applyBirths : Application where
  filter := births
  rules := ⟨[⟨⟨"INDI:BIRT"⟩, []⟩, ⟨⟨"*"⟩, [.convert]⟩]⟩
  params := {}

/-- An individual with the date of a birth. -/
def born : Record where
  head := "0 @I1@ INDI".toList
  below := .entry "1 BIRT".toList (.entry "2 DATE 1900".toList .empty .empty) .empty

/-- The date of a birth is handed to the hook twice: on its own, and with the
individual.  The birth in between leads to another rule. -/
theorem not_outermost_applyBirths :
    births.compile {} = .ok applyBirths.rules ∧ born.isLegible = true ∧
      ((applyBirths.sift 0 [] none (born.text 1)).run {}).2.conversions =
        [⟨"Births", "*", "2 DATE 1900\n".toList⟩,
          ⟨"Births", "*", "0 @I1@ INDI\n1 BIRT\n2 DATE 1900\n".toList⟩] ∧
      ¬applyBirths.Outermost ((applyBirths.sift 0 [] none (born.text 1)).run {}).2.treatments ∧
      ¬Unnested ((applyBirths.sift 0 [] none (born.text 1)).run {}).2.treatments := by
  have hdone : ((applyBirths.sift 0 [] none (born.text 1)).run {}).2.treatments =
      [⟨["INDI", "BIRT", "DATE"], 1⟩, ⟨["INDI"], 1⟩] := by decide +kernel
  have hbelow : ["INDI"] <+: ["INDI", "BIRT", "DATE"] := ⟨["BIRT", "DATE"], rfl⟩
  refine ⟨rfl, by decide, by decide +kernel, ?_, ?_⟩
  · intro h
    rw [hdone] at h
    have heq := h ⟨["INDI", "BIRT", "DATE"], 1⟩ List.mem_cons_self ["INDI"] hbelow (by decide)
    exact absurd heq (by decide)
  · intro h
    rw [hdone] at h
    have heq := h ⟨["INDI"], 1⟩ (by decide) ⟨["INDI", "BIRT", "DATE"], 1⟩ (by decide) rfl hbelow
    exact absurd heq (by decide)

end Application
end Gedcom
