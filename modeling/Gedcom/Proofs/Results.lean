import Mathlib.Data.List.Forall2

/-!
# Steps over lists

A step over the elements of a list succeeds if it succeeds on each of them (`mapM_eq_ok`), and
otherwise fails as it does on the first element on which it fails (`error?_mapM`).  The results
stand to the elements one by one, so that what is known of each element and its result is told by
`List.Forall₂`.
-/
namespace Gedcom

/-! ## Steps that may fail -/

section Except
variable {ε α β γ : Type}

/-- A step over a list succeeds if it succeeds on each of its elements. -/
theorem mapM_eq_ok {f : α → Except ε β} {as : List α} {bs : List β} :
    as.mapM f = .ok bs ↔ List.Forall₂ (fun a b => f a = .ok b) as bs := by
  induction as generalizing bs with
  | nil =>
    rw [List.forall₂_nil_left_iff, eq_comm (a := bs)]
    exact ⟨Except.ok.inj, congrArg Except.ok⟩
  | cons a as ih =>
    rw [List.mapM_cons, List.forall₂_cons_left_iff]
    cases ha : f a with
    | error e =>
      refine ⟨fun h => ?_, fun ⟨_, _, h, _⟩ => ?_⟩
      · cases h
      · cases h
    | ok b =>
      cases has : as.mapM f with
      | error e =>
        refine ⟨fun h => ?_, fun ⟨_, _, _, hrest, _⟩ => ?_⟩
        · cases h
        · rw [ih.mpr hrest] at has
          cases has
      | ok rest =>
        constructor
        · intro h
          obtain rfl : b :: rest = bs := Except.ok.inj h
          exact ⟨b, rest, rfl, ih.mp has, rfl⟩
        · rintro ⟨c, cs, hc, hrest, rfl⟩
          obtain rfl := Except.ok.inj hc
          obtain rfl : rest = cs := Except.ok.inj (has.symm.trans (ih.mpr hrest))
          rfl

theorem map_eq_ok {f : α → β} {x : Except ε α} {b : β} :
    f <$> x = .ok b ↔ ∃ a, x = .ok a ∧ f a = b := by
  cases x with
  | error e =>
    refine ⟨fun h => ?_, fun ⟨_, h, _⟩ => ?_⟩
    · cases h
    · cases h
  | ok a =>
    refine ⟨fun h => ⟨a, rfl, Except.ok.inj h⟩, ?_⟩
    rintro ⟨_, ha, rfl⟩
    obtain rfl := Except.ok.inj ha
    rfl

theorem bind_eq_ok {x : Except ε α} {f : α → Except ε β} {b : β} :
    (x >>= f) = .ok b ↔ ∃ a, x = .ok a ∧ f a = .ok b := by
  cases x with
  | error e =>
    refine ⟨fun h => ?_, fun ⟨_, h, _⟩ => ?_⟩
    · cases h
    · cases h
  | ok a =>
    refine ⟨fun h => ⟨a, rfl, h⟩, ?_⟩
    rintro ⟨_, ha, h⟩
    obtain rfl := Except.ok.inj ha
    exact h

theorem eq_error_of_bind_pure {f : α → β} {x : Except ε α} {e : ε}
    (h : (x >>= fun a => pure (f a)) = .error e) : x = .error e := by
  cases x with
  | error e' => exact congrArg Except.error (Except.error.inj h)
  | ok a => cases h

/-- A step over a list fails with what it fails with on one of its elements. -/
theorem exists_of_mapM_eq_error {f : α → Except ε β} {as : List α} {e : ε}
    (h : as.mapM f = .error e) : ∃ a ∈ as, f a = .error e := by
  induction as with
  | nil => cases h
  | cons a as ih =>
    rw [List.mapM_cons] at h
    cases ha : f a with
    | error e' =>
      rw [ha] at h
      obtain rfl : e' = e := Except.error.inj h
      exact ⟨a, List.mem_cons_self, ha⟩
    | ok b =>
      rw [ha] at h
      obtain ⟨a', ha', hfails⟩ := ih (eq_error_of_bind_pure h)
      exact ⟨a', List.mem_cons_of_mem _ ha', hfails⟩

theorem eq_ok_of_toOption {x : Except ε α} {a : α} (h : x.toOption = some a) : x = .ok a := by
  cases x with
  | error e => cases h
  | ok b => rw [Option.some.inj h]

/-- The error of a step, if it fails. -/
def error? : Except ε α → Option ε
  | .error e => some e
  | .ok _ => none

theorem error?_eq_some {x : Except ε α} {e : ε} : error? x = some e ↔ x = .error e := by
  cases x <;> simp [error?]

/-- Of two steps that fail, the first one is told. -/
theorem error?_seq (x : Except ε α) (y : Except ε β) (f : α → β → γ) :
    error? (do
      let a ← x
      let b ← y
      return f a b) = (error? x).or (error? y) := by
  cases x <;> cases y <;> rfl

/-- A step over a list fails as it does on the first element on which it fails. -/
theorem error?_mapM (f : α → Except ε β) (as : List α) :
    error? (as.mapM f) = as.findSome? fun a => error? (f a) := by
  induction as with
  | nil => rfl
  | cons a as ih =>
    rw [List.mapM_cons, List.findSome?_cons]
    cases f a with
    | error e => rfl
    | ok b =>
      rw [← ih]
      show error? (as.mapM f >>= fun bs => pure (b :: bs)) = error? (as.mapM f)
      cases as.mapM f <;> rfl

end Except

/-! ## Lists that stand to each other -/

section Forall₂
variable {α β γ : Type} {R : α → β → Prop} {S : α → γ → Prop}

theorem getElem?_of_forall₂ {as : List α} {bs : List β} (h : List.Forall₂ R as bs) {i : Nat}
    {a : α} (ha : as[i]? = some a) : ∃ b, bs[i]? = some b ∧ R a b := by
  induction h generalizing i with
  | nil => cases ha
  | @cons a' b _ _ hab _ ih =>
    cases i with
    | zero =>
      obtain rfl : a' = a := Option.some.inj ha
      exact ⟨b, rfl, hab⟩
    | succ i => exact ih ha

theorem exists_forall₂_iff {as : List α} :
    (∃ bs, List.Forall₂ R as bs) ↔ ∀ a ∈ as, ∃ b, R a b := by
  constructor
  · rintro ⟨bs, h⟩ a ha
    obtain ⟨i, hi⟩ := List.mem_iff_getElem?.mp ha
    obtain ⟨b, -, hb⟩ := getElem?_of_forall₂ h hi
    exact ⟨b, hb⟩
  · intro h
    induction as with
    | nil => exact ⟨[], .nil⟩
    | cons a as ih =>
      obtain ⟨⟨b, hb⟩, hrest⟩ := List.forall_mem_cons.mp h
      obtain ⟨bs, hbs⟩ := ih hrest
      exact ⟨b :: bs, .cons hb hbs⟩

/-- If what stands to some elements in one way also has something that stands to them in
another way, then lists do, too. -/
theorem exists_forall₂ {as : List α} {bs : List β} (h : List.Forall₂ R as bs)
    (hS : ∀ a b, R a b → ∃ c, S a c) : ∃ cs, List.Forall₂ S as cs := by
  refine exists_forall₂_iff.mpr fun a ha => ?_
  obtain ⟨b, hb⟩ := exists_forall₂_iff.mp ⟨bs, h⟩ a ha
  exact hS a b hb

end Forall₂

/-- What is found first in several lists is found in the first of them that has any. -/
theorem findSome?_flatMap {α β γ : Type} (f : β → Option γ) (g : α → List β) (as : List α) :
    (as.flatMap g).findSome? f = as.findSome? fun a => (g a).findSome? f := by
  induction as with
  | nil => rfl
  | cons a as ih =>
    rw [List.flatMap_cons, List.findSome?_append, ih, List.findSome?_cons]
    cases (g a).findSome? f <;> rfl

end Gedcom
