/-!
# Remembered answers

A memo remembers the answers given so far.  Asked again, it repeats its first
answer, even if the question would be answered differently by now; clearing it
makes it forget.
-/
namespace Gedcom

/-- The questions asked so far with their answers, latest first. -/
structure Memo (κ ω : Type) where
  entries : List (κ × ω) := []

namespace Memo

variable {κ ω : Type} [BEq κ]

/-- The remembered answer to a question. -/
def find? (m : Memo κ ω) (k : κ) : Option ω := m.entries.lookup k

/-- The answer to a question, by `answer` if it was not asked before, and the
memo that remembers it. -/
def ask (m : Memo κ ω) (answer : κ → ω) (k : κ) : ω × Memo κ ω :=
  match m.find? k with
  | some w => (w, m)
  | none => (answer k, ⟨(k, answer k) :: m.entries⟩)

omit [BEq κ] in
/-- The memo of no questions. -/
def clear : Memo κ ω := {}

omit [BEq κ] in
/-- The number of questions remembered. -/
def size (m : Memo κ ω) : Nat := m.entries.length

omit [BEq κ] in
/-- The questions asked so far, latest first. -/
def keys (m : Memo κ ω) : List κ := m.entries.map (·.1)

/-- An answer that is remembered is repeated. -/
theorem ask_of_find? {m : Memo κ ω} {k : κ} {w : ω} (h : m.find? k = some w) (answer : κ → ω) :
    m.ask answer k = (w, m) := by
  simp [ask, h]

/-- After a question its answer is remembered. -/
theorem find?_ask [LawfulBEq κ] (m : Memo κ ω) (answer : κ → ω) (k : κ) :
    (m.ask answer k).2.find? k = some (m.ask answer k).1 := by
  cases h : m.find? k with
  | some w => rw [ask_of_find? h, h]
  | none =>
    have step : m.ask answer k = (answer k, ⟨(k, answer k) :: m.entries⟩) := by simp [ask, h]
    simp [step, find?]

theorem mem_keys_of_find? [LawfulBEq κ] {m : Memo κ ω} {k : κ} {w : ω} (h : m.find? k = some w) :
    k ∈ m.keys := by
  obtain ⟨before, after, hentries, _⟩ := List.lookup_eq_some_iff.mp h
  rw [keys, hentries, List.map_append, List.map_cons]
  exact List.mem_append_right _ List.mem_cons_self

/-- Asking a question adds it to those asked so far. -/
theorem mem_keys_ask [LawfulBEq κ] (m : Memo κ ω) (answer : κ → ω) (k j : κ) :
    j ∈ (m.ask answer k).2.keys ↔ j = k ∨ j ∈ m.keys := by
  cases h : m.find? k with
  | some w =>
    rw [ask_of_find? h]
    constructor
    · exact .inr
    · rintro (rfl | hj)
      · exact mem_keys_of_find? h
      · exact hj
  | none =>
    have step : m.ask answer k = (answer k, ⟨(k, answer k) :: m.entries⟩) := by simp [ask, h]
    rw [step]
    exact List.mem_cons

/-- Every remembered answer is the one that a function gives. -/
def Faithful (answer : κ → ω) (m : Memo κ ω) : Prop :=
  ∀ k w, m.find? k = some w → w = answer k

theorem faithful_empty (answer : κ → ω) : Faithful answer {} :=
  fun _ _ h => nomatch h

/-- A faithful memo answers as the function does, and stays faithful. -/
theorem Faithful.ask [LawfulBEq κ] {answer : κ → ω} {m : Memo κ ω} (hm : m.Faithful answer)
    (k : κ) : (m.ask answer k).1 = answer k ∧ (m.ask answer k).2.Faithful answer := by
  cases h : m.find? k with
  | some w =>
    rw [ask_of_find? h]
    exact ⟨hm k w h, hm⟩
  | none =>
    have step : m.ask answer k = (answer k, ⟨(k, answer k) :: m.entries⟩) := by
      simp [Memo.ask, h]
    rw [step]
    refine ⟨rfl, fun j w hj => ?_⟩
    simp only [find?, List.lookup_cons] at hj
    split at hj
    · rename_i hjk
      rw [← Option.some.inj hj, eq_of_beq hjk]
    · exact hm j w hj

end Memo
end Gedcom
