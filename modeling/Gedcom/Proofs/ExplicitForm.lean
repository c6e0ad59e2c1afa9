import Gedcom.Proofs.Replacements

/-!
# The explicit form of a replacement

In a replacement in explicit form every dollar sign is one of a pair or stands in front of a
reference in braces (`IsExplicit`).  A replacement gets such a form if it is terminated, that is,
if no brace that begins a reference is left open (`isExplicit_explicit_iff`); it is enough that
some brace closes behind every one that opens (`terminated_of_forall_suffix`).  In either case
the form that it gets is its own explicit form (`explicit_explicit`), and the terminated texts
that are their own explicit form are just those of this kind (`isExplicit_iff`).

What a replacement written by hand says is the relation `Piece.Reads`, which has one rule for
each way in which a text can begin.  A text can be read if and only if it leaves no brace open,
and it says what a matcher takes its explicit form for (`reads_iff`).  The references that it
makes are the references in braces of the explicit form (`mem_references_explicit`).
-/
namespace Gedcom.Regex

namespace Replacement

/-- Texts in which every dollar sign is one of a pair or stands in front of a reference in
braces. -/
inductive IsExplicit : Text → Prop
  | nil : IsExplicit []
  | dollar {t : Text} : IsExplicit t → IsExplicit ('$' :: '$' :: t)
  | braced {ref t : Text} : '}' ∉ ref → IsExplicit t →
      IsExplicit ('$' :: '{' :: (ref ++ '}' :: t))
  | char {c : Char} {t : Text} : c ≠ '$' → IsExplicit t → IsExplicit (c :: t)

/-- Whether every brace that begins a reference is closed. -/
def Terminated (t : Text) : Prop := none ∉ references t

instance (t : Text) : Decidable (Terminated t) :=
  inferInstanceAs (Decidable (¬_))

end Replacement

/-- What a replacement written by hand says, piece by piece. -/
inductive Piece.Reads : Text → List Piece → Prop
  | nil : Reads [] []
  /-- A doubled dollar sign is one dollar sign. -/
  | dollar {t : Text} {ps : List Piece} : Reads t ps → Reads ('$' :: '$' :: t) (.char '$' :: ps)
  /-- Braces hold a reference. -/
  | braced {ref t : Text} {ps : List Piece} : '}' ∉ ref → Reads t ps →
      Reads ('$' :: '{' :: (ref ++ '}' :: t)) (.group (.ofText ref) :: ps)
  /-- Digits are a reference, as many as there are. -/
  | number {digits t : Text} {ps : List Piece} : digits ≠ [] →
      (∀ c ∈ digits, c.isDigit = true) → notBeginning Char.isDigit t → Reads t ps →
      Reads ('$' :: (digits ++ t)) (.group (.ofText digits) :: ps)
  /-- A dollar sign in front of anything else stands for itself. -/
  | lone {t : Text} {ps : List Piece} : notBeginning isRefStart t → Reads t ps →
      Reads ('$' :: t) (.char '$' :: ps)
  /-- So does any other character. -/
  | char {c : Char} {t : Text} {ps : List Piece} : c ≠ '$' → Reads t ps →
      Reads (c :: t) (.char c :: ps)

namespace Replacement
variable {c : Char} {t ref digits : Text}

/-! ## References in braces -/

section References

-- the equations of the function are worked out here, once for all lemmas about it
attribute [local simp] references

theorem references_dollar (t : Text) : references ('$' :: '$' :: t) = references t := by
  rw [references]

theorem references_braced (href : '}' ∉ ref) (t : Text) :
    references ('$' :: '{' :: (ref ++ '}' :: t)) = some ref :: references t := by
  rw [references, if_pos (contains_brace ref t), takeWhile_brace href, dropWhile_brace href]

theorem references_unclosed (ht : '}' ∉ t) : references ('$' :: '{' :: t) = [none] := by
  rw [references, if_neg (Bool.eq_false_iff.mp (contains_brace_eq_false ht))]

theorem references_char (hc : c ≠ '$') (t : Text) : references (c :: t) = references t := by
  rw [references] <;> simp [hc]

theorem references_lone (hdollar : ∀ u, t ≠ '$' :: u) (hopen : ∀ u, t ≠ '{' :: u) :
    references ('$' :: t) = references t := by
  rw [references]
  · exact fun u _ => hdollar u
  · exact fun u _ => hopen u

end References

theorem references_digits (hdigits : ∀ c ∈ digits, c.isDigit = true) (t : Text) :
    references (digits ++ t) = references t := by
  induction digits with
  | nil => rfl
  | cons d digits ih =>
    obtain ⟨hd, hrest⟩ := List.forall_mem_cons.mp hdigits
    have hdollar : d ≠ '$' := by
      rintro rfl
      cases hd
    rw [List.cons_append, references_char hdollar, ih hrest]

theorem references_number (hne : digits ≠ []) (hdigits : ∀ c ∈ digits, c.isDigit = true)
    (t : Text) : references ('$' :: (digits ++ t)) = references t := by
  rw [references_lone (ne_cons_of_digits hne hdigits rfl) (ne_cons_of_digits hne hdigits rfl),
    references_digits hdigits]

section Terminated

theorem terminated_nil : Terminated [] := by
  rw [Terminated, references]
  exact List.not_mem_nil

theorem terminated_dollar : Terminated ('$' :: '$' :: t) ↔ Terminated t := by
  rw [Terminated, references_dollar, Terminated]

theorem terminated_braced (href : '}' ∉ ref) :
    Terminated ('$' :: '{' :: (ref ++ '}' :: t)) ↔ Terminated t := by
  simp [Terminated, references_braced href]

theorem not_terminated_unclosed (ht : '}' ∉ t) : ¬Terminated ('$' :: '{' :: t) := by
  simp [Terminated, references_unclosed ht]

theorem terminated_number (hne : digits ≠ []) (hdigits : ∀ c ∈ digits, c.isDigit = true) :
    Terminated ('$' :: (digits ++ t)) ↔ Terminated t := by
  rw [Terminated, references_number hne hdigits, Terminated]

theorem terminated_lone (ht : notBeginning isRefStart t) :
    Terminated ('$' :: t) ↔ Terminated t := by
  rw [Terminated, references_lone (ne_cons_of_notBeginning ht rfl) (ne_cons_of_notBeginning ht rfl),
    Terminated]

theorem terminated_char (hc : c ≠ '$') : Terminated (c :: t) ↔ Terminated t := by
  rw [Terminated, references_char hc, Terminated]

/-- It is enough that a closing brace stands behind every opening one that follows a dollar
sign. -/
theorem terminated_of_forall_suffix (h : ∀ u, '$' :: '{' :: u <:+ t → '}' ∈ u) : Terminated t := by
  induction spelled t with
  | nil => exact terminated_nil
  | @dollar t _ ih =>
    have hsuffix : t <:+ '$' :: '$' :: t := List.suffix_append ['$', '$'] t
    exact terminated_dollar.mpr (ih fun u hu => h u (hu.trans hsuffix))
  | @braced ref t href _ ih =>
    have hsuffix : t <:+ '$' :: '{' :: (ref ++ '}' :: t) :=
      ⟨'$' :: '{' :: (ref ++ ['}']), by simp⟩
    exact (terminated_braced href).mpr (ih fun u hu => h u (hu.trans hsuffix))
  | unclosed ht => exact absurd (h _ List.suffix_rfl) ht
  | @number digits t hne hdigits _ _ ih =>
    have hsuffix : t <:+ '$' :: (digits ++ t) := List.suffix_append ('$' :: digits) t
    exact (terminated_number hne hdigits).mpr (ih fun u hu => h u (hu.trans hsuffix))
  | @lone t ht _ ih =>
    exact (terminated_lone ht).mpr (ih fun u hu => h u (hu.trans (List.suffix_cons '$' t)))
  | @char c t hc _ ih =>
    exact (terminated_char hc).mpr (ih fun u hu => h u (hu.trans (List.suffix_cons c t)))

/-- The explicit form leaves open what the replacement leaves open. -/
theorem terminated_explicit : Terminated (explicit t) ↔ Terminated t := by
  induction spelled t with
  | nil => rw [explicit_nil]
  | dollar _ ih => rw [explicit_dollar, terminated_dollar, terminated_dollar, ih]
  | braced href _ ih =>
    rw [explicit_braced href, terminated_braced href, terminated_braced href, ih]
  | unclosed ht => rw [explicit_unclosed ht]
  | number hne hdigits ht _ ih =>
    rw [explicit_number hne hdigits ht, terminated_braced (brace_notMem_of_digits hdigits),
      terminated_number hne hdigits, ih]
  | lone ht _ ih => rw [explicit_lone ht, terminated_dollar, terminated_lone ht, ih]
  | char hc _ ih => rw [explicit_char hc, terminated_char hc, terminated_char hc, ih]

end Terminated

/-! ## The normal form -/

/-- **Bringing a replacement into explicit form again** changes nothing. -/
theorem explicit_explicit (t : Text) : explicit (explicit t) = explicit t := by
  induction spelled t with
  | nil => rw [explicit_nil, explicit_nil]
  | dollar _ ih => rw [explicit_dollar, explicit_dollar, ih]
  | braced href _ ih => rw [explicit_braced href, explicit_braced href, ih]
  | unclosed ht => rw [explicit_unclosed ht, explicit_unclosed ht]
  | number hne hdigits ht _ ih =>
    rw [explicit_number hne hdigits ht, explicit_braced (brace_notMem_of_digits hdigits), ih]
  | lone ht _ ih => rw [explicit_lone ht, explicit_dollar, ih]
  | char hc _ ih => rw [explicit_char hc, explicit_char hc, ih]

theorem IsExplicit.explicit_eq (h : IsExplicit t) : explicit t = t := by
  induction h with
  | nil => exact explicit_nil
  | dollar _ ih => rw [explicit_dollar, ih]
  | braced href _ ih => rw [explicit_braced href, ih]
  | char hc _ ih => rw [explicit_char hc, ih]

theorem IsExplicit.terminated (h : IsExplicit t) : Terminated t := by
  induction h with
  | nil => exact terminated_nil
  | dollar _ ih => exact terminated_dollar.mpr ih
  | braced href _ ih => exact (terminated_braced href).mpr ih
  | char hc _ ih => exact (terminated_char hc).mpr ih

/-- A replacement in which no brace is left open has an explicit form. -/
theorem isExplicit_of_terminated (h : Terminated t) : IsExplicit (explicit t) := by
  induction spelled t with
  | nil =>
    rw [explicit_nil]
    exact .nil
  | dollar _ ih =>
    rw [explicit_dollar]
    exact .dollar (ih (terminated_dollar.mp h))
  | braced href _ ih =>
    rw [explicit_braced href]
    exact .braced href (ih ((terminated_braced href).mp h))
  | unclosed ht => exact absurd h (not_terminated_unclosed ht)
  | number hne hdigits ht _ ih =>
    rw [explicit_number hne hdigits ht]
    exact .braced (brace_notMem_of_digits hdigits) (ih ((terminated_number hne hdigits).mp h))
  | lone ht _ ih =>
    rw [explicit_lone ht]
    exact .dollar (ih ((terminated_lone ht).mp h))
  | char hc _ ih =>
    rw [explicit_char hc]
    exact .char hc (ih ((terminated_char hc).mp h))

/-- **The explicit form** is one, unless a brace is left open. -/
theorem isExplicit_explicit_iff : IsExplicit (explicit t) ↔ Terminated t :=
  ⟨fun h => terminated_explicit.mp h.terminated, isExplicit_of_terminated⟩

/-- **What is in explicit form** is what `explicit` leaves as it is and leaves no brace open. -/
theorem isExplicit_iff : IsExplicit t ↔ explicit t = t ∧ Terminated t := by
  constructor
  · exact fun h => ⟨h.explicit_eq, h.terminated⟩
  · rintro ⟨ht, hterminated⟩
    exact ht ▸ isExplicit_of_terminated hterminated

end Replacement

/-! ## What a replacement says -/

section Reads
open Replacement
variable {t : Text} {ps : List Piece}

theorem Piece.Reads.terminated (h : Piece.Reads t ps) : Terminated t := by
  induction h with
  | nil => exact terminated_nil
  | dollar _ ih => exact terminated_dollar.mpr ih
  | braced href _ ih => exact (terminated_braced href).mpr ih
  | number hne hdigits _ _ ih => exact (terminated_number hne hdigits).mpr ih
  | lone ht _ ih => exact (terminated_lone ht).mpr ih
  | char hc _ ih => exact (terminated_char hc).mpr ih

theorem Piece.Reads.written_eq (h : Piece.Reads t ps) : Piece.written t = ps := by
  induction h with
  | nil => exact Piece.written_nil
  | dollar _ ih => rw [Piece.written_dollar, ih]
  | braced href _ ih => rw [Piece.written_braced href, ih]
  | number hne hdigits ht _ ih => rw [Piece.written_number hne hdigits ht, ih]
  | lone ht _ ih => rw [Piece.written_lone ht, ih]
  | char hc _ ih => rw [Piece.written_char hc, ih]

theorem Piece.reads_written (h : Terminated t) : Piece.Reads t (Piece.written t) := by
  induction spelled t with
  | nil =>
    rw [Piece.written_nil]
    exact .nil
  | dollar _ ih =>
    rw [Piece.written_dollar]
    exact .dollar (ih (terminated_dollar.mp h))
  | braced href _ ih =>
    rw [Piece.written_braced href]
    exact .braced href (ih ((terminated_braced href).mp h))
  | unclosed ht => exact absurd h (not_terminated_unclosed ht)
  | number hne hdigits ht _ ih =>
    rw [Piece.written_number hne hdigits ht]
    exact .number hne hdigits ht (ih ((terminated_number hne hdigits).mp h))
  | lone ht _ ih =>
    rw [Piece.written_lone ht]
    exact .lone ht (ih ((terminated_lone ht).mp h))
  | char hc _ ih =>
    rw [Piece.written_char hc]
    exact .char hc (ih ((terminated_char hc).mp h))

/-- **A matcher takes the explicit form for what the replacement says**, if it says anything. -/
theorem Piece.reads_iff :
    Piece.Reads t ps ↔ Terminated t ∧ Piece.ofText (explicit t) = ps := by
  rw [ofText_explicit]
  constructor
  · exact fun h => ⟨h.terminated, h.written_eq⟩
  · rintro ⟨h, rfl⟩
    exact Piece.reads_written h

/-- **The references of a replacement** are those in braces of its explicit form. -/
theorem mem_references_explicit (h : Piece.Reads t ps) {g : GroupRef} :
    .group g ∈ ps ↔ ∃ ref, some ref ∈ references (explicit t) ∧ GroupRef.ofText ref = g := by
  induction h with
  | nil => simp [explicit_nil, references]
  | dollar _ ih => rw [explicit_dollar, references_dollar, ← ih]; simp
  | braced href _ ih =>
    rw [explicit_braced href, references_braced href]
    simp [ih, eq_comm]
  | number hne hdigits ht _ ih =>
    rw [explicit_number hne hdigits ht, references_braced (brace_notMem_of_digits hdigits)]
    simp [ih, eq_comm]
  | lone ht _ ih => rw [explicit_lone ht, references_dollar, ← ih]; simp
  | char hc _ ih => rw [explicit_char hc, references_char hc, ← ih]; simp

end Reads
end Gedcom.Regex
