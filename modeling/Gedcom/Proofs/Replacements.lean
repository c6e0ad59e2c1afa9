import Gedcom.Regex.Replacement
import Mathlib.Algebra.Order.BigOperators.Group.List
import Mathlib.Algebra.Order.Group.Nat
import Mathlib.Data.List.TakeWhile

/-!
# What replacements say

A replacement by hand refers to groups as `$1` and as `${name}`, and to a dollar sign as
`$$`; any other dollar sign stands for itself.  `Piece.written` reads a replacement in this
way.  `ofText_explicit` says that a matcher reads the explicit form of a replacement just so.

A text is *closed* if it does not end in the middle of a reference: what follows it does not
change what it says (`written_append`).  Behind any other text there are values that do
(`length_expand_append_lt`).
-/
namespace Gedcom.Regex

/-- The pieces of a replacement as it is written by hand.  If a brace is not closed, the rest
is read as a matcher reads it. -/
def Piece.written : Text → List Piece
  | [] => []
  | '$' :: '$' :: t => .char '$' :: written t
  | '$' :: '{' :: t =>
    if t.contains '}' then
      .group (.ofText (t.takeWhile (· != '}'))) :: written ((t.dropWhile (· != '}')).drop 1)
    else .char '$' :: .char '{' :: ofText t
  | '$' :: t =>
    if (t.takeWhile Char.isDigit).isEmpty then .char '$' :: written t
    else .group (.ofText (t.takeWhile Char.isDigit)) :: written (t.dropWhile Char.isDigit)
  | c :: t => .char c :: written t
termination_by t => t.length
decreasing_by
  · simp only [List.length_cons]; omega
  · have := length_drop_dropWhile_le (· != '}') t; simp only [List.length_cons]; omega
  · simp
  · have := (List.dropWhile_sublist Char.isDigit (l := t)).length_le
    simp only [List.length_cons]; omega
  · simp

/-- Whether a replacement does not end in a dollar sign or reference that what follows could
go on. -/
def isClosed : Text → Bool
  | [] => true
  | '$' :: '$' :: t => isClosed t
  | '$' :: '{' :: t => t.contains '}' && isClosed ((t.dropWhile (· != '}')).drop 1)
  | '$' :: t => !(t.dropWhile Char.isDigit).isEmpty && isClosed (t.dropWhile Char.isDigit)
  | _ :: t => isClosed t
termination_by t => t.length
decreasing_by
  · simp only [List.length_cons]; omega
  · have := length_drop_dropWhile_le (· != '}') t; simp only [List.length_cons]; omega
  · have := (List.dropWhile_sublist Char.isDigit (l := t)).length_le
    simp only [List.length_cons]; omega
  · simp

/-! ## How a replacement is put together -/

/-- Whether a text does not begin with a character that satisfies a test. -/
def notBeginning (p : Char → Bool) (t : Text) : Prop := ∀ c, t.head? = some c → p c = false

/-- Whether a character after a dollar sign makes the dollar sign more than itself. -/
def isRefStart (c : Char) : Bool := c == '$' || c == '{' || c.isDigit

/-- What a replacement by hand is put together of, from the left. -/
inductive Spelled : Text → Prop
  | nil : Spelled []
  /-- A doubled dollar sign. -/
  | dollar {t : Text} : Spelled t → Spelled ('$' :: '$' :: t)
  /-- A reference in braces. -/
  | braced {ref t : Text} : '}' ∉ ref → Spelled t → Spelled ('$' :: '{' :: (ref ++ '}' :: t))
  /-- A reference of which the brace is not closed. -/
  | unclosed {t : Text} : '}' ∉ t → Spelled ('$' :: '{' :: t)
  /-- A reference by number. -/
  | number {digits t : Text} : digits ≠ [] → (∀ c ∈ digits, c.isDigit = true) →
      notBeginning Char.isDigit t → Spelled t → Spelled ('$' :: (digits ++ t))
  /-- A dollar sign that stands for itself. -/
  | lone {t : Text} : notBeginning isRefStart t → Spelled t → Spelled ('$' :: t)
  /-- Any other character. -/
  | char {c : Char} {t : Text} : c ≠ '$' → Spelled t → Spelled (c :: t)

theorem notBeginning_dropWhile (p : Char → Bool) (t : Text) : notBeginning p (t.dropWhile p) := by
  intro c hc
  have := List.head?_dropWhile_not p t
  rw [hc] at this
  simpa using this

/-- A text with a closing brace is cut at the first one. -/
theorem exists_brace {t : Text} (h : t.contains '}' = true) :
    '}' ∉ t.takeWhile (· != '}') ∧
      t = t.takeWhile (· != '}') ++ '}' :: (t.dropWhile (· != '}')).drop 1 := by
  refine ⟨fun hmem => by simpa using List.mem_takeWhile_imp hmem, ?_⟩
  cases hdrop : t.dropWhile (· != '}') with
  | nil =>
    have hall := List.dropWhile_eq_nil_iff.mp hdrop '}' (by simpa using h)
    simp at hall
  | cons c rest =>
    obtain rfl : c = '}' := by
      have hnot := notBeginning_dropWhile (· != '}') t c (by rw [hdrop]; rfl)
      simpa using hnot
    rw [List.drop_one, List.tail_cons, ← hdrop, List.takeWhile_append_dropWhile]

/-- Every text can be read as a replacement. -/
theorem spelled (t : Text) : Spelled t := by
  fun_induction Replacement.explicit t with
  | case1 => exact .nil
  | case2 t ih => exact .dollar ih
  | case3 t hbrace ih =>
    obtain ⟨href, ht⟩ := exists_brace hbrace
    rw [ht]
    exact .braced href ih
  | case4 t hbrace => exact .unclosed (by simpa using hbrace)
  | case5 t hdollar hopen hdigits ih =>
    refine .lone (fun c hc => ?_) ih
    cases t with
    | nil => cases hc
    | cons d t =>
      obtain rfl : d = c := Option.some.inj hc
      have hdigit : d.isDigit = false := by
        by_contra h
        simp [List.takeWhile_cons, h] at hdigits
      have hd : d ≠ '$' := fun h => hdollar t (h ▸ rfl)
      have hd' : d ≠ '{' := fun h => hopen t (h ▸ rfl)
      simp [isRefStart, hd, hd', hdigit]
  | case6 t hdollar hopen hdigits ih =>
    have hsplit := List.takeWhile_append_dropWhile (p := Char.isDigit) (l := t)
    rw [← hsplit]
    exact .number (by simpa using hdigits) (fun c hc => List.mem_takeWhile_imp hc)
      (notBeginning_dropWhile _ t) ih
  | case7 c t hdollar hopen hlone ih =>
    exact .char hlone ih

/-! ## Reading a replacement -/

section Beginnings
variable {t ref digits rest : Text}

theorem contains_brace (ref rest : Text) : (ref ++ '}' :: rest).contains '}' = true := by
  simp

theorem contains_brace_eq_false (ht : '}' ∉ t) : t.contains '}' = false := by
  simpa using ht

theorem takeWhile_brace (href : '}' ∉ ref) (rest : Text) :
    (ref ++ '}' :: rest).takeWhile (· != '}') = ref := by
  rw [List.takeWhile_append_of_pos fun c hc => by simpa using fun h : c = '}' => href (h ▸ hc)]
  simp

theorem dropWhile_brace (href : '}' ∉ ref) (rest : Text) :
    ((ref ++ '}' :: rest).dropWhile (· != '}')).drop 1 = rest := by
  rw [List.dropWhile_append_of_pos fun c hc => by simpa using fun h : c = '}' => href (h ▸ hc)]
  simp

theorem takeWhile_of_notBeginning {p : Char → Bool} (h : notBeginning p t) :
    t.takeWhile p = [] := by
  cases t with
  | nil => rfl
  | cons c t => exact List.takeWhile_cons_of_neg (by simp [h c rfl])

theorem takeWhile_digits (hdigits : ∀ c ∈ digits, c.isDigit = true)
    (h : notBeginning Char.isDigit t) : (digits ++ t).takeWhile Char.isDigit = digits := by
  rw [List.takeWhile_append_of_pos hdigits, takeWhile_of_notBeginning h, List.append_nil]

theorem dropWhile_of_notBeginning {p : Char → Bool} (h : notBeginning p t) :
    t.dropWhile p = t := by
  cases t with
  | nil => rfl
  | cons c t => exact List.dropWhile_cons_of_neg (by simp [h c rfl])

theorem dropWhile_digits (hdigits : ∀ c ∈ digits, c.isDigit = true)
    (h : notBeginning Char.isDigit t) : (digits ++ t).dropWhile Char.isDigit = t := by
  rw [List.dropWhile_append_of_pos hdigits, dropWhile_of_notBeginning h]

end Beginnings

section Spelled
variable {c : Char} {t ref digits : Text}

theorem brace_notMem_of_digits (hdigits : ∀ c ∈ digits, c.isDigit = true) : '}' ∉ digits :=
  fun hmem => by simpa using hdigits _ hmem

/-- Digits do not begin with anything else. -/
theorem ne_cons_of_digits (hne : digits ≠ []) (hdigits : ∀ c ∈ digits, c.isDigit = true)
    (hc : c.isDigit = false) (u : Text) : digits ++ t ≠ c :: u := by
  obtain ⟨d, ds, rfl⟩ := List.exists_cons_of_ne_nil hne
  intro h
  obtain ⟨rfl, _⟩ := List.cons.inj h
  rw [hdigits d List.mem_cons_self] at hc
  cases hc

theorem ne_cons_of_notBeginning {p : Char → Bool} (ht : notBeginning p t) (hc : p c = true)
    (u : Text) : t ≠ c :: u := by
  rintro rfl
  rw [ht c rfl] at hc
  cases hc

theorem isDigit_of_notBeginning (ht : notBeginning isRefStart t) :
    notBeginning Char.isDigit t := by
  intro c hc
  have := ht c hc
  rw [isRefStart, Bool.or_eq_false_iff] at this
  exact this.2

-- the equations of these functions are worked out here, once for all lemmas about them
attribute [local simp] Piece.written isClosed Piece.ofText Replacement.explicit

namespace Piece

theorem written_nil : written [] = [] := by
  rw [written]

theorem written_dollar (t : Text) : written ('$' :: '$' :: t) = .char '$' :: written t := by
  rw [written]

theorem written_braced (href : '}' ∉ ref) (t : Text) :
    written ('$' :: '{' :: (ref ++ '}' :: t)) = .group (.ofText ref) :: written t := by
  rw [written, if_pos (contains_brace ref t), takeWhile_brace href, dropWhile_brace href]

theorem written_unclosed (ht : '}' ∉ t) :
    written ('$' :: '{' :: t) = .char '$' :: .char '{' :: ofText t := by
  rw [written, if_neg (Bool.eq_false_iff.mp (contains_brace_eq_false ht))]

theorem written_number (hne : digits ≠ []) (hdigits : ∀ c ∈ digits, c.isDigit = true)
    (ht : notBeginning Char.isDigit t) :
    written ('$' :: (digits ++ t)) = .group (.ofText digits) :: written t := by
  rw [written, takeWhile_digits hdigits ht, dropWhile_digits hdigits ht,
    if_neg (by simpa using hne)]
  · exact ne_cons_of_digits hne hdigits rfl
  · exact ne_cons_of_digits hne hdigits rfl

theorem written_lone (ht : notBeginning isRefStart t) :
    written ('$' :: t) = .char '$' :: written t := by
  rw [written, takeWhile_of_notBeginning (isDigit_of_notBeginning ht),
    if_pos List.isEmpty_nil]
  · exact ne_cons_of_notBeginning ht rfl
  · exact ne_cons_of_notBeginning ht rfl

theorem written_char (hc : c ≠ '$') (t : Text) : written (c :: t) = .char c :: written t := by
  rw [written] <;> simp [hc]

/-- A matcher reads references in braces as they are written. -/
theorem ofText_braced (href : '}' ∉ ref) (t : Text) :
    ofText ('$' :: '{' :: (ref ++ '}' :: t)) = .group (.ofText ref) :: ofText t := by
  rw [ofText, if_pos (contains_brace ref t), takeWhile_brace href, dropWhile_brace href]

theorem ofText_char (hc : c ≠ '$') (t : Text) : ofText (c :: t) = .char c :: ofText t := by
  rw [ofText] <;> simp [hc]

end Piece

namespace Replacement

theorem explicit_nil : explicit [] = [] := by
  rw [explicit]

theorem explicit_dollar (t : Text) : explicit ('$' :: '$' :: t) = '$' :: '$' :: explicit t := by
  rw [explicit]

theorem explicit_braced (href : '}' ∉ ref) (t : Text) :
    explicit ('$' :: '{' :: (ref ++ '}' :: t)) = '$' :: '{' :: (ref ++ '}' :: explicit t) := by
  rw [explicit, if_pos (contains_brace ref t), takeWhile_brace href, dropWhile_brace href,
    List.cons_append, List.cons_append]

theorem explicit_unclosed (ht : '}' ∉ t) : explicit ('$' :: '{' :: t) = '$' :: '{' :: t := by
  rw [explicit, if_neg (Bool.eq_false_iff.mp (contains_brace_eq_false ht))]

theorem explicit_number (hne : digits ≠ []) (hdigits : ∀ c ∈ digits, c.isDigit = true)
    (ht : notBeginning Char.isDigit t) :
    explicit ('$' :: (digits ++ t)) = '$' :: '{' :: (digits ++ '}' :: explicit t) := by
  rw [explicit, takeWhile_digits hdigits ht, dropWhile_digits hdigits ht,
    if_neg (by simpa using hne)]
  · rfl
  · exact ne_cons_of_digits hne hdigits rfl
  · exact ne_cons_of_digits hne hdigits rfl

theorem explicit_lone (ht : notBeginning isRefStart t) :
    explicit ('$' :: t) = '$' :: '$' :: explicit t := by
  rw [explicit, takeWhile_of_notBeginning (isDigit_of_notBeginning ht), if_pos List.isEmpty_nil]
  · exact ne_cons_of_notBeginning ht rfl
  · exact ne_cons_of_notBeginning ht rfl

theorem explicit_char (hc : c ≠ '$') (t : Text) : explicit (c :: t) = c :: explicit t := by
  rw [explicit] <;> simp [hc]

/-- **A matcher reads the explicit form** of a replacement as it is written by hand. -/
theorem ofText_explicit (t : Text) : Piece.ofText (explicit t) = Piece.written t := by
  induction spelled t with
  | nil => rw [explicit_nil, Piece.ofText, Piece.written_nil]
  | dollar _ ih => rw [explicit_dollar, Piece.ofText, Piece.written_dollar, ih]
  | braced href _ ih =>
    rw [explicit_braced href, Piece.ofText_braced href, Piece.written_braced href, ih]
  | unclosed ht =>
    have hnone := Bool.eq_false_iff.mp (contains_brace_eq_false ht)
    rw [explicit_unclosed ht, Piece.ofText, if_neg hnone, Piece.written_unclosed ht,
      Piece.ofText_char (by decide)]
  | number hne hdigits ht _ ih =>
    rw [explicit_number hne hdigits ht, Piece.ofText_braced (brace_notMem_of_digits hdigits),
      Piece.written_number hne hdigits ht, ih]
  | lone ht _ ih => rw [explicit_lone ht, Piece.ofText, Piece.written_lone ht, ih]
  | char hc _ ih => rw [explicit_char hc, Piece.ofText_char hc, Piece.written_char hc, ih]

end Replacement

/-! ## What follows a closed text -/

theorem isClosed_dollar (t : Text) : isClosed ('$' :: '$' :: t) = isClosed t := by
  rw [isClosed]

theorem isClosed_braced (href : '}' ∉ ref) (t : Text) :
    isClosed ('$' :: '{' :: (ref ++ '}' :: t)) = isClosed t := by
  rw [isClosed, contains_brace, dropWhile_brace href, Bool.true_and]

theorem isClosed_unclosed (ht : '}' ∉ t) : isClosed ('$' :: '{' :: t) = false := by
  rw [isClosed, contains_brace_eq_false ht, Bool.false_and]

theorem isClosed_number (hne : digits ≠ []) (hdigits : ∀ c ∈ digits, c.isDigit = true)
    (ht : notBeginning Char.isDigit t) :
    isClosed ('$' :: (digits ++ t)) = (!t.isEmpty && isClosed t) := by
  rw [isClosed, dropWhile_digits hdigits ht]
  · exact ne_cons_of_digits hne hdigits rfl
  · exact ne_cons_of_digits hne hdigits rfl

theorem isClosed_lone (ht : notBeginning isRefStart t) :
    isClosed ('$' :: t) = (!t.isEmpty && isClosed t) := by
  rw [isClosed, dropWhile_of_notBeginning (isDigit_of_notBeginning ht)]
  · exact ne_cons_of_notBeginning ht rfl
  · exact ne_cons_of_notBeginning ht rfl

theorem isClosed_char (hc : c ≠ '$') (t : Text) : isClosed (c :: t) = isClosed t := by
  rw [isClosed] <;> simp [hc]

end Spelled

theorem notBeginning_append {p : Char → Bool} {t : Text} (ht : notBeginning p t) (hne : t ≠ [])
    (u : Text) : notBeginning p (t ++ u) := by
  obtain ⟨c, t, rfl⟩ := List.exists_cons_of_ne_nil hne
  exact ht

/-- **What follows a closed text** does not change what it says. -/
theorem written_append {t : Text} (h : isClosed t = true) (u : Text) :
    Piece.written (t ++ u) = Piece.written t ++ Piece.written u := by
  induction spelled t with
  | nil => rw [Piece.written_nil, List.nil_append, List.nil_append]
  | dollar _ ih =>
    rw [isClosed_dollar] at h
    rw [List.cons_append, List.cons_append, Piece.written_dollar, Piece.written_dollar, ih h,
      List.cons_append]
  | braced href _ ih =>
    rw [isClosed_braced href] at h
    rw [List.cons_append, List.cons_append, List.append_assoc, List.cons_append,
      Piece.written_braced href, Piece.written_braced href, ih h, List.cons_append]
  | unclosed ht =>
    rw [isClosed_unclosed ht] at h
    cases h
  | @number digits t hne hdigits ht _ ih =>
    rw [isClosed_number hne hdigits ht, Bool.and_eq_true] at h
    have hrest : t ≠ [] := by simpa using h.1
    rw [List.cons_append, List.append_assoc, Piece.written_number hne hdigits ht,
      Piece.written_number hne hdigits (notBeginning_append ht hrest u), ih h.2, List.cons_append]
  | @lone t ht _ ih =>
    rw [isClosed_lone ht, Bool.and_eq_true] at h
    have hrest : t ≠ [] := by simpa using h.1
    rw [List.cons_append, Piece.written_lone ht,
      Piece.written_lone (notBeginning_append ht hrest u), ih h.2, List.cons_append]
  | char hc _ ih =>
    rw [isClosed_char hc] at h
    rw [List.cons_append, Piece.written_char hc, Piece.written_char hc, ih h, List.cons_append]

/-! ## What pieces make of a match -/

/-- What the pieces of a replacement make of a match. -/
def Piece.expand (r : Regex) (t : Text) (m : Match) (ps : List Piece) : Text :=
  ps.flatMap (Piece.text r t m)

/-- A substitution is carried out match by match, as the pieces of its replacement say. -/
theorem substitute_eq (r : Regex) (replacement t : Text) :
    r.substitute replacement t =
      r.replaceAll (fun t m => Piece.expand r t m (Piece.ofText replacement)) t := rfl

/-- No group has a name that is longer than a bound or a number that lies above it. -/
structure GroupsWithin (n : Nat) (r : Regex) (m : Match) : Prop where
  names : ∀ name, r.groupNamed? name ≠ none → name.length ≤ n
  slots : m.slots.length ≤ n

theorem notBeginning_brace (u : Text) : notBeginning Char.isDigit ('}' :: u) := by
  intro c hc
  rw [← Option.some.inj hc]
  rfl

/-- Digits and then a closing brace. -/
def digitsBrace (n : Nat) : Text := List.replicate (n + 1) '1' ++ ['}']

section Expand
variable {r : Regex} {m : Match} {n : Nat}

theorem exists_groupsWithin (r : Regex) (m : Match) : ∃ n, GroupsWithin n r m := by
  refine ⟨(r.node.groups.map fun g => (g.2.getD "").length).sum + m.slots.length, ?_, by omega⟩
  intro name hname
  obtain ⟨i, hi⟩ := Option.ne_none_iff_exists'.mp hname
  obtain ⟨g, hg, _⟩ := Option.map_eq_some_iff.mp hi
  have hgname : g.2 = some name := by simpa using List.find?_some hg
  have hle := List.le_sum_of_mem <|
    List.mem_map_of_mem (f := fun g => (g.2.getD "").length) (List.mem_of_find?_eq_some hg)
  simp only [hgname, Option.getD_some] at hle
  omega

theorem GroupsWithin.mono {k : Nat} (h : GroupsWithin n r m) (hle : n ≤ k) :
    GroupsWithin k r m :=
  ⟨fun name hname => (h.names name hname).trans hle, h.slots.trans hle⟩

@[simp] theorem Piece.expand_nil (t : Text) : Piece.expand r t m [] = [] := rfl

@[simp] theorem Piece.expand_cons (t : Text) (p : Piece) (ps : List Piece) :
    Piece.expand r t m (p :: ps) = p.text r t m ++ Piece.expand r t m ps := rfl

@[simp] theorem Piece.expand_append (t : Text) (ps qs : List Piece) :
    Piece.expand r t m (ps ++ qs) = Piece.expand r t m ps ++ Piece.expand r t m qs :=
  List.flatMap_append

@[simp] theorem Piece.expand_chars (t u : Text) : Piece.expand r t m (u.map .char) = u := by
  rw [Piece.expand, List.flatMap_map]
  exact List.flatMap_singleton' u

@[simp] theorem Piece.text_char (t : Text) (c : Char) : (Piece.char c).text r t m = [c] := rfl

theorem le_digitsValue (t : Text) (n : Nat) :
    n ≤ Text.digitsValue (t ++ List.replicate n '1') := by
  have hfold : ∀ k, k + n ≤ (List.replicate n '1').foldl
      (fun value c => 10 * value + (c.toNat - '0'.toNat)) k := by
    induction n with
    | zero => exact fun k => Nat.le_refl k
    | succ n ih =>
      intro k
      have hone : '1'.toNat - '0'.toNat = 1 := rfl
      have := ih (10 * k + 1)
      rw [List.replicate_succ, List.foldl_cons, hone]
      omega
  rw [Text.digitsValue, List.foldl_append]
  exact (Nat.le_add_left n _).trans (hfold _)

theorem group_eq_nil (h : GroupsWithin n r m) (t : Text) {i : Nat} (hi : n < i) :
    m.group t i = [] := by
  have hslot : m.slots[2 * i]? = none := List.getElem?_eq_none (by have := h.slots; omega)
  rw [Match.group, Match.span?, hslot]

theorem groupNamed?_eq_none (h : GroupsWithin n r m) {name : String} (hname : n < name.length) :
    r.groupNamed? name = none := by
  by_contra hne
  exact absurd (h.names name hne) (by omega)

/-- A reference is by name or by number, with or without a plus sign. -/
theorem GroupRef.ofText_cases (t : Text) :
    GroupRef.ofText t = .name (String.ofList t) ∨
      GroupRef.ofText t = .index (Text.digitsValue t) ∨
        ∃ u, t = '+' :: u ∧ GroupRef.ofText t = .index (Text.digitsValue u) := by
  unfold GroupRef.ofText
  dsimp only
  split
  · next u =>
    split
    · exact .inr (.inr ⟨u, rfl, rfl⟩)
    · exact .inl rfl
  · split
    · exact .inr (.inl rfl)
    · exact .inl rfl

/-- **Many digits at the end** of a reference leave it without a group. -/
theorem Piece.text_group_digits (h : GroupsWithin n r m) (t ref : Text) :
    Piece.text r t m (.group (.ofText (ref ++ List.replicate (n + 1) '1'))) = [] := by
  obtain hname | hindex | ⟨u, hu, hindex⟩ :=
    GroupRef.ofText_cases (ref ++ List.replicate (n + 1) '1')
  · have hlong : n < (String.ofList (ref ++ List.replicate (n + 1) '1')).length := by
      rw [String.length_ofList, List.length_append, List.length_replicate]
      omega
    rw [hname, Piece.text, groupNamed?_eq_none h hlong]
  · rw [hindex]
    exact group_eq_nil h t (le_digitsValue ref (n + 1))
  · obtain ⟨lead, rfl⟩ : ∃ lead, u = lead ++ List.replicate (n + 1) '1' := by
      cases ref with
      | nil => exact absurd (List.cons.inj hu).1 (by decide)
      | cons c ref => exact ⟨ref, (List.cons.inj hu).2.symm⟩
    rw [hindex]
    exact group_eq_nil h t (le_digitsValue lead (n + 1))

theorem length_digitsBrace (n : Nat) : (digitsBrace n).length = n + 2 := by
  rw [digitsBrace, List.length_append, List.length_replicate, List.length_singleton]

theorem digitsBrace_append (n : Nat) (u : Text) :
    digitsBrace n ++ u = List.replicate (n + 1) '1' ++ '}' :: u := by
  rw [digitsBrace, List.append_assoc, List.singleton_append]

/-- Digits and a brace are not left as they are behind a text, but make part of a reference to no
group: less is left than if they stood for themselves. -/
def Swallows (r : Regex) (m : Match) (n : Nat) (t : Text) : Prop :=
  ∀ s u, (Piece.expand r s m (Piece.written (t ++ (digitsBrace n ++ u)))).length <
    (Piece.expand r s m (Piece.written t)).length + (digitsBrace n).length +
      (Piece.expand r s m (Piece.written u)).length

/-- The brace closes a reference that is open. -/
theorem swallows_unclosed (hwithin : GroupsWithin n r m) {t : Text} (ht : '}' ∉ t) :
    Swallows r m n ('$' :: '{' :: t) := by
  intro s u
  have href : '}' ∉ t ++ List.replicate (n + 1) '1' := by
    rw [List.mem_append, not_or]
    exact ⟨ht, fun hmem => absurd (List.eq_of_mem_replicate hmem) (by decide)⟩
  have hlength := length_digitsBrace n
  rw [List.cons_append, List.cons_append, digitsBrace_append, ← List.append_assoc,
    Piece.written_braced href, Piece.expand_cons, Piece.text_group_digits hwithin,
    List.nil_append]
  omega

/-- The digits go on a number, which may have no digits so far. -/
theorem swallows_digits (hwithin : GroupsWithin n r m) {digits : Text}
    (hdigits : ∀ c ∈ digits, c.isDigit = true) : Swallows r m n ('$' :: digits) := by
  intro s u
  have hall : ∀ c ∈ digits ++ List.replicate (n + 1) '1', c.isDigit = true := by
    intro c hc
    rcases List.mem_append.mp hc with hc | hc
    · exact hdigits c hc
    · rw [List.eq_of_mem_replicate hc]
      rfl
  have hlength := length_digitsBrace n
  rw [List.cons_append, digitsBrace_append, ← List.append_assoc,
    Piece.written_number (by simp) hall (notBeginning_brace u), Piece.written_char (by decide),
    Piece.expand_cons, Piece.text_group_digits hwithin, List.nil_append, Piece.expand_cons,
    Piece.text_char, List.length_append, List.length_singleton]
  omega

/-- A piece in front makes no difference, if it is one whatever follows. -/
theorem Swallows.behind {t t' : Text} (h : Swallows r m n t) {p : Piece}
    (hp : ∀ v, Piece.written (t' ++ v) = p :: Piece.written (t ++ v)) : Swallows r m n t' := by
  intro s u
  have hrest := h s u
  have halone := hp []
  rw [List.append_nil, List.append_nil] at halone
  rw [hp, halone]
  simp only [Piece.expand_cons, List.length_append]
  omega

/-- **What follows another text** may change what it says: of digits and a brace, less is left
than if they stood for themselves. -/
theorem length_expand_append_lt {t : Text} (h : isClosed t = false)
    (hwithin : GroupsWithin n r m) : Swallows r m n t := by
  -- Only the last piece of a text is open; in front of it the text says what it says alone.
  induction spelled t with
  | nil =>
    rw [isClosed] at h
    cases h
  | dollar _ ih =>
    rw [isClosed_dollar] at h
    exact (ih h).behind fun v => Piece.written_dollar _
  | @braced ref t href _ ih =>
    rw [isClosed_braced href] at h
    have hpiece : ∀ v, Piece.written ('$' :: '{' :: (ref ++ '}' :: t) ++ v) =
        .group (.ofText ref) :: Piece.written (t ++ v) := by
      intro v
      rw [List.cons_append, List.cons_append, List.append_assoc, List.cons_append,
        Piece.written_braced href]
    exact (ih h).behind hpiece
  | unclosed ht => exact swallows_unclosed hwithin ht
  | @number digits t hne hdigits ht _ ih =>
    rw [isClosed_number hne hdigits ht] at h
    cases t with
    | nil =>
      rw [List.append_nil]
      exact swallows_digits hwithin hdigits
    | cons c t =>
      have hpiece : ∀ v, Piece.written ('$' :: (digits ++ c :: t) ++ v) =
          .group (.ofText digits) :: Piece.written (c :: t ++ v) := by
        intro v
        rw [List.cons_append, List.append_assoc, Piece.written_number hne hdigits
          (notBeginning_append ht (List.cons_ne_nil c t) v)]
      exact (ih (by simpa using h)).behind hpiece
  | @lone t ht _ ih =>
    rw [isClosed_lone ht] at h
    cases t with
    | nil => exact swallows_digits hwithin (List.forall_mem_nil _)
    | cons c t =>
      exact (ih (by simpa using h)).behind fun v =>
        Piece.written_lone (notBeginning_append ht (List.cons_ne_nil c t) v)
  | char hc _ ih =>
    rw [isClosed_char hc] at h
    exact (ih h).behind fun v => Piece.written_char hc _

end Expand
end Gedcom.Regex
