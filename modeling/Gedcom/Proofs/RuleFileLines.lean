import Gedcom.Proofs.Compilation
import Gedcom.RuleFile

/-!
# How the lines of a rule file may be written

A rule file leaves its author some freedom: the case of a keyword, the blanks
around and between the parts of a line, and the delimiter of a substitution.
`Writes` lists the lines that write a statement, and `IsSilent` the lines that
may stand between statements.  Nothing in `Writes` looks at how lines are read;
`ofLine?_of_writes` says that each of these lines is read as the statement it
writes.
-/
namespace Gedcom

namespace Text

/-- The characters of a text are looked at one by one, not the characters that there are. -/
instance {p : Char → Prop} [DecidablePred p] (t : Text) : Decidable (∀ c ∈ t, p c) :=
  List.decidableBAll p t

/-! ## Blanks at the ends of a text -/

/-- Blanks within a line. -/
def IsGap (t : Text) : Prop := ∀ c ∈ t, isBlank c = true ∧ c ≠ '\n'

instance (t : Text) : Decidable (IsGap t) := inferInstanceAs (Decidable (∀ c ∈ t, _))

/-- A text that neither begins nor ends with a blank. -/
structure IsTight (t : Text) : Prop where
  ne_nil : t ≠ []
  head : ∀ c ∈ t.head?, isBlank c = false
  last : ∀ c ∈ t.getLast?, isBlank c = false

/-- A text with blanks around it. -/
inductive Padded (t : Text) : Text → Prop
  | intro {pre post : Text} (hpre : IsGap pre) (hpost : IsGap post) : Padded t (pre ++ t ++ post)

theorem newline_notMem_of_isGap {t : Text} (h : IsGap t) : '\n' ∉ t := fun hmem =>
  (h _ hmem).2 rfl

theorem Padded.of_isGap {gap : Text} (h : IsGap gap) (t : Text) : Padded t (gap ++ t) := by
  have hpadded := Padded.intro (t := t) h (List.forall_mem_nil _)
  rw [List.append_nil] at hpadded
  exact hpadded

theorem Padded.newline_notMem {t l : Text} (h : Padded t l) (ht : '\n' ∉ t) : '\n' ∉ l := by
  cases h with
  | intro hpre hpost =>
    simp only [List.mem_append, not_or]
    exact ⟨⟨newline_notMem_of_isGap hpre, ht⟩, newline_notMem_of_isGap hpost⟩

theorem trimLeft_append_of_isGap {gap : Text} (h : IsGap gap) (t : Text) :
    trimLeft (gap ++ t) = trimLeft t :=
  List.dropWhile_append_of_pos fun c hc => (h c hc).1

theorem trimLeft_cons {c : Char} (h : isBlank c = false) (t : Text) :
    trimLeft (c :: t) = c :: t :=
  List.dropWhile_cons_of_neg (by simp [h])

theorem trimRight_append_of_isGap {gap : Text} (h : IsGap gap) (t : Text) :
    trimRight (t ++ gap) = trimRight t := by
  rw [trimRight, trimRight, List.reverse_append]
  exact congrArg List.reverse
    (List.dropWhile_append_of_pos fun c hc => (h c (List.mem_reverse.mp hc)).1)

theorem trimRight_concat {c : Char} (h : isBlank c = false) (t : Text) :
    trimRight (t ++ [c]) = t ++ [c] := by
  rw [trimRight, List.reverse_append, List.reverse_singleton, List.singleton_append,
    List.dropWhile_cons_of_neg (by simp [h]), List.reverse_cons, List.reverse_reverse]

/-- A text is kept from its first character on, if this is no blank. -/
theorem trimRight_cons {c : Char} (h : isBlank c = false) (t : Text) :
    trimRight (c :: t) = c :: trimRight t := by
  have hneg : ¬isBlank c = true := by rw [h]; exact Bool.false_ne_true
  rw [trimRight, List.reverse_cons, List.dropWhile_append, trimRight]
  split
  · rename_i hall
    rw [List.dropWhile_cons_of_neg hneg, List.isEmpty_iff.mp hall]
    rfl
  · rw [List.reverse_append, List.reverse_singleton, List.singleton_append]

theorem trimRight_of_isGap {t : Text} (h : IsGap t) : trimRight t = [] := by
  have hright := trimRight_append_of_isGap h []
  rw [List.nil_append] at hright
  rw [hright]
  rfl

theorem trim_of_isGap {t : Text} (h : IsGap t) : trim t = [] := by
  have hleft := trimLeft_append_of_isGap h []
  rw [List.append_nil] at hleft
  rw [trim, hleft]
  rfl

theorem IsTight.trimLeft_eq {t : Text} (ht : IsTight t) {gap : Text} (h : IsGap gap) (u : Text) :
    trimLeft (gap ++ t ++ u) = t ++ u := by
  rw [List.append_assoc, trimLeft_append_of_isGap h]
  cases t with
  | nil => exact absurd rfl ht.ne_nil
  | cons c t => exact trimLeft_cons (ht.head c rfl) _

theorem IsTight.trimRight_eq {t : Text} (ht : IsTight t) {gap : Text} (h : IsGap gap) (u : Text) :
    trimRight (u ++ t ++ gap) = u ++ t := by
  rw [trimRight_append_of_isGap h, ← List.dropLast_concat_getLast ht.ne_nil, ← List.append_assoc]
  exact trimRight_concat (ht.last _ (List.getLast?_eq_some_getLast ht.ne_nil)) _

/-- What blanks surround is found again. -/
theorem IsTight.trim_eq {t l : Text} (ht : IsTight t) (h : Padded t l) : trim l = t := by
  cases h with
  | intro hpre hpost =>
    rw [trim, ht.trimLeft_eq hpre]
    exact ht.trimRight_eq hpost []

/-- It is also found if the blanks behind it are dropped before. -/
theorem IsTight.trim_trimRight_eq {t l : Text} (ht : IsTight t) (h : Padded t l) :
    trim (trimRight l) = t := by
  cases h with
  | @intro pre _ hpre hpost =>
    rw [ht.trimRight_eq hpost]
    exact ht.trim_eq (.of_isGap hpre t)

/-- The first character of a line is found behind blanks. -/
theorem trim_of_padded_cons {c : Char} {t l : Text} (hc : isBlank c = false)
    (h : Padded (c :: t) l) : trim l = c :: trimRight t := by
  cases h with
  | intro hpre hpost =>
    rw [trim, List.append_assoc, trimLeft_append_of_isGap hpre, List.cons_append, trimLeft_cons hc,
      ← List.cons_append, trimRight_append_of_isGap hpost, trimRight_cons hc]

theorem IsTight.append {t u : Text} (ht : IsTight t) (hu : IsTight u) (m : Text) :
    IsTight (t ++ m ++ u) where
  ne_nil h := ht.ne_nil (List.append_eq_nil_iff.mp (List.append_eq_nil_iff.mp h).1).1
  head c hc := by
    rw [List.append_assoc, List.head?_append_of_ne_nil _ ht.ne_nil] at hc
    exact ht.head c hc
  last c hc := by
    rw [List.getLast?_append_of_ne_nil _ hu.ne_nil] at hc
    exact hu.last c hc

/-- A word without blanks begins and ends with no blank. -/
theorem isTight_of_forall {t : Text} (hne : t ≠ []) (h : ∀ c ∈ t, isBlank c = false) :
    IsTight t :=
  ⟨hne, fun c hc => h c (List.mem_of_mem_head? hc), fun c hc => h c (List.mem_of_mem_getLast? hc)⟩

/-- A text is cut at its first separator. -/
theorem cut?_append_cons {sep : Char → Bool} {t : Text} {c : Char} (h : ∀ d ∈ t, sep d = false)
    (hc : sep c = true) (rest : Text) : cut? sep (t ++ c :: rest) = some (t, rest) := by
  have hpos : ∀ d ∈ t, (!sep d) = true := fun d hd => by rw [h d hd]; rfl
  have hneg : ¬(!sep c) = true := by rw [hc]; exact Bool.false_ne_true
  rw [cut?, List.dropWhile_append_of_pos hpos, List.takeWhile_append_of_pos hpos,
    List.dropWhile_cons_of_neg (p := fun c => !sep c) hneg,
    List.takeWhile_cons_of_neg (p := fun c => !sep c) hneg, List.append_nil]

theorem cut?_eq_none {sep : Char → Bool} {t : Text} (h : ∀ d ∈ t, sep d = false) :
    cut? sep t = none := by
  have hdrop : (t ++ []).dropWhile (fun c => !sep c) = [] :=
    List.dropWhile_append_of_pos fun d hd => by rw [h d hd]; rfl
  rw [List.append_nil] at hdrop
  rw [cut?, hdrop]

/-! ## Fields -/

section Fields
variable {sep : Char → Bool}

theorem fields_eq_singleton {t : Text} (hne : t ≠ []) (h : ∀ c ∈ t, sep c = false) :
    fields sep t = [t] := by
  rw [fields, pieces_eq_singleton h, List.filter_cons_of_pos (by simpa using hne), List.filter_nil]

/-- Separators in front of a text make no fields. -/
theorem fields_append_of_forall {gap : Text} (h : ∀ c ∈ gap, sep c = true) (t : Text) :
    fields sep (gap ++ t) = fields sep t := by
  induction gap with
  | nil => rfl
  | cons c gap ih =>
    obtain ⟨hc, hgap⟩ := List.forall_mem_cons.mp h
    have hpieces : pieces sep (c :: (gap ++ t)) = [] :: pieces sep (gap ++ t) :=
      pieces_append_cons (t := []) (List.forall_mem_nil _) hc
    rw [← ih hgap, fields, fields, List.cons_append, hpieces]
    rfl

/-- A field ends where separators begin. -/
theorem fields_append {t gap : Text} (hne : t ≠ []) (h : ∀ c ∈ t, sep c = false)
    (hgap : gap ≠ []) (hsep : ∀ c ∈ gap, sep c = true) (rest : Text) :
    fields sep (t ++ gap ++ rest) = t :: fields sep rest := by
  cases gap with
  | nil => exact absurd rfl hgap
  | cons c gap =>
    obtain ⟨hc, hgap⟩ := List.forall_mem_cons.mp hsep
    rw [List.append_assoc, List.cons_append, fields, pieces_append_cons h hc,
      List.filter_cons_of_pos (by simpa using hne)]
    exact congrArg (t :: ·) (fields_append_of_forall hgap rest)

end Fields

/-! ## Capitals -/

/-- A capital letter or one of the few marks behind the capitals, as they stand in keywords. -/
def IsCapital (c : Char) : Prop := 0x41 ≤ c.toNat ∧ c.toNat < 0x61

instance (c : Char) : Decidable (IsCapital c) := inferInstanceAs (Decidable (_ ∧ _))

/-- A text writes a word in any case. -/
def Spells (word t : Text) : Prop := t.map Char.toUpper = word

instance (word t : Text) : Decidable (Spells word t) := inferInstanceAs (Decidable (_ = _))

/-- The small letters are the characters that are not their own capital. -/
theorem toUpper_eq_self_or (c : Char) :
    c.toUpper = c ∨ 0x61 ≤ c.toNat ∧ c.toNat ≤ 0x7a := by
  unfold Char.toUpper
  split
  · rename_i h
    exact .inr ⟨h.1, h.2⟩
  · exact .inl rfl

/-- The characters that have a capital are the capitals and the small letters. -/
theorem toNat_of_isCapital {c : Char} (h : IsCapital c.toUpper) :
    0x41 ≤ c.toNat ∧ c.toNat ≤ 0x7a := by
  obtain hc | ⟨hlo, hhi⟩ := toUpper_eq_self_or c
  · rw [hc] at h
    obtain ⟨hlo, hhi⟩ := h
    omega
  · omega

theorem upper_small (n : Fin 26) :
    upper [Char.ofNat (0x61 + n)] = [(Char.ofNat (0x61 + n)).toUpper] := by
  revert n
  decide

theorem upper_singleton {c : Char} (h : IsCapital c.toUpper) : upper [c] = [c.toUpper] := by
  by_cases hsmall : 0x61 ≤ c.toNat
  · have hhi := (toNat_of_isCapital h).2
    have hc : Char.ofNat (0x61 + (c.toNat - 0x61)) = c := by
      rw [Nat.add_sub_cancel' hsmall, Char.ofNat_toNat]
    have key := upper_small ⟨c.toNat - 0x61, by omega⟩
    rw [hc] at key
    exact key
  · obtain hc | ⟨hlo, _⟩ := toUpper_eq_self_or c
    · rw [hc, upper, List.flatMap_singleton, if_pos (by omega)]
    · exact absurd hlo hsmall

/-- A character of a keyword in any case is no blank, no bar and no number sign. -/
theorem isBlank_of_isCapital {c : Char} (h : IsCapital c.toUpper) : isBlank c = false := by
  obtain ⟨hlo, hhi⟩ := toNat_of_isCapital h
  simp only [isBlank, blankChars, blankRanges, CharSet.contains, CharSet.inRanges]
  split <;> simp
  omega

theorem ne_of_isCapital {c d : Char} (h : IsCapital c.toUpper)
    (hd : d.toNat < 0x41 ∨ 0x7a < d.toNat) : c ≠ d := by
  rintro rfl
  have hc := toNat_of_isCapital h
  omega

section Spells
variable {word t : Text} (hword : ∀ c ∈ word, IsCapital c) (h : Spells word t)
include hword h

theorem Spells.isCapital : ∀ c ∈ t, IsCapital c.toUpper := by
  intro c hc
  rw [Spells] at h
  exact hword c.toUpper (h ▸ List.mem_map_of_mem hc)

/-- Upper case finds the word that a text spells. -/
theorem Spells.upper_eq : upper t = word := by
  have hchars := h.isCapital hword
  rw [← h]
  clear h
  induction t with
  | nil => rfl
  | cons c t ih =>
    obtain ⟨hc, ht⟩ := List.forall_mem_cons.mp hchars
    have happend : upper ([c] ++ t) = upper [c] ++ upper t := List.flatMap_append
    rw [upper_singleton hc, ih ht] at happend
    exact happend

theorem Spells.isBlank_eq_false : ∀ c ∈ t, isBlank c = false := fun c hc =>
  isBlank_of_isCapital (h.isCapital hword c hc)

end Spells

theorem Spells.ne_nil {word t : Text} (h : Spells word t) (hne : word ≠ []) : t ≠ [] := by
  rintro rfl
  exact hne h.symm

end Text

namespace RuleFile
open Text

/-! ## The writing of statements -/

/-- The word of a setting. -/
def Setting.word : Setting → String
  | .references => "REFERENCES"
  | .noSchema => "NO_SCHEMA"
  | .wrapsTightly => "WRAP_CONC"

/-- A text lists some settings, in any case, with blanks and bars between them. -/
inductive Lists : List Setting → Text → Prop
  | one {g : Setting} {t : Text} (ht : Spells g.word.toList t) : Lists [g] t
  | more {g : Setting} {gs : List Setting} {t gap rest : Text} (ht : Spells g.word.toList t)
      (hne : gap ≠ []) (hgap : ∀ c ∈ gap, (isBlank c || c == '|') = true ∧ c ≠ '\n')
      (hrest : Lists gs rest) : Lists (g :: gs) (t ++ gap ++ rest)

/-- A text writes a substitution: the search and the escaped replacement, each between two
delimiters that occur in neither. -/
inductive Delimits (s : Substitution) : Text → Prop
  | intro {c : Char} {gap : Text} (hc : isBlank c = false) (hsearch : c ∉ s.search.toList)
      (hreplacement : c ∉ escape s.replacement.toList) (hgap : IsGap gap) :
      Delimits s ([c] ++ (s.search.toList ++ c :: (gap ++ c :: escape s.replacement.toList)) ++ [c])

/-- The keyword and the rest of a statement, and whether a bar stands in front of them. -/
inductive Phrase : (barred : Bool) → (keyword : String) → (rest : Text) → Statement → Prop
  | filter (name : String) : Phrase false "FILTER" name.toList (.filter name)
  | settings {given : List Setting} {t : Text} (ht : Lists given t) :
      Phrase false "OPTION" t (.settings given)
  | before (name : String) : Phrase false "BEFORE" name.toList (.before name)
  | after (name : String) : Phrase false "AFTER" name.toList (.after name)
  | openMacro (name : String) : Phrase false "MACRO" name.toList (.openMacro name)
  | openRule (pattern : String) : Phrase false "RULE" pattern.toList (.openRule pattern)
  | substitute {s : Substitution} {t : Text} (ht : Delimits s t) :
      Phrase true "CHANGE" t (.operation (.substitute s))
  | useMacro (name : String) : Phrase true "MACRO" name.toList (.operation (.useMacro name))

/-- A keyword in any case, and what follows it behind some blanks. -/
inductive Clause (keyword : String) (rest : Text) : Text → Prop
  | intro {t gap : Text} (ht : Spells keyword.toList t) (hne : gap ≠ []) (hgap : IsGap gap) :
      Clause keyword rest (t ++ gap ++ rest)

/-- A line writes a statement, with any blanks around it and around its bar. -/
inductive Writes (s : Statement) : Text → Prop
  | plain {keyword : String} {rest t l : Text} (hs : Phrase false keyword rest s)
      (ht : Clause keyword rest t) (hl : Padded t l) : Writes s l
  | barred {keyword : String} {rest t u l : Text} (hs : Phrase true keyword rest s)
      (ht : Clause keyword rest t) (hu : Padded t u) (hl : Padded ('|' :: u) l) : Writes s l

/-- A line that is written out in its parts. -/
theorem Writes.of_parts {s : Statement} {keyword : String} {rest : Text} (pre t gap post : Text)
    (hs : Phrase false keyword rest s)
    (h : Spells keyword.toList t ∧ gap ≠ [] ∧ IsGap gap ∧ IsGap pre ∧ IsGap post) :
    Writes s (pre ++ (t ++ gap ++ rest) ++ post) := by
  obtain ⟨ht, hne, hgap, hpre, hpost⟩ := h
  exact .plain hs (.intro ht hne hgap) (.intro hpre hpost)

/-- A line with a bar that is written out in its parts. -/
theorem Writes.of_barred_parts {s : Statement} {keyword : String} {rest : Text}
    (pre inner t gap post : Text) (hs : Phrase true keyword rest s)
    (h : Spells keyword.toList t ∧ gap ≠ [] ∧ IsGap gap ∧ IsGap pre ∧ IsGap inner ∧ IsGap post) :
    Writes s (pre ++ '|' :: (inner ++ (t ++ gap ++ rest) ++ post)) := by
  obtain ⟨ht, hne, hgap, hpre, hinner, hpost⟩ := h
  exact .barred hs (.intro ht hne hgap) (.intro hinner hpost) (.of_isGap hpre _)

/-- A line says nothing: it is blank, a comment, or a bar alone. -/
inductive IsSilent : Text → Prop
  | blank {l : Text} (hl : IsGap l) : IsSilent l
  | comment {gap t : Text} (hgap : IsGap gap) (ht : '\n' ∉ t) : IsSilent (gap ++ '#' :: t)
  | bar {gap after : Text} (hgap : IsGap gap) (hafter : IsGap after) :
      IsSilent (gap ++ '|' :: after)

/-! ## What can be written -/

/-- A name that one word can write. -/
def IsName (name : String) : Prop := name ≠ "" ∧ ∀ c ∈ name.toList, isBlank c = false

instance (name : String) : Decidable (IsName name) := inferInstanceAs (Decidable (_ ∧ _))

/-- An operation that a rule file can have: its search stays on one line, its macro is a name,
and it does not ask for the hook. -/
def IsWritable : Op → Prop
  | .substitute s => '\n' ∉ s.search.toList
  | .useMacro name => IsName name
  | .convert => False

instance : (op : Op) → Decidable (IsWritable op)
  | .substitute s => inferInstanceAs (Decidable ('\n' ∉ s.search.toList))
  | .useMacro name => inferInstanceAs (Decidable (IsName name))
  | .convert => inferInstanceAs (Decidable False)

/-- A statement that a line can write. -/
def Statement.IsWritable : Statement → Prop
  | .filter name | .before name | .after name | .openMacro name | .openRule name => IsName name
  | .settings _ => True
  | .operation op => RuleFile.IsWritable op

/-! ## Reading the parts of a line -/

theorem isTight_of_isName {name : String} (h : IsName name) : IsTight name.toList :=
  isTight_of_forall (fun hnil => h.1 (String.toList_eq_nil_iff.mp hnil)) h.2

theorem argument_of_isName {name : String} (h : IsName name) (keyword : String) :
    argument keyword name.toList = .ok name := by
  have hwords : words name.toList = [name.toList] :=
    fields_eq_singleton (isTight_of_isName h).ne_nil h.2
  rw [argument, hwords]
  exact congrArg Except.ok (String.ofList_toList)

theorem isCapital_word (g : Setting) : ∀ c ∈ g.word.toList, IsCapital c := by
  cases g <;> decide

theorem ofWord_word (g : Setting) : Setting.ofWord g.word = .ok g := by
  cases g <;> rfl

theorem word_ne_nil (g : Setting) : g.word.toList ≠ [] := by
  cases g <;> decide

section Word
variable {g : Setting} {t : Text} (ht : Spells g.word.toList t)
include ht

theorem Spells.isTight : IsTight t :=
  isTight_of_forall (ht.ne_nil (word_ne_nil g)) (ht.isBlank_eq_false (isCapital_word g))

/-- The word of a setting holds nothing that separates words. -/
theorem separates_eq_false : ∀ c ∈ t, (isBlank c || c == '|') = false := by
  intro c hc
  have hbar : c ≠ '|' := ne_of_isCapital (ht.isCapital (isCapital_word g) c hc) (by decide)
  rw [ht.isBlank_eq_false (isCapital_word g) c hc, beq_eq_false_iff_ne.mpr hbar]
  rfl

theorem ofWord_of_spells : Setting.ofWord (String.ofList (upper t)) = .ok g := by
  rw [ht.upper_eq (isCapital_word g), String.ofList_toList, ofWord_word]

end Word

theorem Lists.isTight {gs : List Setting} {t : Text} (h : Lists gs t) : IsTight t := by
  induction h with
  | one ht => exact Spells.isTight ht
  | more ht _ _ _ ih => exact (Spells.isTight ht).append ih _

theorem Lists.ne_nil {gs : List Setting} {t : Text} (h : Lists gs t) : gs ≠ [] := by
  cases h <;> exact List.cons_ne_nil _ _

/-- The settings of a list are found in it. -/
theorem Lists.settingsOf_eq {gs : List Setting} {t : Text} (h : Lists gs t) :
    settingsOf t = .ok gs := by
  have key : (fields (fun c => isBlank c || c == '|') t).mapM
      (fun w => Setting.ofWord (String.ofList (upper w))) = .ok gs := by
    induction h with
    | one ht =>
      rw [fields_eq_singleton (Spells.isTight ht).ne_nil (separates_eq_false ht), mapM_eq_ok]
      exact .cons (ofWord_of_spells ht) .nil
    | more ht hne hgap _ ih =>
      rw [fields_append (Spells.isTight ht).ne_nil (separates_eq_false ht) hne
        fun c hc => (hgap c hc).1, mapM_eq_ok]
      exact .cons (ofWord_of_spells ht) (mapM_eq_ok.mp ih)
  refine bind_eq_ok.mpr ⟨gs, key, ?_⟩
  rw [if_neg fun hempty => h.ne_nil (List.isEmpty_iff.mp hempty)]
  rfl

theorem Delimits.isTight {s : Substitution} {t : Text} (h : Delimits s t) : IsTight t := by
  cases h with
  | intro hc _ _ _ =>
    have hsingle := isTight_of_forall (List.cons_ne_nil _ [])
      fun d hd => (List.mem_singleton.mp hd) ▸ hc
    exact hsingle.append hsingle _

/-- A delimited string is found, whatever follows it. -/
theorem delimited_eq {c : Char} {gap t : Text} {expected : Option Char}
    (hexpected : expected.any (· != c) = false) (hgap : IsGap gap) (hc : isBlank c = false)
    (ht : c ∉ t) (rest : Text) :
    delimited expected (gap ++ c :: (t ++ c :: rest)) = .ok (c, t, rest) := by
  have hother : ∀ d ∈ t, (d == c) = false := fun d hd =>
    beq_eq_false_iff_ne.mpr fun he => ht (he ▸ hd)
  rw [delimited, trimLeft_append_of_isGap hgap, trimLeft_cons hc]
  show (if expected.any (· != c) then _ else _) = _
  rw [hexpected, if_neg Bool.false_ne_true, cut?_append_cons hother (beq_self_eq_true c)]

/-- A string without its delimiter is no delimited string. -/
theorem delimited_eq_error {c : Char} {expected : Option Char}
    (hexpected : expected.any (· != c) = false) {gap t : Text} (hgap : IsGap gap)
    (hc : isBlank c = false) (ht : c ∉ t) :
    delimited expected (gap ++ c :: t) = .error (.openString c) := by
  have hother : ∀ d ∈ t, (d == c) = false := fun d hd =>
    beq_eq_false_iff_ne.mpr fun he => ht (he ▸ hd)
  rw [delimited, trimLeft_append_of_isGap hgap, trimLeft_cons hc]
  show (if expected.any (· != c) then _ else _) = _
  rw [hexpected, if_neg Bool.false_ne_true, cut?_eq_none hother]

/-- Two delimited strings write a substitution. -/
theorem change_eq {c : Char} {gap search replacement : Text} (hc : isBlank c = false)
    (hsearch : c ∉ search) (hreplacement : c ∉ replacement) (hgap : IsGap gap) :
    change ([c] ++ (search ++ c :: (gap ++ c :: replacement)) ++ [c]) =
      .ok ⟨String.ofList search, String.ofList (unescape replacement)⟩ := by
  have hsame : (some c).any (· != c) = false := by simp
  have hfirst : delimited none ([] ++ c :: (search ++ c :: (gap ++ c :: (replacement ++ [c])))) =
      .ok _ := delimited_eq rfl (List.forall_mem_nil _) hc hsearch _
  have hsecond := delimited_eq hsame hgap hc hreplacement []
  have hshape : [c] ++ (search ++ c :: (gap ++ c :: replacement)) ++ [c] =
      [] ++ c :: (search ++ c :: (gap ++ c :: (replacement ++ [c]))) := by
    simp
  rw [hshape, change, if_neg (by simp), hfirst]
  show delimited (some c) _ >>= _ = _
  rw [hsecond]
  rfl

/-- A written substitution is found. -/
theorem Delimits.change_eq {s : Substitution} {t : Text} (h : Delimits s t) :
    change t = .ok s := by
  cases h with
  | intro hc hsearch hreplacement hgap =>
    rw [RuleFile.change_eq hc hsearch hreplacement hgap, unescape_escape, String.ofList_toList,
      String.ofList_toList]

/-! ## Reading a line -/

theorem isCapital_keyword {barred : Bool} {keyword : String} {rest : Text} {s : Statement}
    (h : Phrase barred keyword rest s) : ∀ c ∈ keyword.toList, IsCapital c := by
  cases h <;> decide

theorem keyword_ne_nil {barred : Bool} {keyword : String} {rest : Text} {s : Statement}
    (h : Phrase barred keyword rest s) : keyword.toList ≠ [] := by
  cases h <;> decide

theorem isTight_rest {barred : Bool} {keyword : String} {rest : Text} {s : Statement}
    (h : Phrase barred keyword rest s) (hs : s.IsWritable) : IsTight rest := by
  cases h with
  | settings ht => exact ht.isTight
  | substitute ht => exact ht.isTight
  | _ => exact isTight_of_isName hs

section Clause
variable {keyword : String} {rest t : Text} (hcapital : ∀ c ∈ keyword.toList, IsCapital c)
  (hkeyword : keyword.toList ≠ []) (hrest : IsTight rest) (h : Clause keyword rest t)
include hcapital hkeyword hrest h

/-- A clause begins with a letter and does not end with a blank. -/
theorem exists_cons_of_clause :
    ∃ c u, t = c :: u ∧ IsTight (c :: u) ∧ IsCapital c.toUpper := by
  cases h with
  | @intro t gap ht hne hgap =>
    have htight : IsTight (t ++ gap ++ rest) :=
      (isTight_of_forall (ht.ne_nil hkeyword) (ht.isBlank_eq_false hcapital)).append hrest _
    cases t with
    | nil => exact absurd rfl (ht.ne_nil hkeyword)
    | cons c t =>
      exact ⟨c, t ++ gap ++ rest, rfl, htight, ht.isCapital hcapital c List.mem_cons_self⟩

omit hkeyword in
theorem keywordOf_clause : keywordOf t = (keyword, rest) := by
  cases h with
  | @intro t gap ht hne hgap =>
    cases gap with
    | nil => exact absurd rfl hne
    | cons c gap =>
      obtain ⟨hc, hgap⟩ := List.forall_mem_cons.mp hgap
      have htrim : trim (gap ++ rest) = rest := hrest.trim_eq (.of_isGap hgap rest)
      rw [List.append_assoc, List.cons_append, keywordOf,
        cut?_append_cons (ht.isBlank_eq_false hcapital) hc.1]
      show (String.ofList (upper t), trim (gap ++ rest)) = _
      rw [ht.upper_eq hcapital, String.ofList_toList, htrim]

/-- A line with a bar says what its clause says. -/
theorem ofLine?_of_clause {u l : Text} (hu : Padded t u) (hl : Padded ('|' :: u) l) :
    Statement.ofLine? l = some <$> Statement.continuation keyword rest := by
  have hkeywordOf := keywordOf_clause hcapital hrest h
  obtain ⟨c, v, rfl, htight, -⟩ := exists_cons_of_clause hcapital hkeyword hrest h
  have htrim : trim (trimRight u) = c :: v := htight.trim_trimRight_eq hu
  unfold Statement.ofLine?
  rw [trim_of_padded_cons (by decide) hl]
  show (if (trim (trimRight u)).isEmpty then _ else _) = _
  rw [htrim, List.isEmpty_cons, if_neg Bool.false_ne_true]
  show some <$> Statement.continuation (keywordOf (c :: v)).1 (keywordOf (c :: v)).2 = _
  rw [hkeywordOf]

end Clause

/-- What a keyword and its rest say. -/
theorem command_of_phrase {keyword : String} {rest : Text} {s : Statement}
    (h : Phrase false keyword rest s) (hs : s.IsWritable) :
    Statement.command keyword rest = .ok s := by
  cases h with
  | filter => exact congrArg (Statement.filter <$> ·) (argument_of_isName hs _)
  | settings ht => exact congrArg (Statement.settings <$> ·) ht.settingsOf_eq
  | before => exact congrArg (Statement.before <$> ·) (argument_of_isName hs _)
  | after => exact congrArg (Statement.after <$> ·) (argument_of_isName hs _)
  | openMacro => exact congrArg (Statement.openMacro <$> ·) (argument_of_isName hs _)
  | openRule => exact congrArg (Statement.openRule <$> ·) (argument_of_isName hs _)

theorem continuation_of_phrase {keyword : String} {rest : Text} {s : Statement}
    (h : Phrase true keyword rest s) (hs : s.IsWritable) :
    Statement.continuation keyword rest = .ok s := by
  cases h with
  | substitute ht =>
    exact congrArg ((fun s => Statement.operation (.substitute s)) <$> ·) ht.change_eq
  | useMacro =>
    exact congrArg ((fun name => Statement.operation (.useMacro name)) <$> ·)
      (argument_of_isName hs _)

/-- **A line is read as the statement that it writes.** -/
theorem ofLine?_of_writes {s : Statement} {l : Text} (h : Writes s l) (hs : s.IsWritable) :
    Statement.ofLine? l = .ok (some s) := by
  cases h with
  | plain hphrase ht hl =>
    have hcapital := isCapital_keyword hphrase
    have hrest := isTight_rest hphrase hs
    have hkeyword := keywordOf_clause hcapital hrest ht
    obtain ⟨c, u, rfl, htight, hc⟩ :=
      exists_cons_of_clause hcapital (keyword_ne_nil hphrase) hrest ht
    unfold Statement.ofLine?
    rw [htight.trim_eq hl]
    -- the first character is a letter, so that the line is none of the special ones
    split
    · rename_i hnil
      cases hnil
    · rename_i hcons
      exact absurd (List.cons.inj hcons).1 (ne_of_isCapital hc (by decide))
    · rename_i hcons
      exact absurd (List.cons.inj hcons).1 (ne_of_isCapital hc (by decide))
    · rw [hkeyword]
      exact congrArg (some <$> ·) (command_of_phrase hphrase hs)
  | barred hphrase ht hu hl =>
    rw [ofLine?_of_clause (isCapital_keyword hphrase) (keyword_ne_nil hphrase)
      (isTight_rest hphrase hs) ht hu hl]
    exact congrArg (some <$> ·) (continuation_of_phrase hphrase hs)

/-- A silent line says nothing. -/
theorem ofLine?_of_isSilent {l : Text} (h : IsSilent l) : Statement.ofLine? l = .ok none := by
  cases h with
  | blank hl => rw [Statement.ofLine?, trim_of_isGap hl]
  | comment hgap _ =>
    rw [Statement.ofLine?, trim_of_padded_cons (by decide) (.of_isGap hgap _)]
    rfl
  | bar hgap hafter =>
    rw [Statement.ofLine?, trim_of_padded_cons (by decide) (.of_isGap hgap _),
      trimRight_of_isGap hafter]
    rfl

/-! ## A line is one line -/

theorem newline_notMem_of_spells {word t : Text} (hword : ∀ c ∈ word, IsCapital c)
    (h : Spells word t) : '\n' ∉ t := by
  intro hmem
  exact ne_of_isCapital (h.isCapital hword _ hmem) (by decide) rfl

theorem newline_notMem_escape (t : Text) : '\n' ∉ escape t := by
  intro h
  obtain ⟨c, _, hc⟩ := List.mem_flatMap.mp h
  unfold escapeChar at hc
  split at hc
  · revert hc; decide
  split at hc
  · revert hc; decide
  split at hc
  · revert hc; decide
  · rename_i hne _ _
    exact hne (List.mem_singleton.mp hc).symm

theorem newline_notMem_of_isName {name : String} (h : IsName name) : '\n' ∉ name.toList := by
  intro hmem
  have hblank := h.2 _ hmem
  revert hblank
  decide

theorem Lists.newline_notMem {gs : List Setting} {t : Text} (h : Lists gs t) : '\n' ∉ t := by
  induction h with
  | one ht => exact newline_notMem_of_spells (isCapital_word _) ht
  | more ht _ hgap _ ih =>
    simp only [List.mem_append, not_or]
    exact ⟨⟨newline_notMem_of_spells (isCapital_word _) ht, fun hmem => (hgap _ hmem).2 rfl⟩, ih⟩

theorem Delimits.newline_notMem {s : Substitution} {t : Text} (h : Delimits s t)
    (hs : '\n' ∉ s.search.toList) : '\n' ∉ t := by
  cases h with
  | @intro c gap hc _ _ hgap =>
    have hne : '\n' ≠ c := by
      rintro rfl
      revert hc
      decide
    simp only [List.mem_append, List.mem_cons, List.not_mem_nil, or_false, not_or]
    exact ⟨⟨hne, hs, hne, newline_notMem_of_isGap hgap, hne, newline_notMem_escape _⟩, hne⟩

theorem newline_notMem_rest {barred : Bool} {keyword : String} {rest : Text} {s : Statement}
    (h : Phrase barred keyword rest s) (hs : s.IsWritable) : '\n' ∉ rest := by
  cases h with
  | settings ht => exact ht.newline_notMem
  | substitute ht => exact ht.newline_notMem hs
  | _ => exact newline_notMem_of_isName hs

theorem newline_notMem_clause {barred : Bool} {keyword : String} {rest t : Text} {s : Statement}
    (hphrase : Phrase barred keyword rest s) (hs : s.IsWritable) (h : Clause keyword rest t) :
    '\n' ∉ t := by
  cases h with
  | intro ht _ hgap =>
    simp only [List.mem_append, not_or]
    exact ⟨⟨newline_notMem_of_spells (isCapital_keyword hphrase) ht, newline_notMem_of_isGap hgap⟩,
      newline_notMem_rest hphrase hs⟩

/-- What writes a statement is one line. -/
theorem Writes.newline_notMem {s : Statement} {l : Text} (h : Writes s l) (hs : s.IsWritable) :
    '\n' ∉ l := by
  cases h with
  | plain hphrase ht hl => exact hl.newline_notMem (newline_notMem_clause hphrase hs ht)
  | barred hphrase ht hu hl =>
    have hbody := hu.newline_notMem (newline_notMem_clause hphrase hs ht)
    refine hl.newline_notMem ?_
    simp only [List.mem_cons, not_or]
    exact ⟨by decide, hbody⟩

theorem IsSilent.newline_notMem {l : Text} (h : IsSilent l) : '\n' ∉ l := by
  cases h with
  | blank hl => exact newline_notMem_of_isGap hl
  | comment hgap ht =>
    simp only [List.mem_append, List.mem_cons, not_or]
    exact ⟨newline_notMem_of_isGap hgap, by decide, ht⟩
  | bar hgap hafter =>
    simp only [List.mem_append, List.mem_cons, not_or]
    exact ⟨newline_notMem_of_isGap hgap, by decide, newline_notMem_of_isGap hafter⟩

end RuleFile
end Gedcom
