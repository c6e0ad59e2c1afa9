import Gedcom.Proofs.RecordLine
import Gedcom.Text.Digit
import Mathlib.Data.List.Infix

/-!
# Dates shortened to years

In a line, a date begins behind a digit and the word `DATE`.  Shortened, it keeps the last one of
the interpretation marks at its beginning, the last one of the qualifiers behind them, the first
year of the last range, if there is one, and from its last year on all that is there
(`Dates.reduced?`).  A line with a date has its first date shortened that has a year
(`Dates.shorten`).

A shortened date has nothing left that could be left out: shortening is idempotent
(`shorten_shorten`).  It only leaves out characters (`shorten_sublist`), and what a line says of
level, identifier and tag stands in front of all dates (`heading?_shorten`).
-/
namespace Gedcom

namespace Dates

/-- Whether a character is a digit of some script. -/
def isDigit (c : Char) : Bool := Text.digitChars.contains c

theorem isDigit_eq_false {t : Text} (h : (t.all fun c => !isDigit c) = true) :
    ∀ c ∈ t, isDigit c = false := by
  simpa using h

/-- Whether a text begins with a year: with four digits. -/
def startsYear : Text → Bool
  | a :: b :: c :: d :: _ => isDigit a && isDigit b && isDigit c && isDigit d
  | _ => false

/-- What the last end of a text comes to that comes to anything. -/
def last? (f : Text → Option Text) : Text → Option Text
  | [] => f []
  | c :: t => (last? f t).or (f (c :: t))

/-- A text from its last year on. -/
def lastYear? : Text → Option Text := last? (Option.guard startsYear)

/-- The first year of a range at the beginning of a text, and the text from its last year on. -/
def range? (t : Text) : Option Text :=
  if startsYear t && " AND ".toList.isPrefixOf (t.drop 4) then
    (lastYear? (t.drop 9)).map (t.take 9 ++ ·)
  else none

/-- The first year of the last range of a text, and the text from its last year on. -/
def lastRange? : Text → Option Text := last? range?

/-- The years of a date, and what follows. -/
def years? (t : Text) : Option Text := (lastRange? t).or (lastYear? t)

/-- The last of the words of four characters at the beginning of a text, and what follows them. -/
def dropWords (ws : List Text) (last : Text) : Text → Text × Text
  | [] => (last, [])
  | c :: t =>
    if ws.any fun w => w.isPrefixOf (c :: t) then dropWords ws ((c :: t).take 4) (t.drop 3)
    else (last, c :: t)
termination_by t => t.length
decreasing_by
  rw [List.length_drop, List.length_cons]
  omega

/-- The mark of dates that have been interpreted. -/
def marks : List Text := ["INT ".toList]

/-- What qualifies a date. -/
def qualifiers : List Text := ["ABT ", "CAL ", "EST ", "AFT ", "BEF ", "BET "].map String.toList

/-- What is left of a date if it has a year. -/
def reduced? (t : Text) : Option Text :=
  let marked := dropWords marks [] t
  let qualified := dropWords qualifiers [] marked.2
  (years? qualified.2).map fun u => marked.1 ++ qualified.1 ++ u

/-- What is left of a date behind a character, if one begins there that has a year. -/
def dateAt? (c : Char) (t : Text) : Option Text :=
  if isDigit c && " DATE ".toList.isPrefixOf t then reduced? (t.drop 6) else none

/-- A line with its first date shortened that has a year. -/
def shorten : Text → Text
  | [] => []
  | c :: t =>
    match dateAt? c t with
    | some u => c :: (" DATE ".toList ++ u)
    | none => c :: shorten t

/-! ## The last end -/

section Last
variable {f : Text → Option Text} {t u v w : Text}

theorem last?_eq_some (hnil : f [] = none) :
    last? f t = some v ↔ ∃ u, u <:+ t ∧ f u = some v ∧ last? f u.tail = none := by
  induction t with
  | nil =>
    rw [last?, hnil]
    refine iff_of_false (Option.some_ne_none v).symm ?_
    rintro ⟨u, hu, hv, _⟩
    rw [List.suffix_nil.mp hu, hnil] at hv
    cases hv
  | cons c t ih =>
    rw [last?, Option.or_eq_some_iff, ih]
    constructor
    · rintro (⟨u, hu, hv, hnone⟩ | ⟨hnone, hv⟩)
      · exact ⟨u, hu.trans (List.suffix_cons c t), hv, hnone⟩
      · exact ⟨c :: t, List.suffix_rfl, hv, hnone⟩
    · rintro ⟨u, hu, hv, hnone⟩
      rcases List.suffix_cons_iff.mp hu with rfl | hu
      · exact .inr ⟨hnone, hv⟩
      · exact .inl ⟨u, hu, hv, hnone⟩

theorem last?_cons_eq_none {c : Char} :
    last? f (c :: t) = none ↔ last? f t = none ∧ f (c :: t) = none := by
  rw [last?, Option.or_eq_none_iff]

theorem last?_eq_none_of_suffix (hu : u <:+ t) (h : last? f t = none) : last? f u = none := by
  induction t with
  | nil => rwa [List.suffix_nil.mp hu]
  | cons c t ih =>
    rcases List.suffix_cons_iff.mp hu with rfl | hu
    · exact h
    · exact ih hu (last?_cons_eq_none.mp h).1

/-- A text that comes to nothing at any place of its beginning. -/
theorem last?_append (h : ∀ c x y, w = x ++ c :: y → f (c :: (y ++ u)) = none) :
    last? f (w ++ u) = last? f u := by
  induction w with
  | nil => rfl
  | cons c w ih =>
    have hfirst : f (c :: (w ++ u)) = none := h c [] w rfl
    rw [List.cons_append, last?, hfirst, Option.or_none]
    exact ih fun d x y hw => h d (c :: x) y (by rw [hw, List.cons_append])

end Last

/-! ## Years -/

section Years
variable {t u v w : Text}

theorem isDigit_of_startsYear {c : Char} (h : startsYear (c :: t) = true) : isDigit c = true := by
  unfold startsYear at h
  split at h
  · rename_i heq
    simp only [Bool.and_eq_true] at h
    rw [(List.cons.inj heq).1]
    exact h.1.1.1
  · cases h

theorem lastYear?_eq_some :
    lastYear? t = some v ↔ v <:+ t ∧ startsYear v = true ∧ lastYear? v.tail = none := by
  rw [lastYear?, last?_eq_some (by rfl)]
  constructor
  · rintro ⟨u, hu, hv, hnone⟩
    obtain ⟨rfl, hyear⟩ := Option.guard_eq_some_iff.mp hv
    exact ⟨hu, hyear, hnone⟩
  · rintro ⟨hv, hyear, hnone⟩
    exact ⟨v, hv, Option.guard_eq_some_iff.mpr ⟨rfl, hyear⟩, hnone⟩

theorem lastYear?_eq_none_of_suffix (hu : u <:+ t) (h : lastYear? t = none) :
    lastYear? u = none := last?_eq_none_of_suffix hu h

/-- Words without digits in front of a text do not change its last year. -/
theorem lastYear?_append (hw : ∀ c ∈ w, isDigit c = false) :
    lastYear? (w ++ u) = lastYear? u := by
  refine last?_append fun c x y heq => ?_
  have hc : isDigit c = false := hw c (heq ▸ by simp)
  rw [Option.guard_eq_none_iff, ← Bool.not_eq_true]
  exact fun hyear => by simp [isDigit_of_startsYear hyear] at hc

theorem startsYear_cons {c : Char} (hc : isDigit c = false) : startsYear (c :: t) = false := by
  rw [← Bool.not_eq_true]
  exact fun hyear => by simp [isDigit_of_startsYear hyear] at hc

/-- A text from its last year on has the same last year. -/
theorem lastYear?_self (h : lastYear? t = some v) : lastYear? v = some v :=
  lastYear?_eq_some.mpr ⟨List.suffix_rfl, (lastYear?_eq_some.mp h).2⟩

theorem range?_eq_some :
    range? t = some v ↔ startsYear t = true ∧ " AND ".toList.isPrefixOf (t.drop 4) = true ∧
      ∃ u, lastYear? (t.drop 9) = some u ∧ t.take 9 ++ u = v := by
  rw [range?]
  split
  · rename_i h
    rw [Bool.and_eq_true] at h
    simp only [h, true_and, Option.map_eq_some_iff]
  · rename_i h
    rw [Bool.and_eq_true] at h
    refine iff_of_false (Option.some_ne_none v).symm ?_
    rintro ⟨hyear, hand, _⟩
    exact h ⟨hyear, hand⟩

theorem range?_eq_none (h : startsYear t = false) : range? t = none := by
  rw [range?, h, Bool.false_and, if_neg Bool.false_ne_true]

/-- A range has a last year. -/
theorem lastYear?_ne_none_of_lastRange? (h : lastRange? t = some v) : lastYear? t ≠ none := by
  obtain ⟨u, hu, hrange, _⟩ := (last?_eq_some rfl).mp h
  obtain ⟨_, _, w, hw, _⟩ := range?_eq_some.mp hrange
  intro hnone
  rw [lastYear?_eq_none_of_suffix ((List.drop_suffix 9 u).trans hu) hnone] at hw
  cases hw

/-- There is no range without a later year. -/
theorem lastRange?_eq_none (h : lastYear? t.tail = none) : lastRange? t = none := by
  cases hrange : lastRange? t with
  | none => rfl
  | some v =>
    obtain ⟨u, hu, hrange, _⟩ := (last?_eq_some rfl).mp hrange
    obtain ⟨_, _, w, hw, _⟩ := range?_eq_some.mp hrange
    have hsuffix : u.drop 9 <:+ t.tail := by
      obtain ⟨x, rfl⟩ := hu
      cases x with
      | nil =>
        rw [List.nil_append, ← List.drop_one]
        exact List.drop_suffix_drop_left u (by omega)
      | cons c x => exact (List.drop_suffix 9 u).trans (List.suffix_append x u)
    rw [lastYear?_eq_none_of_suffix hsuffix h] at hw
    cases hw

theorem years?_eq_none : years? t = none ↔ lastYear? t = none := by
  rw [years?, Option.or_eq_none_iff]
  refine and_iff_right_of_imp fun h => ?_
  by_contra hne
  obtain ⟨v, hv⟩ := Option.ne_none_iff_exists'.mp hne
  exact lastYear?_ne_none_of_lastRange? hv h

/-- A range is a year, `AND`, and a text from its last year on. -/
theorem exists_of_range? (h : range? t = some v) :
    ∃ a b c d u, isDigit a = true ∧ isDigit b = true ∧ isDigit c = true ∧ isDigit d = true ∧
      lastYear? (t.drop 9) = some u ∧ v = a :: b :: c :: d :: (" AND ".toList ++ u) := by
  obtain ⟨hyear, hand, u, hu, rfl⟩ := range?_eq_some.mp h
  unfold startsYear at hyear
  split at hyear
  · rename_i a b c d x
    simp only [Bool.and_eq_true, and_assoc] at hyear
    obtain ⟨y, rfl⟩ := List.isPrefixOf_iff_prefix.mp hand
    exact ⟨a, b, c, d, u, hyear.1, hyear.2.1, hyear.2.2.1, hyear.2.2.2, hu, rfl⟩
  · cases hyear

theorem range?_eq {a b c d : Char} (ha : isDigit a = true) (hb : isDigit b = true)
    (hc : isDigit c = true) (hd : isDigit d = true) (u : Text) :
    range? (a :: b :: c :: d :: (" AND ".toList ++ u)) =
      (lastYear? u).map fun w => a :: b :: c :: d :: (" AND ".toList ++ w) := by
  have hyear : startsYear (a :: b :: c :: d :: (" AND ".toList ++ u)) = true := by
    rw [startsYear, ha, hb, hc, hd]
    rfl
  rw [range?, hyear]
  rfl

theorem lastRange?_self (h : lastRange? t = some v) : lastRange? v = some v := by
  obtain ⟨u, _, hrange, _⟩ := (last?_eq_some rfl).mp h
  obtain ⟨a, b, c, d, w, ha, hb, hc, hd, hw, rfl⟩ := exists_of_range? hrange
  refine (last?_eq_some rfl).mpr ⟨_, List.suffix_rfl, ?_, ?_⟩
  · rw [range?_eq ha hb hc hd, lastYear?_self hw, Option.map_some]
  · -- a range behind the first digit would begin with the last year
    have hspace : isDigit ' ' = false := by decide
    have hlater : lastRange? w = none := lastRange?_eq_none (lastYear?_eq_some.mp hw).2.2
    have hwords : lastRange? (" AND ".toList ++ w) = lastRange? w := by
      refine last?_append fun e x y heq => range?_eq_none (startsYear_cons ?_)
      have he : e ∈ " AND ".toList := heq ▸ by simp
      exact isDigit_eq_false (by decide) e he
    have hend : lastRange? (d :: (" AND ".toList ++ w)) = none :=
      last?_cons_eq_none.mpr ⟨hwords.trans hlater, range?_eq_none (by simp [startsYear, hspace])⟩
    have hmiddle : lastRange? (c :: d :: (" AND ".toList ++ w)) = none :=
      last?_cons_eq_none.mpr ⟨hend, range?_eq_none (by simp [startsYear, hspace])⟩
    exact last?_cons_eq_none.mpr ⟨hmiddle, range?_eq_none (by simp [startsYear, hspace])⟩

theorem years?_self (h : years? t = some v) : years? v = some v := by
  rw [years?, Option.or_eq_some_iff] at h ⊢
  rcases h with h | ⟨hnone, h⟩
  · exact .inl (lastRange?_self h)
  · exact .inr ⟨lastRange?_eq_none (lastYear?_eq_some.mp h).2.2, lastYear?_self h⟩

end Years

/-! ## Words -/

section Words
variable {ws : List Text} {last t u v w : Text}

/-- Words of four characters without digits. -/
def Wordy (ws : List Text) : Prop := ∀ w ∈ ws, w.length = 4 ∧ ∀ c ∈ w, isDigit c = false

instance (ws : List Text) : Decidable (Wordy ws) :=
  decidable_of_iff ((ws.all fun w => w.length == 4 && w.all fun c => !isDigit c) = true)
    (by simp [Wordy])

theorem wordy_marks : Wordy marks := by decide

theorem wordy_qualifiers : Wordy qualifiers := by decide

theorem dropWords_eq_self (h : (ws.any fun w => w.isPrefixOf t) = false) (last : Text) :
    dropWords ws last t = (last, t) := by
  cases t with
  | nil => rw [dropWords]
  | cons c t => rw [dropWords, h, if_neg Bool.false_ne_true]

theorem dropWords_append (hlength : w.length = 4) (hw : w ∈ ws) (last t : Text) :
    dropWords ws last (w ++ t) = dropWords ws w t := by
  cases w with
  | nil => cases hlength
  | cons c w =>
    have hany : (ws.any fun v => v.isPrefixOf (c :: (w ++ t))) = true :=
      List.any_eq_true.mpr ⟨_, hw, List.isPrefixOf_iff_prefix.mpr (List.prefix_append (c :: w) t)⟩
    have hrest : w.length = 3 := Nat.succ.inj hlength
    rw [List.cons_append, dropWords, hany, if_pos rfl, ← List.cons_append,
      List.take_left' hlength, List.drop_left' hrest]

/-- **Words at the beginning** of a text are some words one after the other. -/
theorem dropWords_induct {P : Text → Text → Text × Text → Prop} (hws : Wordy ws)
    (hend : ∀ last t, (ws.any fun w => w.isPrefixOf t) = false → P last t (last, t))
    (hword : ∀ last w t, w ∈ ws → P w t (dropWords ws w t) →
      P last (w ++ t) (dropWords ws w t)) (last t : Text) : P last t (dropWords ws last t) := by
  induction hn : t.length using Nat.strong_induction_on generalizing last t with
  | _ n ih =>
    cases hany : ws.any fun w => w.isPrefixOf t with
    | false =>
      rw [dropWords_eq_self hany]
      exact hend last t hany
    | true =>
      obtain ⟨w, hw, hwt⟩ := List.any_eq_true.mp hany
      obtain ⟨u, rfl⟩ := List.isPrefixOf_iff_prefix.mp hwt
      rw [dropWords_append (hws w hw).1 hw]
      refine hword last w u hw (ih u.length ?_ w u rfl)
      rw [← hn, List.length_append, (hws w hw).1]
      omega

theorem dropWords_fst (hws : Wordy ws) (last t : Text) :
    (dropWords ws last t).1 = last ∨ (dropWords ws last t).1 ∈ ws := by
  refine dropWords_induct (P := fun last _ r => r.1 = last ∨ r.1 ∈ ws) hws
    (fun _ _ _ => .inl rfl) (fun last w t hw h => .inr ?_) last t
  rcases h with h | h
  · exact h.symm ▸ hw
  · exact h

theorem lastYear?_dropWords (hws : Wordy ws) (last t : Text) :
    lastYear? (dropWords ws last t).2 = lastYear? t := by
  refine dropWords_induct (P := fun _ t r => lastYear? r.2 = lastYear? t) hws (fun _ _ _ => rfl)
    (fun _ w t hw h => ?_) last t
  rw [h, lastYear?_append (hws w hw).2]

theorem dropWords_sublist (hws : Wordy ws) (last t : Text) :
    ((dropWords ws last t).1 ++ (dropWords ws last t).2).Sublist (last ++ t) := by
  refine dropWords_induct (P := fun last t r => (r.1 ++ r.2).Sublist (last ++ t)) hws
    (fun _ _ _ => List.Sublist.refl _) (fun last w t _ h => ?_) last t
  exact h.trans (List.sublist_append_right last _)

/-- A year does not begin with a word. -/
theorem dropWords_of_startsYear (hws : Wordy ws) (h : startsYear t = true) (last : Text) :
    dropWords ws last t = (last, t) := by
  refine dropWords_eq_self (List.any_eq_false.mpr fun w hw hwt => ?_) last
  obtain ⟨hlength, hdigits⟩ := hws w hw
  obtain ⟨u, rfl⟩ := List.isPrefixOf_iff_prefix.mp hwt
  cases w with
  | nil => cases hlength
  | cons c w =>
    have hc := hdigits c List.mem_cons_self
    rw [List.cons_append, startsYear_cons hc] at h
    cases h

end Words

/-! ## Shortened dates -/

section Reduced
variable {t u v : Text}

theorem startsYear_of_years? (h : years? t = some v) : startsYear v = true := by
  rcases Option.or_eq_some_iff.mp h with h | ⟨_, h⟩
  · obtain ⟨u, _, hrange, _⟩ := (last?_eq_some rfl).mp h
    obtain ⟨a, b, c, d, w, ha, hb, hc, hd, _, rfl⟩ := exists_of_range? hrange
    rw [startsYear, ha, hb, hc, hd]
    rfl
  · exact (lastYear?_eq_some.mp h).2.1

theorem years?_sublist (h : years? t = some v) : v.Sublist t := by
  rcases Option.or_eq_some_iff.mp h with h | ⟨_, h⟩
  · obtain ⟨u, hu, hrange, _⟩ := (last?_eq_some rfl).mp h
    obtain ⟨_, _, w, hw, rfl⟩ := range?_eq_some.mp hrange
    have hlater : w.Sublist (u.drop 9) := (lastYear?_eq_some.mp hw).1.sublist
    have hboth := (List.Sublist.refl (u.take 9)).append hlater
    rw [List.take_append_drop] at hboth
    exact hboth.trans hu.sublist
  · exact (lastYear?_eq_some.mp h).1.sublist

/-- **A date can be shortened if it has a year.** -/
theorem reduced?_eq_none : reduced? t = none ↔ lastYear? t = none := by
  rw [reduced?, Option.map_eq_none_iff, years?_eq_none, lastYear?_dropWords wordy_qualifiers,
    lastYear?_dropWords wordy_marks]

theorem reduced?_sublist (h : reduced? t = some v) : v.Sublist t := by
  obtain ⟨u, hu, rfl⟩ := Option.map_eq_some_iff.mp h
  have hmarked := dropWords_sublist wordy_marks [] t
  have hqualified := dropWords_sublist wordy_qualifiers [] (dropWords marks [] t).2
  rw [List.append_assoc]
  refine (List.Sublist.append (List.Sublist.refl _) ?_).trans hmarked
  exact (List.Sublist.append (List.Sublist.refl _) (years?_sublist hu)).trans hqualified

/-- Shortening a shortened date changes nothing. -/
theorem reduced?_self (h : reduced? t = some v) : reduced? v = some v := by
  obtain ⟨u, hu, rfl⟩ := Option.map_eq_some_iff.mp h
  have hyear := startsYear_of_years? hu
  generalize hq : (dropWords qualifiers [] (dropWords marks [] t).2).1 = q
  generalize hm : (dropWords marks [] t).1 = m
  have hqualified : dropWords qualifiers [] (q ++ u) = (q, u) := by
    rcases hq ▸ dropWords_fst wordy_qualifiers [] (dropWords marks [] t).2 with rfl | hmem
    · exact dropWords_of_startsYear wordy_qualifiers hyear []
    · rw [dropWords_append (wordy_qualifiers q hmem).1 hmem,
        dropWords_of_startsYear wordy_qualifiers hyear]
  have hnone : ∀ last, dropWords marks last (q ++ u) = (last, q ++ u) := by
    rcases hq ▸ dropWords_fst wordy_qualifiers [] (dropWords marks [] t).2 with rfl | hmem
    · exact dropWords_of_startsYear wordy_marks hyear
    · refine dropWords_eq_self (List.any_eq_false.mpr fun w hw hwt => ?_)
      -- words of four characters at one place are the same
      obtain ⟨x, hx⟩ := List.isPrefixOf_iff_prefix.mp hwt
      have hlength := (wordy_marks w hw).1.trans (wordy_qualifiers q hmem).1.symm
      have heq := (List.append_inj hx hlength).1
      exact (by decide : ∀ w ∈ marks, w ∉ qualifiers) w hw (heq ▸ hmem)
  have hmarked : dropWords marks [] (m ++ (q ++ u)) = (m, q ++ u) := by
    rcases hm ▸ dropWords_fst wordy_marks [] t with rfl | hmem
    · exact hnone []
    · rw [dropWords_append (wordy_marks m hmem).1 hmem, hnone]
  rw [List.append_assoc, reduced?, hmarked, hqualified, years?_self hu, Option.map_some,
    List.append_assoc]

end Reduced

/-! ## Lines -/

section Lines
variable {t u : Text} {c : Char}

theorem dateAt?_eq_some :
    dateAt? c t = some u ↔
      isDigit c = true ∧ ∃ v, t = " DATE ".toList ++ v ∧ reduced? v = some u := by
  rw [dateAt?]
  split
  · rename_i h
    obtain ⟨hc, ht⟩ := Bool.and_eq_true_iff.mp h
    obtain ⟨v, rfl⟩ := List.isPrefixOf_iff_prefix.mp ht
    constructor
    · exact fun hu => ⟨hc, v, rfl, hu⟩
    · rintro ⟨_, v', heq, hu⟩
      rwa [List.append_cancel_left heq]
  · rename_i h
    refine iff_of_false (Option.some_ne_none u).symm ?_
    rintro ⟨hc, v, rfl, _⟩
    exact h (Bool.and_eq_true_iff.mpr
      ⟨hc, List.isPrefixOf_iff_prefix.mpr (List.prefix_append _ v)⟩)

/-- A line without a year stays as it is. -/
theorem shorten_eq_self (h : lastYear? t = none) : shorten t = t := by
  induction t with
  | nil => rfl
  | cons c t ih =>
    have htail := (last?_cons_eq_none.mp h).1
    have hnone : dateAt? c t = none := by
      by_contra hne
      obtain ⟨u, hu⟩ := Option.ne_none_iff_exists'.mp hne
      obtain ⟨_, v, rfl, hv⟩ := dateAt?_eq_some.mp hu
      have hyear := lastYear?_eq_none_of_suffix (List.suffix_append _ v) htail
      rw [reduced?_eq_none.mpr hyear] at hv
      cases hv
    rw [shorten, hnone, ih htail]

/-- Shortening only leaves out characters. -/
theorem shorten_sublist (t : Text) : (shorten t).Sublist t := by
  induction t with
  | nil => exact .slnil
  | cons c t ih =>
    rw [shorten]
    cases hdate : dateAt? c t with
    | none => exact ih.cons_cons c
    | some u =>
      obtain ⟨_, v, rfl, hv⟩ := dateAt?_eq_some.mp hdate
      exact ((reduced?_sublist hv).append_left _).cons_cons c

/-- A line begins as before, so that no date begins where none has begun. -/
theorem take_shorten (t : Text) : (shorten t).take 6 = t.take 6 := by
  suffices h : (shorten t).take 7 = t.take 7 by
    have hsix := congrArg (List.take 6) h
    rwa [List.take_take, List.take_take] at hsix
  induction t with
  | nil => rfl
  | cons c t ih =>
    rw [shorten]
    cases hdate : dateAt? c t with
    | none =>
      have hsix := congrArg (List.take 6) ih
      rw [List.take_take, List.take_take] at hsix
      exact congrArg (c :: ·) hsix
    | some u =>
      obtain ⟨_, v, rfl, _⟩ := dateAt?_eq_some.mp hdate
      rfl

/-- **Shortening is idempotent.** -/
theorem shorten_shorten (t : Text) : shorten (shorten t) = shorten t := by
  induction t with
  | nil => rfl
  | cons c t ih =>
    rw [shorten]
    cases hdate : dateAt? c t with
    | some u =>
      obtain ⟨hc, v, rfl, hv⟩ := dateAt?_eq_some.mp hdate
      have hagain : dateAt? c (" DATE ".toList ++ u) = some u :=
        dateAt?_eq_some.mpr ⟨hc, u, rfl, reduced?_self hv⟩
      dsimp only
      rw [shorten, hagain]
    | none =>
      have hagain : dateAt? c (shorten t) = none := by
        by_contra hne
        obtain ⟨u, hu⟩ := Option.ne_none_iff_exists'.mp hne
        obtain ⟨hc, v, hv, _⟩ := dateAt?_eq_some.mp hu
        have htake : " DATE ".toList = t.take 6 := by
          rw [← take_shorten t, hv]
          rfl
        have ht : t = " DATE ".toList ++ t.drop 6 := by rw [htake, List.take_append_drop]
        -- the date that stood here has no year, so that nothing behind it has been shortened
        have hyear : lastYear? t = none := by
          rw [ht, lastYear?_append (isDigit_eq_false (by decide)), ← reduced?_eq_none, ← hdate,
            dateAt?, hc, ht]
          rfl
        rw [shorten_eq_self hyear, hdate] at hu
        cases hu
      dsimp only
      rw [shorten, hagain, ih]

/-- A line either stays as it is or is changed behind a digit and the word `DATE`. -/
theorem shorten_cases (t : Text) :
    shorten t = t ∨ ∃ pre u v, t = pre ++ " DATE".toList ++ ' ' :: u ∧
      shorten t = pre ++ " DATE".toList ++ ' ' :: v := by
  induction t with
  | nil => exact .inl rfl
  | cons c t ih =>
    rw [shorten]
    cases hdate : dateAt? c t with
    | some v =>
      obtain ⟨_, u, rfl, _⟩ := dateAt?_eq_some.mp hdate
      exact .inr ⟨[c], u, v, rfl, rfl⟩
    | none =>
      rcases ih with h | ⟨pre, u, v, ht, h⟩
      · exact .inl (congrArg (c :: ·) h)
      · exact .inr ⟨c :: pre, u, v, congrArg (c :: ·) ht, congrArg (c :: ·) h⟩

/-- **A shortened line has the level, the identifier and the tag** that it had. -/
theorem heading?_shorten (t : Text) : Line.heading? (shorten t) = Line.heading? t := by
  rcases shorten_cases t with h | ⟨pre, u, v, ht, h⟩
  · rw [h]
  · rw [h, ht]
    exact Line.heading?_append (by rw [List.getLast?_append]; rfl) v u

end Lines
end Dates
end Gedcom
