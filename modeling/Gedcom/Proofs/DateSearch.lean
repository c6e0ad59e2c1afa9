import Gedcom.Filter.Catalog
import Gedcom.Proofs.Matching
import Gedcom.Proofs.Refiltering
import Gedcom.Proofs.Roominess
import Gedcom.Proofs.ShortDates

/-!
# The search for dates

The search that shortens dates to years is an expression with four repetitions, the words in front
of the years, the range, and what follows.  What each of its parts comes to in a line is what the
functions of `Proofs.ShortDates` say of the text that is left of the line: `Gives` compares the
two, and goes from the last part of the expression to the first.  No part is tried in vain more
than once: whether anything can be found depends on there being a year, and on nothing that the
parts in front of it take.

Replacing all matches in a text is shortening all of its lines (`becomes_lines`).
-/
namespace Gedcom
namespace Dates

open Regex (Node Spot Reading)
open Regex.Node

/-! ## The expression -/

/-- A digit. -/
def digit : Node := chars Text.digitChars false

/-- Any character but a newline. -/
def dot : Node := chars ⟨[(0, 9), (11, CharSet.lastCode)]⟩ false

/-- A part any number of times. -/
def any (n : Node) : Node := times 0 none true n

/-- Four digits. -/
def year : Node := times 4 (some 4) true digit

/-- A year and the word behind the first year of a range. -/
def yearAnd : Node := ofItems (year :: literal " AND ".toList)

/-- What may follow the years. -/
def phrase : Node := ofItems [chars (.single ' ') false, any dot]

/-- The expression that finds dates. -/
def pattern : Node :=
  ofItems <| group 1 none digit :: (literal " DATE ".toList ++
    [any (group 2 none (oneOf marks)), any (group 3 none (oneOf qualifiers)),
      any (ofItems [any dot, group 4 none yearAnd]), any dot, group 5 none year,
      any (group 6 none phrase)])

theorem pattern_eq :
    Regex.Token.ofText? ("([\\d]) DATE " ++ Catalog.dateParts).toList >>= Node.ofTokens? =
      some pattern := by
  rw [String.toList_append, Catalog.dateParts, String.toList_ofList, String.toList_ofList]
  decide

theorem freshSlots_pattern : pattern.freshSlots = List.replicate (2 * 7) none := by
  decide

theorem solid_pattern : pattern.Solid where
  progressive := by decide
  nullable := by decide
  groups := by decide

theorem room_pattern : pattern.tooLarge = false := by
  refine tooLarge_eq_false fun d => ?_
  cases d
  · decide
  · decide

/-! ## Parts of one length -/

theorem fixed_year : year.Fixed 4 startsYear := by
  refine (fixed_times (fixed_chars Text.digitChars false) 4).congr fun t => ?_
  match t with
  | [] => rfl
  | [a] => simp [List.range_succ, startsYear]
  | [a, b] => simp [List.range_succ, startsYear]
  | [a, b, c] => simp [List.range_succ, startsYear]
  | a :: b :: c :: d :: t => simp [List.range_succ, startsYear, isDigit, Bool.and_assoc]

theorem fixed_yearAnd :
    yearAnd.Fixed 9 fun t => startsYear t && " AND ".toList.isPrefixOf (t.drop 4) :=
  fixed_year.cons (fixed_literal " AND ".toList)

/-- Words that may be read as the text of a group. -/
structure Vocabulary (ws : List Text) : Prop where
  wordy : Wordy ws
  newline : ∀ w ∈ ws, '\n' ∉ w
  nodup : ws.Nodup
  ne_nil : ws ≠ []
  nullable : (oneOf ws).nullable = false

theorem vocabulary_marks : Vocabulary marks := by constructor <;> decide

theorem vocabulary_qualifiers : Vocabulary qualifiers := by constructor <;> decide

theorem Vocabulary.fixed {ws : List Text} (hws : Vocabulary ws) :
    (oneOf ws).Fixed 4 fun t => ws.any fun w => w.isPrefixOf t :=
  fixed_oneOf (fun w hw => (hws.wordy w hw).1) hws.nodup hws.ne_nil

/-! ## In a line -/

theorem startsYear_append {tail : Text} (htail : EndsLine tail) (u : Text) :
    startsYear (u ++ tail) = startsYear u := by
  have hdigits : ∀ v : Text, startsYear v = true → 4 ≤ v.length ∧ '\n' ∉ v.take 4 := by
    intro v hv
    unfold startsYear at hv
    split at hv
    · simp only [Bool.and_eq_true] at hv
      refine ⟨by simp, fun hmem => ?_⟩
      have hnewline : isDigit '\n' = false := by decide
      simp only [List.take_succ_cons, List.take_zero, List.mem_cons, List.not_mem_nil,
        or_false] at hmem
      rcases hmem with rfl | rfl | rfl | rfl <;> simp [hnewline] at hv
    · cases hv
  by_cases hlength : 4 ≤ u.length
  · match u, hlength with
    | a :: b :: c :: d :: u, _ => rfl
  · have hu : startsYear u = false := by
      rw [← Bool.not_eq_true]
      exact fun h => hlength (hdigits u h).1
    rw [hu, ← Bool.not_eq_true]
    intro h
    -- a year that is not in the line would go on behind it
    obtain ⟨hlong, hnewline⟩ := hdigits _ h
    cases tail with
    | nil =>
      rw [List.append_nil] at hlong
      exact hlength hlong
    | cons d tail =>
      obtain rfl := htail d rfl
      refine hnewline ?_
      rw [List.take_append, List.mem_append]
      obtain ⟨m, hm⟩ : ∃ m, 4 - u.length = m + 1 := ⟨3 - u.length, by omega⟩
      rw [hm]
      exact .inr List.mem_cons_self

/-- A spot in a text at which the rest of a line is `u`, what follows the line is `tail`, and some
texts have been read. -/
structure At (tail t : Text) (s : Spot) (texts : Nat → Text) (u : Text) : Prop where
  reading : Reading 7 t s texts
  rest_eq : s.rest = u ++ tail
  newline : '\n' ∉ u

namespace At
variable {tail t : Text} {s : Spot} {texts : Nat → Text} {u w : Text}

theorem along (h : At tail t s texts (w ++ u)) : At tail t (s.along w) texts u where
  reading := h.reading.along (by rw [h.rest_eq, List.append_assoc]; exact List.prefix_append _ _)
  rest_eq := by rw [Spot.rest_along, h.rest_eq, List.append_assoc, List.drop_left]
  newline hu := h.newline (List.mem_append_right _ hu)

theorem mark (h : At tail t s texts (w ++ u)) {i : Nat} (hi : i < 7) :
    At tail t (s.mark i w) (Function.update texts i w) u where
  reading := h.reading.mark (by rw [h.rest_eq, List.append_assoc]; exact List.prefix_append _ _) hi
  rest_eq := by rw [Spot.rest_mark, h.rest_eq, List.append_assoc, List.drop_left]
  newline hu := h.newline (List.mem_append_right _ hu)

end At

/-! ### Any characters -/

section Dots
variable {tail : Text} {s : Spot} {u : Text} {c : Char}
  {k : Spot → Option Spot} (htail : EndsLine tail)

theorem contains_dot {c : Char} :
    CharSet.contains ⟨[(0, 9), (11, CharSet.lastCode)]⟩ c = (c != '\n') := by
  have hnewline : c = '\n' ↔ c.toNat = 10 := ⟨fun h => h ▸ rfl, fun h => Char.toNat_inj.mp h⟩
  have hlast : c.toNat ≤ CharSet.lastCode := by
    have hvalid : c.toNat < 0xd800 ∨ 0xdfff < c.toNat ∧ c.toNat < 0x110000 := c.valid
    have hcode : CharSet.lastCode = 0x10ffff := rfl
    omega
  rw [CharSet.contains, Bool.eq_iff_iff, bne_iff_ne, ne_eq, hnewline]
  simp only [CharSet.inRanges, Nat.not_lt_zero, if_false, Bool.or_eq_true, decide_eq_true_eq,
    Bool.or_false]
  split
  · simp
    omega
  · simp
    omega

include htail in
theorem via_dots_nil (hrest : s.rest = tail) : (any dot).via k s = k s := by
  rw [any, via_star (by decide)]
  cases tail with
  | nil =>
    rw [dot, via_chars_nil hrest]
    rfl
  | cons d tail =>
    rw [dot, via_chars_cons hrest, contains_dot, htail d rfl]
    rfl

theorem via_dots_cons (hrest : s.rest = c :: (u ++ tail)) (hu : '\n' ∉ c :: u) :
    (any dot).via k s = ((any dot).via k (s.along [c])).or (k s) := by
  have hc : (c != '\n') = true := bne_iff_ne.mpr (List.ne_of_not_mem_cons hu).symm
  have hstar := via_star (n := dot) (k := k) (s := s) (by decide)
  rw [any, hstar, dot, via_chars_cons hrest, contains_dot, hc]
  rfl

include htail in
/-- The whole rest of a line is taken first. -/
theorem via_dots_of_some (hrest : s.rest = u ++ tail) (hu : '\n' ∉ u) {x : Spot}
    (hx : k (s.along u) = some x) : (any dot).via k s = some x := by
  induction u generalizing s with
  | nil => rwa [via_dots_nil htail hrest]
  | cons c u ih =>
    have hbehind : (s.along [c]).rest = u ++ tail := by
      rw [Spot.rest_along, hrest]
      rfl
    have hmore := ih hbehind (List.not_mem_of_not_mem_cons hu) hx
    rw [via_dots_cons hrest hu, hmore, Option.some_or]

end Dots

/-! ## What the parts come to -/

/-- What is found says that the groups from a number on, and what is left of the line, read as one
text. -/
def Leads (tail t : Text) (j : Nat) (texts : Nat → Text) (v : Text) (found : Option Spot) : Prop :=
  ∃ s texts' r, found = some s ∧ At tail t s texts' r ∧ lastYear? r = none ∧
    (∀ i < j, texts' i = texts i) ∧ (List.range' j (7 - j)).flatMap texts' ++ r = v

/-- Something is found just if there is a text, and says that the groups from a number on read as
it. -/
structure Gives (tail t : Text) (j : Nat) (texts : Nat → Text) (out : Option Text)
    (found : Option Spot) : Prop where
  fails : out = none → found = none
  leads : ∀ v, out = some v → Leads tail t j texts v found

section Parts
variable {tail t : Text} {s : Spot} {texts : Nat → Text} {u v w : Text} {j : Nat}
  {found : Option Spot}

/-- The text of a group stands in front of those of the groups after it. -/
theorem Leads.cons (h : Leads tail t (j + 1) (Function.update texts j w) v found) (hj : j < 7) :
    Leads tail t j texts (w ++ v) found := by
  obtain ⟨s, texts', r, hs, hat, hr, hkept, rfl⟩ := h
  refine ⟨s, texts', r, hs, hat, hr, fun i hi => ?_, ?_⟩
  · rw [hkept i (by omega), Function.update_of_ne (by omega)]
  · obtain ⟨m, hm⟩ : ∃ m, 7 - j = m + 1 := ⟨6 - j, by omega⟩
    have hm' : 7 - (j + 1) = m := by omega
    have hj' : texts' j = w := by rw [hkept j (Nat.lt_succ_self j), Function.update_self]
    rw [hm, hm', List.range'_succ, List.flatMap_cons, hj', List.append_assoc]

/-- A group that takes no part has no text. -/
theorem Leads.skip (h : Leads tail t (j + 1) texts v found) (hj : j < 7) (hnil : texts j = []) :
    Leads tail t j texts v found := by
  have hsame : Function.update texts j [] = texts := hnil ▸ Function.update_eq_self j texts
  exact (hsame.symm ▸ h).cons hj

theorem Gives.of_leads (h : Leads tail t j texts v found) :
    Gives tail t j texts (some v) found where
  fails hnone := absurd hnone (Option.some_ne_none v)
  leads w hw := by rwa [← Option.some.inj hw]

theorem Gives.none : Gives tail t j texts none none where
  fails _ := rfl
  leads v hv := absurd hv.symm (Option.some_ne_none v)

theorem Gives.cons {out : Option Text}
    (h : Gives tail t (j + 1) (Function.update texts j w) out found) (hj : j < 7) :
    Gives tail t j texts (out.map (w ++ ·)) found where
  fails hnone := h.fails (Option.map_eq_none_iff.mp hnone)
  leads v hv := by
    obtain ⟨v, hout, rfl⟩ := Option.map_eq_some_iff.mp hv
    exact (h.leads v hout).cons hj

/-- A group that takes no part has no text. -/
theorem Gives.skip {out : Option Text} (h : Gives tail t (j + 1) texts out found) (hj : j < 7)
    (hnil : texts j = []) : Gives tail t j texts out found := by
  have hsame : Function.update texts j [] = texts := hnil ▸ Function.update_eq_self j texts
  have hcons := (hsame.symm ▸ h).cons hj
  rwa [show (fun v : Text => [] ++ v) = id from rfl, Option.map_id] at hcons

/-- What is tried first is found first. -/
theorem Gives.or {out out' : Option Text} {found' : Option Spot}
    (hfirst : Gives tail t j texts out found)
    (hsecond : out = .none → Gives tail t j texts out' found') :
    Gives tail t j texts (out.or out') (found.or found') := by
  cases out with
  | none =>
    rw [hfirst.fails rfl, Option.none_or, Option.none_or]
    exact hsecond rfl
  | some v =>
    obtain ⟨s, _, _, hfound, _⟩ := hfirst.leads v rfl
    rw [Option.some_or, hfound, Option.some_or, ← hfound]
    exact hfirst

/-- The search from what follows the years on. -/
def takePhrase : Spot → Option Spot := (any (group 6 none phrase)).via finish

/-- The search from the last year on. -/
def takeYear : Spot → Option Spot := (any dot).via ((group 5 none year).via takePhrase)

/-- A range up to the word behind its first year. -/
def range : Node := ofItems [any dot, group 4 none yearAnd]

/-- The search from the range on. -/
def takeYears : Spot → Option Spot := (any range).via takeYear

/-- The search from words on that are read as the text of a group. -/
def takeWords (ws : List Text) (i : Nat) : (Spot → Option Spot) → Spot → Option Spot :=
  (any (group i none (oneOf ws))).via

/-- The search for a date. -/
def takeDate : Spot → Option Spot := takeWords marks 2 (takeWords qualifiers 3 takeYears)

theorem leads_finish (h : At tail t s texts u) (hu : lastYear? u = none) :
    Leads tail t 7 texts u (finish s) :=
  ⟨s.note 1, texts, u, rfl, ⟨h.reading.note (by omega), h.rest_eq, h.newline⟩, hu,
    fun _ _ => rfl, rfl⟩

/-- A part of one length that is read as a group. -/
theorem via_group_of_fixed {n : Node} {m i : Nat} {p : Text → Bool} (hn : n.Fixed m p)
    (hp : ∀ u, p (u ++ tail) = p u) (hlength : ∀ u, p u = true → m ≤ u.length)
    (h : At tail t s texts u) (k : Spot → Option Spot) :
    (group i none n).via k s = if p u then k (s.mark i (u.take m)) else none := by
  rw [hn.via_group, h.rest_eq, hp]
  split
  · rename_i hu
    rw [List.take_append_of_le_length (hlength u hu)]
  · rfl

theorem le_length_of_yearAnd
    (hu : (startsYear u && " AND ".toList.isPrefixOf (u.drop 4)) = true) : 9 ≤ u.length := by
  have hle := (List.isPrefixOf_iff_prefix.mp (Bool.and_eq_true_iff.mp hu).2).length_le
  rw [List.length_drop] at hle
  have hand : " AND ".toList.length = 5 := rfl
  omega

theorem le_length_of_startsYear (hu : startsYear u = true) : 4 ≤ u.length := by
  unfold startsYear at hu
  split at hu
  · simp
  · cases hu

theorem takeYears_eq (s : Spot) : takeYears s = (range.via takeYears s).or (takeYear s) :=
  via_star (by decide)

theorem takeWords_eq (ws : List Text) (hws : (oneOf ws).nullable = false) (i : Nat)
    (k : Spot → Option Spot) (s : Spot) :
    takeWords ws i k s = ((group i none (oneOf ws)).via (takeWords ws i k) s).or (k s) :=
  via_star hws

variable (htail : EndsLine tail)
include htail

/-- What follows the years is a phrase or nothing. -/
theorem leads_phrase (h : At tail t s texts u) (hnil : texts 6 = []) (hu : lastYear? u = none) :
    Leads tail t 6 texts u (takePhrase s) := by
  have hstar : ∀ s, takePhrase s = ((group 6 none phrase).via takePhrase s).or (finish s) :=
    fun s => via_star (by decide)
  have hspace : ∀ (k : Spot → Option Spot) {s c cs}, s.rest = c :: cs →
      (group 6 none phrase).via k s =
        if c == ' ' then (any dot).via (fun t => k (t.note 13)) ((s.note 12).along [c])
        else none := by
    intro k s c cs hrest
    have hrest' : (s.note 12).rest = c :: cs := hrest
    rw [via_group, phrase, via_ofItems_cons, via_chars_cons hrest', contains_single]
    rfl
  have hend : ∀ {s}, s.rest = tail → takePhrase s = finish s := by
    intro s hrest
    rw [hstar]
    cases tail with
    | nil =>
      have hrest' : (s.note 12).rest = [] := hrest
      rw [via_group, phrase, via_ofItems_cons, via_chars_nil hrest', Option.none_or]
    | cons d tail =>
      rw [hspace _ hrest, htail d rfl]
      rfl
  cases u with
  | nil =>
    rw [hend h.rest_eq]
    exact (leads_finish h hu).skip (by omega) hnil
  | cons c u =>
    rw [hstar, hspace _ h.rest_eq]
    by_cases hc : c = ' '
    · subst hc
      have hall : At tail t s texts ((' ' :: u) ++ []) := by rwa [List.append_nil]
      have hmark := hall.mark (i := 6) (by omega)
      have hbehind : ((s.note 12).along [' ']).rest = u ++ tail := by
        rw [Spot.rest_along, Spot.rest_note, h.rest_eq]
        rfl
      -- the dots take all that is left of the line, and behind it there is no other phrase
      have hfound := via_dots_of_some (k := fun t => takePhrase (t.note 13)) htail hbehind
        (List.not_mem_of_not_mem_cons h.newline) (hend hmark.rest_eq)
      rw [beq_self_eq_true, if_pos rfl, hfound, Option.some_or]
      have hleads := (leads_finish hmark rfl).cons (by omega)
      rwa [List.append_nil] at hleads
    · rw [if_neg (by simpa using hc), Option.none_or]
      exact (leads_finish h hu).skip (by omega) hnil

/-- **Any characters and then a part**: the last place of a line counts at which the part comes to
something. -/
theorem gives_dots {f : Text → Option Text} (hf : f [] = none) {k : Spot → Option Spot}
    (h : At tail t s texts u)
    (hk : ∀ {s u'}, u' <:+ u → At tail t s texts u' → last? f u'.tail = none →
      Gives tail t j texts (f u') (k s)) :
    Gives tail t j texts (last? f u) ((any dot).via k s) := by
  induction u generalizing s with
  | nil =>
    rw [via_dots_nil htail h.rest_eq, last?]
    exact hk List.suffix_rfl h hf
  | cons c u ih =>
    rw [via_dots_cons h.rest_eq h.newline, last?]
    refine (ih (At.along (w := [c]) h) fun hu' => hk (hu'.trans (List.suffix_cons c u))).or ?_
    exact fun hnone => hk List.suffix_rfl h hnone

/-- **The last year**, and what follows. -/
theorem gives_year (h : At tail t s texts u) (hnil : ∀ i, 5 ≤ i → texts i = []) :
    Gives tail t 5 texts (lastYear? u) (takeYear s) := by
  refine gives_dots htail rfl h fun {s u} _ h hlater => ?_
  rw [via_group_of_fixed fixed_year (startsYear_append htail)
    (fun u hu => le_length_of_startsYear hu) h, Option.guard]
  split
  · have hsplit : u.take 4 ++ u.drop 4 = u := List.take_append_drop 4 u
    have hmark := At.mark (w := u.take 4) (u := u.drop 4) (by rwa [hsplit]) (i := 5) (by omega)
    have hnone : lastYear? (u.drop 4) = none := by
      refine last?_eq_none_of_suffix ?_ hlater
      rw [← List.drop_one]
      exact List.drop_suffix_drop_left u (by omega)
    have hphrase := leads_phrase htail hmark (by
      rw [Function.update_of_ne (by omega)]
      exact hnil 6 (by omega)) hnone
    have hleads := hphrase.cons (by omega)
    rw [hsplit] at hleads
    exact Gives.of_leads hleads
  · exact Gives.none

theorem yearAnd_append (u : Text) :
    (startsYear (u ++ tail) && " AND ".toList.isPrefixOf ((u ++ tail).drop 4)) =
      (startsYear u && " AND ".toList.isPrefixOf (u.drop 4)) := by
  rw [startsYear_append htail]
  cases hu : startsYear u with
  | false => rfl
  | true =>
    rw [List.drop_append_of_le_length (le_length_of_startsYear hu),
      isPrefixOf_append htail (by decide)]

/-- **The last range**: its first year is read, and then the last year of the line. -/
theorem gives_range (h : At tail t s texts u) (hnil : ∀ i, 5 ≤ i → texts i = []) :
    Gives tail t 4 texts (lastRange? u) (range.via takeYears s) := by
  induction hn : u.length using Nat.strong_induction_on generalizing s texts u with
  | _ n ih =>
    rw [range, via_ofItems_cons]
    refine gives_dots htail rfl h fun {s u'} hu' h hlater => ?_
    show Gives tail t 4 texts (range? u') ((group 4 none yearAnd).via takeYears s)
    rw [via_group_of_fixed fixed_yearAnd (yearAnd_append htail) (fun u => le_length_of_yearAnd) h,
      range?]
    split
    · rename_i hand
      have hsplit : u'.take 9 ++ u'.drop 9 = u' := List.take_append_drop 9 u'
      have hmark := At.mark (w := u'.take 9) (u := u'.drop 9) (by rwa [hsplit]) (i := 4) (by omega)
      have hnil' : ∀ i, 5 ≤ i → Function.update texts 4 (u'.take 9) i = [] := fun i hi => by
        rw [Function.update_of_ne (by omega), hnil i hi]
      -- behind the last range there is no other one
      have hnone : lastRange? (u'.drop 9) = none := by
        refine last?_eq_none_of_suffix ?_ hlater
        rw [← List.drop_one]
        exact List.drop_suffix_drop_left u' (by omega)
      have hshort : (u'.drop 9).length < n := by
        have hlong := le_length_of_yearAnd hand
        have hle := hu'.length_le
        rw [List.length_drop]
        omega
      have hmore := (ih _ hshort hmark hnil' rfl).fails hnone
      rw [takeYears_eq, hmore, Option.none_or]
      exact (gives_year htail hmark hnil').cons (by omega)
    · exact Gives.none

/-- **The years of a date.** -/
theorem gives_years (h : At tail t s texts u) (hnil : ∀ i, 4 ≤ i → texts i = []) :
    Gives tail t 4 texts (years? u) (takeYears s) := by
  have hnil' : ∀ i, 5 ≤ i → texts i = [] := fun i hi => hnil i (by omega)
  rw [takeYears_eq, years?]
  refine (gives_range htail h hnil').or fun _ => ?_
  exact (gives_year htail h hnil').skip (by omega) (hnil 4 (by omega))

/-- **Words of which the last is read**, and then the rest of a date, if nothing but a year is
needed for it. -/
theorem gives_words {ws : List Text} (hws : Vocabulary ws) {i : Nat} (hi : i < 7)
    {f : Text → Option Text} (hf : ∀ u, f u = none ↔ lastYear? u = none) {k : Spot → Option Spot}
    (hk : ∀ {s texts u}, At tail t s texts u → (∀ j, i < j → texts j = []) →
      Gives tail t (i + 1) texts (f u) (k s))
    (h : At tail t s texts u) (hnil : ∀ j, i < j → texts j = []) :
    Gives tail t (i + 1) (Function.update texts i (dropWords ws (texts i) u).1)
      (f (dropWords ws (texts i) u).2) (takeWords ws i k s) := by
  have hlength : ∀ u, (ws.any fun w => w.isPrefixOf u) = true → 4 ≤ u.length := by
    intro u hu
    obtain ⟨w, hw, hwu⟩ := List.any_eq_true.mp hu
    exact (hws.wordy w hw).1 ▸ (List.isPrefixOf_iff_prefix.mp hwu).length_le
  refine dropWords_induct (P := fun last u r => ∀ s texts, At tail t s texts u → texts i = last →
    (∀ j, i < j → texts j = []) → Gives tail t (i + 1) (Function.update texts i r.1) (f r.2)
      (takeWords ws i k s)) hws.wordy (fun last u hany s texts h hlast hnil => ?_)
    (fun last w u hw ih s texts h hlast hnil => ?_) (texts i) u s texts h rfl hnil
  · have hword := via_group_of_fixed (i := i) hws.fixed (any_isPrefixOf_append htail hws.newline)
      hlength h (takeWords ws i k)
    rw [hany] at hword
    rw [takeWords_eq ws hws.nullable, hword, ← hlast, Function.update_eq_self]
    exact hk h hnil
  · have hany : (ws.any fun v => v.isPrefixOf (w ++ u)) = true :=
      List.any_eq_true.mpr ⟨w, hw, List.isPrefixOf_iff_prefix.mpr (List.prefix_append w u)⟩
    have hword := via_group_of_fixed (i := i) hws.fixed (any_isPrefixOf_append htail hws.newline)
      hlength h (takeWords ws i k)
    rw [hany, if_pos rfl, List.take_left' (hws.wordy w hw).1] at hword
    have hmore := ih (s.mark i w) (Function.update texts i w) (h.mark hi)
      (Function.update_self _ _ _) fun j hj => by
        rw [Function.update_of_ne (by omega), hnil j hj]
    rw [Function.update_idem] at hmore
    rw [takeWords_eq ws hws.nullable, hword]
    cases hout : f (dropWords ws w u).2 with
    | none =>
      -- without the word there is no year either
      have hyear : lastYear? (w ++ u) = none := by
        rwa [lastYear?_append (hws.wordy w hw).2, ← lastYear?_dropWords hws.wordy w u, ← hf]
      rw [hmore.fails hout, Option.none_or, (hk h hnil).fails ((hf _).mpr hyear)]
      exact Gives.none
    | some v =>
      rw [← hout, ← Option.or_none (o := f (dropWords ws w u).2)]
      exact hmore.or fun hnone => absurd (hout.symm.trans hnone) (Option.some_ne_none v)

/-- **A date**, from what may stand in front of its years on. -/
theorem gives_date (h : At tail t s texts u) (hnil : ∀ i, 2 ≤ i → texts i = []) :
    Gives tail t 2 texts (reduced? u) (takeDate s) := by
  have hqualified : ∀ {s texts u}, At tail t s texts u → (∀ j, 2 < j → texts j = []) →
      Gives tail t 3 texts ((years? (dropWords qualifiers [] u).2).map
        ((dropWords qualifiers [] u).1 ++ ·)) (takeWords qualifiers 3 takeYears s) := by
    intro s texts u h hnil
    have hwords := gives_words htail vocabulary_qualifiers (i := 3) (by omega)
      (fun u => years?_eq_none) (gives_years htail) h fun j hj => hnil j (by omega)
    rw [hnil 3 (by omega)] at hwords
    exact hwords.cons (by omega)
  have hnone : ∀ u, (years? (dropWords qualifiers [] u).2).map
      ((dropWords qualifiers [] u).1 ++ ·) = none ↔ lastYear? u = none := by
    intro u
    rw [Option.map_eq_none_iff, years?_eq_none, lastYear?_dropWords wordy_qualifiers]
  have hmarked := gives_words htail vocabulary_marks (i := 2) (by omega) hnone hqualified h
    fun j hj => hnil j (by omega)
  rw [hnil 2 (by omega)] at hmarked
  have hdate := hmarked.cons (by omega)
  rw [Option.map_map] at hdate
  rw [takeDate, reduced?]
  simpa only [Function.comp_def, List.append_assoc] using hdate

end Parts

/-! ## Lines -/

/-- What a date is replaced by: the texts of its groups. -/
def replacement : Text := Regex.Replacement.explicit "$1 DATE $2$3$4$5$6".toList

theorem pieces_replacement :
    Regex.Piece.ofText replacement =
      .group (.index 1) :: (" DATE ".toList.map .char ++
        [2, 3, 4, 5, 6].map fun i => .group (.index i)) := by
  decide +kernel

section Lines
variable {tail u v : Text} {c : Char} {before : Option Char}

theorem expansion_eq {t : Text} {s : Spot} {texts : Nat → Text} (h : Reading 7 t s texts) :
    Regex.expansion (Regex.ofNode pattern) replacement t ⟨s.slots⟩ =
      texts 1 ++ (" DATE ".toList ++ (List.range' 2 5).flatMap texts) := by
  have hgroup : ∀ i, 0 < i → Regex.Piece.text (Regex.ofNode pattern) t ⟨s.slots⟩
      (.group (.index i)) = texts i := fun i hi => h.group_eq i hi
  have hrange : List.range' 2 5 = [2, 3, 4, 5, 6] := rfl
  have hgroups : [2, 3, 4, 5, 6].flatMap (fun i => Regex.Piece.text (Regex.ofNode pattern) t
      ⟨s.slots⟩ (.group (.index i))) = [2, 3, 4, 5, 6].flatMap texts :=
    List.flatMap_congr fun i hi => hgroup i ((by decide : ∀ i ∈ [2, 3, 4, 5, 6], 0 < i) i hi)
  have hchars : (" DATE ".toList.map Regex.Piece.char).flatMap
      (Regex.Piece.text (Regex.ofNode pattern) t ⟨s.slots⟩) = " DATE ".toList := rfl
  rw [Regex.expansion, pieces_replacement, List.flatMap_cons, hgroup 1 (by omega),
    List.flatMap_append, hchars, List.flatMap_map, hgroups, hrange]

theorem via_ofItems_cons_eq {n : Node} {ns : List Node} {k : Spot → Option Spot} :
    (ofItems (n :: ns)).via k = n.via ((ofItems ns).via k) :=
  funext fun _ => via_ofItems_cons

/-- The first way at a character: a digit, the word, and then a date. -/
theorem first?_pattern (before : Option Char) (c : Char) (cs : Text) :
    pattern.first? pattern.freshSlots before (c :: cs) =
      if isDigit c && " DATE ".toList.isPrefixOf cs then
        takeDate (((Spot.note ⟨0, before, c :: cs, List.replicate (2 * 7) none⟩ 0).mark 1 [c]).along
          " DATE ".toList)
      else none := by
  have hdigit : digit.Fixed 1 fun t => t.head?.any isDigit := fixed_chars Text.digitChars false
  rw [first?_eq_via, freshSlots_pattern, pattern, via_ofItems_cons, hdigit.via_group]
  simp only [Spot.rest_note, List.head?_cons, Option.any_some, List.take_succ_cons, List.take_zero,
    via_literal, Spot.rest_mark, List.length_singleton, List.drop_succ_cons, List.drop_zero]
  have hdate : (ofItems [any (group 2 none (oneOf marks)), any (group 3 none (oneOf qualifiers)),
      any (ofItems [any dot, group 4 none yearAnd]), any dot, group 5 none year,
      any (group 6 none phrase)]).via finish = takeDate := by
    simp only [via_ofItems_cons_eq]
    rfl
  rw [← hdate]
  cases isDigit c with
  | true => rfl
  | false => rfl

/-- **Where a date begins in a line**, it is found and shortened, and no year is left behind it. -/
theorem first?_line (htail : EndsLine tail) (hu : '\n' ∉ c :: u) (before : Option Char) :
    match dateAt? c u with
    | none => pattern.first? pattern.freshSlots before (c :: (u ++ tail)) = none
    | some v => ∃ s r, pattern.first? pattern.freshSlots before (c :: (u ++ tail)) = some s ∧
        s.rest = r ++ tail ∧ '\n' ∉ r ∧ lastYear? r = none ∧
        Regex.expansion (Regex.ofNode pattern) replacement (c :: (u ++ tail)) ⟨s.slots⟩ ++ r =
          c :: (" DATE ".toList ++ v) := by
  rw [first?_pattern, isPrefixOf_append htail (by decide), dateAt?]
  cases hhere : isDigit c && " DATE ".toList.isPrefixOf u with
  | false => rfl
  | true =>
    obtain ⟨x, rfl⟩ := List.isPrefixOf_iff_prefix.mp (Bool.and_eq_true_iff.mp hhere).2
    rw [if_pos rfl, if_pos rfl]
    have hstart : At tail (c :: (" DATE ".toList ++ x ++ tail))
        (Spot.note ⟨0, before, c :: (" DATE ".toList ++ x ++ tail), List.replicate (2 * 7) none⟩ 0)
        (fun _ => []) ([c] ++ (" DATE ".toList ++ x)) :=
      ⟨(Reading.start 7 before _).note (by omega), rfl, hu⟩
    have hdate := gives_date htail (hstart.mark (i := 1) (by omega)).along
      fun i hi => Function.update_of_ne (by omega) _ _
    have hdrop : (" DATE ".toList ++ x).drop 6 = x := rfl
    rw [hdrop]
    cases hx : reduced? x with
    | none => exact hdate.fails hx
    | some v =>
      obtain ⟨s, texts, r, hs, hat, hr, hkept, hv⟩ := hdate.leads v hx
      refine ⟨s, r, hs, hat.rest_eq, hat.newline, hr, ?_⟩
      have hfirst : texts 1 = [c] := (hkept 1 (by omega)).trans (Function.update_self _ _ _)
      rw [expansion_eq hat.reading, hfirst, List.append_assoc, List.append_assoc, hv]
      rfl

/-- What replaces the matches of the expression in a text. -/
def Becomes (before : Option Char) (t u : Text) : Prop :=
  pattern.Rewrites pattern.freshSlots
    (Regex.expansion (Regex.ofNode pattern) replacement) before t u

/-- In a line without a year nothing is replaced. -/
theorem becomes_of_lastYear?_eq_none (htail : EndsLine tail) {tail' : Text}
    (hbehind : ∀ before, Becomes before tail tail') (hu : '\n' ∉ u) (hyear : lastYear? u = none)
    (before : Option Char) : Becomes before (u ++ tail) (u ++ tail') := by
  induction u generalizing before with
  | nil => exact hbehind before
  | cons c u ih =>
    have hnone : dateAt? c u = none := by
      by_contra hne
      obtain ⟨v, hv⟩ := Option.ne_none_iff_exists'.mp hne
      obtain ⟨_, x, rfl, hx⟩ := dateAt?_eq_some.mp hv
      have hsuffix : x <:+ c :: (" DATE ".toList ++ x) :=
        (List.suffix_append _ x).trans (List.suffix_cons c _)
      rw [reduced?_eq_none.mpr (lastYear?_eq_none_of_suffix hsuffix hyear)] at hx
      cases hx
    have hfirst := first?_line htail hu before
    rw [hnone] at hfirst
    exact .skip hfirst (ih (List.not_mem_of_not_mem_cons hu) (last?_cons_eq_none.mp hyear).1 _)

/-- **A line is shortened.** -/
theorem becomes_line (htail : EndsLine tail) {tail' : Text}
    (hbehind : ∀ before, Becomes before tail tail') (hu : '\n' ∉ u) (before : Option Char) :
    Becomes before (u ++ tail) (shorten u ++ tail') := by
  induction u generalizing before with
  | nil => exact hbehind before
  | cons c u ih =>
    have hfirst := first?_line htail hu before
    rw [shorten]
    cases hdate : dateAt? c u with
    | none =>
      rw [hdate] at hfirst
      exact .skip hfirst (ih (List.not_mem_of_not_mem_cons hu) _)
    | some v =>
      rw [hdate] at hfirst
      obtain ⟨s, r, hs, hrest, hr, hyear, hv⟩ := hfirst
      have hmore := becomes_of_lastYear?_eq_none htail hbehind hr hyear s.before
      rw [← hrest] at hmore
      have hhit := Regex.Node.Rewrites.hit hs hmore
      rw [← List.append_assoc, hv] at hhit
      exact hhit

/-- **All lines of a text are shortened.** -/
theorem becomes_lines {ls : List Text} (hls : ∀ l ∈ ls, '\n' ∉ l) (before : Option Char) :
    Becomes before (Text.unlines ls) (Text.unlines (ls.map shorten)) := by
  induction ls generalizing before with
  | nil => exact .nil before
  | cons l ls ih =>
    obtain ⟨hl, hls⟩ := List.forall_mem_cons.mp hls
    have hbehind : ∀ before, Becomes before ('\n' :: Text.unlines ls)
        ('\n' :: Text.unlines (ls.map shorten)) := by
      intro before
      have hnone : pattern.first? pattern.freshSlots before ('\n' :: Text.unlines ls) = none := by
        rw [first?_pattern]
        rfl
      exact .skip hnone (ih hls _)
    have htail : EndsLine ('\n' :: Text.unlines ls) := fun c hc => (Option.some.inj hc).symm
    have hline := becomes_line htail hbehind hl before
    rw [List.map_cons, Text.unlines_cons, Text.unlines_cons]
    exact hline

end Lines
end Dates
end Gedcom
