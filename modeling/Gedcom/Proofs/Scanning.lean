import Gedcom.Proofs.Fillings
import Mathlib

/-!
# One scan for all parameters

Parameters could be put into a replacement in one scan from left to right: where the placeholder
of a known name stands, its value goes in, and the scan goes on behind it (`Params.scan`).  What
is done instead is one substitution for each name, in the order of the names.

Two things come between the two.  A value that holds a placeholder, or completes one, is looked at
again; and of two placeholders that share a percent sign the earlier name wins, not the one on the
left.  Where no placeholders share a percent sign, every name takes what the scan would give it
(`filling_eq_scan`), because the names that come later find nothing that begins inside of it.
`interpolate_iff_scan` puts both together.
-/
namespace Gedcom

namespace Text

/-- No character has a percent sign in its upper-case form. -/
theorem percent_notMem_upper {t : Text} (h : '%' ∉ t) : '%' ∉ upper t := by
  have hexpansions : ∀ e ∈ upperExpansions, ∀ k ∈ e.2, 0x41 ≤ k := by decide
  have hruns : ∀ r ∈ upperRuns ++ newerUpperRuns, 0x41 ≤ r.2.2.2 := by decide +kernel
  have hcodes : ∀ n, 0x61 ≤ n → ∀ k ∈ upperCodes n, 0x41 ≤ k := by
    intro n hn k hk
    rw [upperCodes] at hk
    split at hk
    · rename_i codes hlookup
      obtain ⟨pre, post, hentries, -⟩ := List.lookup_eq_some_iff.mp hlookup
      exact hexpansions (n, codes) (by rw [hentries]; simp) k hk
    · split at hk
      · rename_i first last step image hfind
        have himage := hruns _ (List.mem_of_find?_eq_some hfind)
        rw [List.mem_singleton] at hk
        simp only at himage
        omega
      · rw [List.mem_singleton] at hk
        omega
  intro hmem
  obtain ⟨c, hc, hupper⟩ := List.mem_flatMap.mp hmem
  split at hupper
  · exact h (List.mem_singleton.mp hupper ▸ hc)
  · obtain ⟨k, hk, hpercent⟩ := List.mem_map.mp hupper
    have hle := hcodes c.toNat (by omega) k hk
    have hnat : (Char.ofNat k).toNat = 0x25 := congrArg Char.toNat hpercent
    rw [Char.ofNat] at hnat
    split at hnat
    · have heq : k = 0x25 := hnat
      omega
    · cases hnat

/-- A text is cut at its first percent sign in one way. -/
theorem append_percent_inj {t u v w : Text} (ht : '%' ∉ t) (hu : '%' ∉ u)
    (h : t ++ '%' :: v = u ++ '%' :: w) : t = u ∧ v = w := by
  have hstop : ∀ {t : Text}, '%' ∉ t → ∀ v, (t ++ '%' :: v).takeWhile (· != '%') = t := by
    intro t ht v
    have hother : ∀ c ∈ t, (c != '%') = true := fun c hc =>
      bne_iff_ne.mpr fun he : c = '%' => ht (he ▸ hc)
    rw [List.takeWhile_append_of_pos hother, List.takeWhile_cons_of_neg (by simp),
      List.append_nil]
  have htake := congrArg (List.takeWhile (· != '%')) h
  rw [hstop ht, hstop hu] at htake
  obtain rfl := htake
  exact ⟨rfl, (List.cons.inj (List.append_cancel_left h)).2⟩

end Text

namespace Params
open Text

/-! ## Scanning -/

/-- The value of the parameter whose placeholder a text begins with, and what follows it. -/
def reference? (es : List (String × String)) (t : Text) : Option (String × Text) :=
  es.findSome? fun e => (after? (placeholder e.1) t).map (e.2, ·)

/-- Every placeholder of a known name gives way to its value, from left to right.  `steps` bounds
the number of characters that are looked at. -/
def scanWithin (es : List (String × String)) : (steps : Nat) → Text → Filling
  | 0, t => .last t
  | _ + 1, [] => .last []
  | n + 1, c :: cs =>
    match reference? es (c :: cs) with
    | some (value, rest) => .hole [] value (scanWithin es n rest)
    | none => (scanWithin es n cs).cons c

/-- Every placeholder of a known name gives way to its value, from left to right. -/
def scanBy (es : List (String × String)) (t : Text) : Filling := scanWithin es t.length t

/-- A replacement with the values of parameters put in by one scan. -/
def scan (ps : Params) (t : Text) : Filling := scanBy ps.values.entries t

/-- No two placeholders of known names share a percent sign. -/
def Apart (es : List (String × String)) (t : Text) : Prop :=
  ∀ e ∈ es, ∀ e' ∈ es, ¬placeholder e.1 ++ (upper e'.1.toList ++ ['%']) <:+: t

instance (es : List (String × String)) (t : Text) : Decidable (Apart es t) :=
  inferInstanceAs (Decidable (∀ e ∈ es, ∀ e' ∈ es, ¬_))

/-- Names that can be told apart as placeholders: no percent sign in them, and each with an
upper-case form of its own. -/
structure Distinct (es : List (String × String)) : Prop where
  notMem : ∀ e ∈ es, '%' ∉ e.1.toList
  pairwise : es.Pairwise fun e e' => upper e.1.toList ≠ upper e'.1.toList

section Reference
variable {es : List (String × String)} {t rest : Text} {value : String}

theorem exists_of_reference? (h : reference? es t = some (value, rest)) :
    ∃ e ∈ es, e.2 = value ∧ t = placeholder e.1 ++ rest := by
  obtain ⟨e, he, hafter⟩ := List.exists_of_findSome?_eq_some h
  obtain ⟨u, hu, heq⟩ := Option.map_eq_some_iff.mp hafter
  obtain ⟨rfl, rfl⟩ := Prod.mk.inj heq
  exact ⟨e, he, rfl, after?_eq_some.mp hu⟩

theorem reference?_eq_none : reference? es t = none ↔
    ∀ e ∈ es, ∀ rest, t ≠ placeholder e.1 ++ rest := by
  rw [reference?, List.findSome?_eq_none_iff]
  refine forall₂_congr fun e _ => ?_
  rw [Option.map_eq_none_iff, Option.eq_none_iff_forall_ne_some]
  exact forall_congr' fun rest => not_congr after?_eq_some

/-- No placeholder begins with another character. -/
theorem reference?_cons_eq_none {c : Char} (hc : c ≠ '%') (cs : Text) :
    reference? es (c :: cs) = none :=
  reference?_eq_none.mpr fun _ _ _ h => hc (List.cons.inj h).1

theorem length_lt_of_reference? (h : reference? es t = some (value, rest)) :
    rest.length < t.length := by
  obtain ⟨e, -, -, rfl⟩ := exists_of_reference? h
  simp only [placeholder, List.length_append, List.length_cons]
  omega

end Reference

section Distinct
variable {es : List (String × String)} {e e' : String × String} (h : Distinct es)
include h

theorem Distinct.percent_notMem (he : e ∈ es) : '%' ∉ upper e.1.toList :=
  percent_notMem_upper (h.notMem e he)

/-- **Where a placeholder stands**, no other one does. -/
theorem Distinct.eq_of_placeholder_append (he : e ∈ es) (he' : e' ∈ es) {rest rest' : Text}
    (heq : placeholder e.1 ++ rest = placeholder e'.1 ++ rest') : e = e' ∧ rest = rest' := by
  simp only [placeholder, List.cons_append, List.append_assoc, List.nil_append, List.cons.injEq,
    true_and] at heq
  obtain ⟨hupper, hrest⟩ := append_percent_inj (h.percent_notMem he) (h.percent_notMem he') heq
  refine ⟨?_, hrest⟩
  by_contra hne
  have : Std.Symm fun d d' : String × String => upper d.1.toList ≠ upper d'.1.toList :=
    ⟨fun _ _ => Ne.symm⟩
  exact h.pairwise.forall he he' hne hupper

/-- A placeholder is found where it stands, whatever the order of the names is. -/
theorem Distinct.reference?_placeholder_append (he : e ∈ es) (rest : Text) :
    reference? es (placeholder e.1 ++ rest) = some (e.2, rest) := by
  cases href : reference? es (placeholder e.1 ++ rest) with
  | none => exact absurd rfl (reference?_eq_none.mp href e he rest)
  | some found =>
    obtain ⟨e', he', hvalue, heq⟩ := exists_of_reference? href
    obtain ⟨rfl, hrest⟩ := h.eq_of_placeholder_append he he' heq
    rw [hvalue, hrest]

end Distinct

section Scan
variable {es : List (String × String)} {t rest : Text} {value : String}

/-- As many steps as there are characters are enough. -/
theorem scanWithin_eq {m n : Nat} (hm : t.length ≤ m) (hn : t.length ≤ n) :
    scanWithin es m t = scanWithin es n t := by
  induction m generalizing n t with
  | zero =>
    obtain rfl := List.eq_nil_of_length_eq_zero (Nat.le_zero.mp hm)
    cases n <;> rfl
  | succ m ih =>
    cases t with
    | nil => cases n <;> rfl
    | cons c cs =>
      rw [List.length_cons] at hm hn
      obtain ⟨n, rfl⟩ : ∃ n', n = n' + 1 := ⟨n - 1, by omega⟩
      rw [scanWithin, scanWithin]
      cases href : reference? es (c :: cs) with
      | none => exact congrArg (Filling.cons c) (ih (by omega) (by omega))
      | some found =>
        have hlt := length_lt_of_reference? href
        rw [List.length_cons] at hlt
        exact congrArg (Filling.hole [] found.1) (ih (by omega) (by omega))

theorem scanBy_of_reference? (h : reference? es t = some (value, rest)) :
    scanBy es t = .hole [] value (scanBy es rest) := by
  have hlt := length_lt_of_reference? h
  cases t with
  | nil => cases hlt
  | cons c cs =>
    rw [scanBy, List.length_cons, scanWithin, h]
    rw [List.length_cons] at hlt
    exact congrArg (Filling.hole [] value) (scanWithin_eq (by omega) le_rfl)

theorem scanBy_cons {c : Char} {cs : Text} (h : reference? es (c :: cs) = none) :
    scanBy es (c :: cs) = (scanBy es cs).cons c := by
  rw [scanBy, List.length_cons, scanWithin, h]
  rfl

theorem scanBy_placeholder_append {e : String × String} (h : Distinct es) (he : e ∈ es)
    (rest : Text) : scanBy es (placeholder e.1 ++ rest) = .hole [] e.2 (scanBy es rest) :=
  scanBy_of_reference? (h.reference?_placeholder_append he rest)

/-- A text whose first part holds no percent sign is scanned behind that part. -/
theorem scanBy_append {u : Text} (hu : '%' ∉ u) (t : Text) :
    scanBy es (u ++ t) = u.foldr Filling.cons (scanBy es t) := by
  induction u with
  | nil => rfl
  | cons c u ih =>
    obtain ⟨hc, hu⟩ := not_or.mp (mt List.mem_cons.mpr hu)
    rw [List.cons_append, scanBy_cons (reference?_cons_eq_none (Ne.symm hc) _), ih hu,
      List.foldr_cons]

/-- Substituting one name is a scan for this name. -/
theorem cut_placeholder (name value : String) (t : Text) :
    Filling.cut (placeholder name) value t = scanBy [(name, value)] t := by
  have hsteps : ∀ n t, Filling.cutWithin (placeholder name) value n t =
      scanWithin [(name, value)] n t := by
    intro n
    induction n with
    | zero => exact fun _ => rfl
    | succ n ih =>
      intro t
      cases t with
      | nil => rfl
      | cons c cs =>
        have href : reference? [(name, value)] (c :: cs) =
            (after? (placeholder name) (c :: cs)).map (value, ·) := by
          rw [reference?, List.findSome?_cons, List.findSome?_nil]
          cases (after? (placeholder name) (c :: cs)).map (value, ·) <;> rfl
        rw [Filling.cutWithin, scanWithin, href]
        cases after? (placeholder name) (c :: cs) with
        | none => exact congrArg (Filling.cons c) (ih cs)
        | some rest => exact congrArg (Filling.hole [] value) (ih rest)
  exact hsteps t.length t

end Scan

end Params

/-! ## Names one after the other -/

namespace Filling
open Params Text
variable {f g : Filling} {c : Char} {name value : String}

/-- The own text that a filling begins with. -/
def first : Filling → Text
  | last own => own
  | hole own _ _ => own

theorem cons_join (c : Char) (f : Filling) (value : String) (g : Filling) :
    (f.cons c).join value g = (f.join value g).cons c := by
  cases f <;> rfl

/-- A character at which no placeholder begins stays in front. -/
theorem fill_cons (h : reference? [(name, value)] (c :: f.first) = none) :
    (f.cons c).fill (placeholder name) value = (f.fill (placeholder name) value).cons c := by
  cases f with
  | last own =>
    rw [cons, fill, fill, cut_placeholder, cut_placeholder]
    exact scanBy_cons h
  | hole own w rest =>
    have hcut : cut (placeholder name) value (c :: own) =
        (cut (placeholder name) value own).cons c := by
      rw [cut_placeholder, cut_placeholder]
      exact scanBy_cons h
    rw [cons, fill, fill, hcut, cons_join]

/-- A placeholder at the front gives way to its value. -/
theorem fill_foldr_cons (name value : String) (f : Filling) :
    ((placeholder name).foldr cons f).fill (placeholder name) value =
      hole [] value (f.fill (placeholder name) value) := by
  have hlast : ∀ u own : Text, u.foldr cons (last own) = last (u ++ own) := by
    intro u own
    induction u with
    | nil => rfl
    | cons c u ih => rw [List.foldr_cons, ih]; rfl
  have hhole : ∀ (u own : Text) (w : String) (rest : Filling),
      u.foldr cons (hole own w rest) = hole (u ++ own) w rest := by
    intro u own w rest
    induction u with
    | nil => rfl
    | cons c u ih => rw [List.foldr_cons, ih]; rfl
  have hcut : ∀ own, cut (placeholder name) value (placeholder name ++ own) =
      hole [] value (cut (placeholder name) value own) := by
    intro own
    have href : reference? [(name, value)] (placeholder name ++ own) = some (value, own) := by
      rw [reference?, List.findSome?_cons, after?_eq_some.mpr rfl]
      rfl
    rw [cut_placeholder, cut_placeholder, scanBy_of_reference? href]
  cases f with
  | last own => rw [hlast, fill, fill, hcut]
  | hole own w rest => rw [hhole, fill, fill, hcut, join]

end Filling

namespace Params
open Text

/-- A filling is a text in which some placeholders have given way to their values. -/
inductive Puts (es : List (String × String)) : Text → Filling → Prop
  | last (own : Text) : Puts es own (.last own)
  | hole (own : Text) {e : String × String} (he : e ∈ es) {t : Text} {f : Filling}
      (h : Puts es t f) : Puts es (own ++ (placeholder e.1 ++ t)) (.hole own e.2 f)

section Puts
variable {es : List (String × String)} {t u : Text} {f g : Filling}

theorem Puts.cons (h : Puts es t f) (c : Char) : Puts es (c :: t) (f.cons c) := by
  cases h with
  | last => exact .last _
  | hole own he h => exact .hole (c :: own) he h

theorem Puts.join (h : Puts es t f) {e : String × String} (he : e ∈ es) (hg : Puts es u g) :
    Puts es (t ++ (placeholder e.1 ++ u)) (f.join e.2 g) := by
  induction h with
  | last own => exact .hole own he hg
  | hole own hd _ ih =>
    rw [List.append_assoc, List.append_assoc]
    exact .hole own hd ih

theorem puts_scanBy {es' : List (String × String)} (h : es' ⊆ es) (t : Text) :
    Puts es t (scanBy es' t) := by
  induction hn : t.length using Nat.strong_induction_on generalizing t with
  | _ n ih =>
    cases t with
    | nil => exact .last []
    | cons c cs =>
      cases href : reference? es' (c :: cs) with
      | none =>
        rw [scanBy_cons href]
        exact (ih cs.length (by rw [← hn]; exact Nat.lt_succ_self _) cs rfl).cons c
      | some found =>
        have hlt := length_lt_of_reference? href
        obtain ⟨e, he, hvalue, heq⟩ := exists_of_reference? href
        rw [scanBy_of_reference? href, heq, ← hvalue]
        exact .hole [] (h he) (ih found.2.length (by omega) found.2 rfl)

theorem Puts.fill (h : Puts es t f) {e : String × String} (he : e ∈ es) :
    Puts es t (f.fill (placeholder e.1) e.2) := by
  have hcut : ∀ own, Puts es own (Filling.cut (placeholder e.1) e.2 own) := by
    intro own
    rw [cut_placeholder]
    exact puts_scanBy (List.cons_subset.mpr ⟨he, List.nil_subset _⟩) own
  induction h with
  | last own => exact hcut own
  | hole own hd _ ih => exact (hcut own).join hd ih

theorem puts_filling (ps : Params) (t : Text) : Puts ps.values.entries t (ps.filling t) := by
  have hfold : ∀ es, es ⊆ ps.values.entries → ∀ f, Puts ps.values.entries t f →
      Puts ps.values.entries t
        (es.foldl (fun f e => f.fill (placeholder e.1) e.2) f) := by
    intro es
    induction es with
    | nil => exact fun _ f hf => hf
    | cons e es ih =>
      intro h f hf
      obtain ⟨he, hes⟩ := List.cons_subset.mp h
      exact ih hes _ (hf.fill he)
  exact hfold _ (List.Subset.refl _) _ (.last t)

theorem Puts.first_isPrefix (h : Puts es t f) : f.first <+: t := by
  cases h with
  | last => exact List.prefix_rfl
  | hole own _ _ => exact List.prefix_append own _

section Text
variable (hvalues : ∀ e ∈ es, ∃ c v, literalValue e.2 = c :: v ∧ c ≠ '%')
include hvalues

/-- Where one filling has a value, another one does not have the placeholder. -/
theorem eq_nil_of_placeholder_append {e : String × String} (he : e ∈ es) {excess v v' w w' : Text}
    (hplaceholder : placeholder e.1 ++ v = excess ++ v')
    (hliteral : literalValue e.2 ++ w = excess ++ w') : excess = [] := by
  obtain ⟨c, u, hc, hpercent⟩ := hvalues e he
  cases excess with
  | nil => rfl
  | cons d excess =>
    rw [hc] at hliteral
    exact absurd ((List.cons.inj hliteral).1.trans (List.cons.inj hplaceholder).1.symm) hpercent

/-- Two fillings of a text with one outcome have their first values in one place. -/
theorem own_eq_of_text_eq {e e' : String × String} (he : e ∈ es) (he' : e' ∈ es)
    {own own' v v' w w' : Text}
    (ht : own ++ (placeholder e.1 ++ v) = own' ++ (placeholder e'.1 ++ v'))
    (htext : own ++ (literalValue e.2 ++ w) = own' ++ (literalValue e'.2 ++ w')) : own = own' := by
  rcases List.append_eq_append_iff.mp ht with ⟨excess, rfl, hrest⟩ | ⟨excess, rfl, hrest⟩
  · rw [List.append_assoc] at htext
    rw [eq_nil_of_placeholder_append hvalues he hrest (List.append_cancel_left htext),
      List.append_nil]
  · rw [List.append_assoc] at htext
    rw [eq_nil_of_placeholder_append hvalues he' hrest (List.append_cancel_left htext).symm,
      List.append_nil]

/-- **What is put into a text can be told from the outcome**, if values have characters but no
percent sign: a value does not begin as its placeholder does. -/
theorem Puts.eq_of_text_eq (hes : Distinct es) (hf : Puts es t f) (hg : Puts es t g)
    (htext : f.text = g.text) : f = g := by
  have hnone : ∀ {e : String × String}, e ∈ es → ∀ {v w : Text},
      placeholder e.1 ++ v ≠ literalValue e.2 ++ w := by
    intro e he v w heq
    obtain ⟨c, u, hc, hpercent⟩ := hvalues e he
    rw [hc] at heq
    exact hpercent (List.cons.inj heq).1.symm
  induction hf generalizing g with
  | last own =>
    cases hg with
    | last => rfl
    | hole own' he' _ => exact absurd (List.append_cancel_left htext) (hnone he')
  | @hole own e he t f h ih =>
    generalize ht : own ++ (placeholder e.1 ++ t) = u at hg
    cases hg with
    | last =>
      rw [← ht] at htext
      exact absurd (List.append_cancel_left htext).symm (hnone he)
    | @hole own' e' he' t' f' h' =>
      obtain rfl := own_eq_of_text_eq hvalues he he' ht htext
      obtain ⟨rfl, rfl⟩ := hes.eq_of_placeholder_append he he' (List.append_cancel_left ht)
      rw [ih h' (List.append_cancel_left (List.append_cancel_left htext))]

end Text

end Puts

/-! ## Names one after the other against one scan -/

section Apart
variable {es es' : List (String × String)} {e : String × String} {t u : Text}

theorem Apart.inside (h : Apart es t) (hu : u <:+: t) : Apart es u := fun e he e' he' hinside =>
  h e he e' he' (hinside.trans hu)

theorem Apart.subset (h : Apart es t) (hes : es' ⊆ es) : Apart es' t := fun e he e' he' =>
  h e (hes he) e' (hes he')

theorem Distinct.sublist (h : Distinct es) (hes : List.Sublist es' es) : Distinct es' where
  notMem e he := h.notMem e (hes.subset he)
  pairwise := h.pairwise.sublist hes

/-- In front of a placeholder that shares no percent sign, a scan for other names finds nothing. -/
theorem scanBy_placeholder_append_of_apart (h : Distinct (es ++ [e]))
    (happart : Apart (es ++ [e]) (placeholder e.1 ++ u))
    (hfirst : reference? es (placeholder e.1 ++ u) = none) :
    scanBy es (placeholder e.1 ++ u) = (placeholder e.1).foldr Filling.cons (scanBy es u) := by
  have hmem : e ∈ es ++ [e] := List.mem_append_right _ (List.mem_singleton_self e)
  have hlast : reference? es ('%' :: u) = none := by
    refine reference?_eq_none.mpr fun e' he' rest heq => ?_
    simp only [placeholder, List.cons_append, List.append_assoc, List.nil_append, List.cons.injEq,
      true_and] at heq
    refine happart e hmem e' (List.mem_append_left _ he') ⟨[], rest, ?_⟩
    rw [heq]
    simp only [List.nil_append, List.append_assoc, List.cons_append]
  have hshape : placeholder e.1 ++ u = '%' :: (upper e.1.toList ++ '%' :: u) := by
    simp only [placeholder, List.cons_append, List.append_assoc, List.nil_append]
  rw [hshape] at hfirst ⊢
  rw [scanBy_cons hfirst, scanBy_append (h.percent_notMem hmem), scanBy_cons hlast]
  simp only [placeholder, List.foldr_cons, List.foldr_append, List.foldr_nil]

/-- **One name more**: after a scan for some names, a name finds what a scan for all of them would
give it. -/
theorem fill_scanBy (h : Distinct (es ++ [e])) (happart : Apart (es ++ [e]) t) :
    (scanBy es t).fill (placeholder e.1) e.2 = scanBy (es ++ [e]) t := by
  have hmem : e ∈ es ++ [e] := List.mem_append_right _ (List.mem_singleton_self e)
  have hboth : ∀ u, reference? (es ++ [e]) u = (reference? es u).or (reference? [e] u) := by
    intro u
    rw [reference?, List.findSome?_append]
    rfl
  induction hn : t.length using Nat.strong_induction_on generalizing t with
  | _ n ih =>
    cases t with
    | nil => rfl
    | cons c cs =>
      cases href : reference? es (c :: cs) with
      | some found =>
        have hlt := length_lt_of_reference? href
        obtain ⟨e', -, -, heq⟩ := exists_of_reference? href
        have hsuffix : found.2 <:+: c :: cs := heq ▸ List.infix_append_right
        have hfound : reference? (es ++ [e]) (c :: cs) = some found := by
          rw [hboth, href]
          rfl
        rw [scanBy_of_reference? href, scanBy_of_reference? hfound,
          ← ih found.2.length (by omega) (happart.inside hsuffix) rfl]
        rfl
      | none =>
        cases hafter : reference? [e] (c :: cs) with
        | some found =>
          have hlt := length_lt_of_reference? hafter
          obtain ⟨e', he', -, heq⟩ := exists_of_reference? hafter
          obtain rfl := List.mem_singleton.mp he'
          have hsuffix : found.2 <:+: c :: cs := heq ▸ List.infix_append_right
          have hrest := ih found.2.length (by omega) (happart.inside hsuffix) rfl
          rw [heq] at happart href ⊢
          rw [scanBy_placeholder_append_of_apart h happart href, Filling.fill_foldr_cons, hrest,
            scanBy_placeholder_append h hmem]
        | none =>
          have hrest := ih cs.length (by rw [← hn]; exact Nat.lt_succ_self _)
            (happart.inside (List.suffix_cons c cs).isInfix) rfl
          -- a placeholder at the front of the own text would be one at the front of the text
          have hfirst : reference? [e] (c :: (scanBy es cs).first) = none := by
            refine reference?_eq_none.mpr fun e' he' rest heq => ?_
            obtain ⟨post, hpost⟩ := (puts_scanBy (List.Subset.refl es) cs).first_isPrefix
            refine reference?_eq_none.mp hafter e' he' (rest ++ post) ?_
            rw [← hpost, ← List.cons_append, heq, List.append_assoc]
          rw [scanBy_cons href, Filling.fill_cons hfirst, hrest, scanBy_cons]
          rw [hboth, href, hafter]
          rfl

/-- **Names one after the other give what one scan gives**, if no two placeholders of a text share a
percent sign. -/
theorem filling_eq_scan {ps : Params} (h : Distinct ps.values.entries)
    (happart : Apart ps.values.entries t) : ps.filling t = ps.scan t := by
  have hfold : ∀ es' es : List (String × String), Distinct (es ++ es') → Apart (es ++ es') t →
      es'.foldl (fun f e => f.fill (placeholder e.1) e.2) (scanBy es t) =
        scanBy (es ++ es') t := by
    intro es'
    induction es' with
    | nil => exact fun es _ _ => by rw [List.append_nil]; rfl
    | cons e es' ih =>
      intro es hes hapart
      have hshape : es ++ e :: es' = es ++ [e] ++ es' := by
        rw [List.append_assoc, List.singleton_append]
      rw [hshape] at hes hapart ⊢
      have hsublist : List.Sublist (es ++ [e]) (es ++ [e] ++ es') := List.sublist_append_left _ _
      have hstep := fill_scanBy (hes.sublist hsublist) (hapart.subset hsublist.subset)
      have hrest := ih _ hes hapart
      rw [← hstep] at hrest
      exact hrest
  have hempty : scanBy [] t = .last t := by
    have hprefix : Puts [] t (scanBy [] t) := puts_scanBy (List.Subset.refl _) t
    cases hscan : scanBy [] t with
    | last own =>
      rw [hscan] at hprefix
      cases hprefix
      rfl
    | hole own w rest =>
      rw [hscan] at hprefix
      cases hprefix with
      | hole _ he _ => cases he
  have hall := hfold ps.values.entries [] h happart
  rw [hempty] at hall
  exact hall

end Apart

/-- **One scan does not depend on the order of the names.** -/
theorem Distinct.scanBy_eq_of_perm {es es' : List (String × String)} (h : Distinct es)
    (hperm : es'.Perm es) (t : Text) : scanBy es' t = scanBy es t := by
  have hes' : Distinct es' :=
    ⟨fun e he => h.notMem e (hperm.subset he), hperm.symm.pairwise h.pairwise fun hne => hne.symm⟩
  have href : ∀ u, reference? es' u = reference? es u := by
    intro u
    cases hu : reference? es u with
    | none =>
      exact reference?_eq_none.mpr fun e he => reference?_eq_none.mp hu e (hperm.subset he)
    | some found =>
      obtain ⟨e, he, hvalue, rfl⟩ := exists_of_reference? hu
      rw [hes'.reference?_placeholder_append (hperm.symm.subset he), hvalue]
  have hsteps : ∀ n u, scanWithin es' n u = scanWithin es n u := by
    intro n
    induction n with
    | zero => exact fun _ => rfl
    | succ n ih =>
      intro u
      cases u with
      | nil => rfl
      | cons c cs =>
        rw [scanWithin, scanWithin, href]
        cases reference? es (c :: cs) with
        | none => exact congrArg (Filling.cons c) (ih cs)
        | some found => exact congrArg (Filling.hole [] found.1) (ih found.2)
  exact hsteps t.length t

/-- **When one scan is what is done**, for names that can be told apart, whatever their order is:
in a text in which no two placeholders share a percent sign, if and only if values do not take part
in the substitution of names; and with values that do not take part in it anywhere, if and only if
the names one after the other take the placeholders that the scan takes. -/
theorem interpolate_iff_scan {ps : Params} (h : Distinct ps.values.entries) (t : Text) :
    (∀ es, es.Perm ps.values.entries → scanBy es t = ps.scan t) ∧
      (Apart ps.values.entries t → (ps.interpolate t = (ps.scan t).text ↔ ps.Separates t)) ∧
      (ps.IsPlain → (ps.interpolate t = (ps.scan t).text ↔ ps.filling t = ps.scan t)) := by
  refine ⟨fun es hes => h.scanBy_eq_of_perm hes t, fun happart => ?_, fun hplain => ?_⟩
  · rw [Separates, filling_eq_scan h happart]
  · have hvalues : ∀ e ∈ ps.values.entries, ∃ c v, literalValue e.2 = c :: v ∧ c ≠ '%' := by
      intro e he
      obtain ⟨hpercent, hinside⟩ := hplain e.2 (List.mem_map_of_mem he)
      cases hliteral : literalValue e.2 with
      | nil =>
        exact absurd (hliteral ▸ List.nil_infix) (hinside e.1 (List.mem_map_of_mem he))
      | cons c v =>
        rw [hliteral] at hpercent
        exact ⟨c, v, rfl, fun hc => hpercent (hc ▸ List.mem_cons_self)⟩
    have hseparates : ps.interpolate t = (ps.filling t).text := separates_of_isPlain hplain t
    rw [hseparates]
    exact ⟨(puts_filling ps t).eq_of_text_eq hvalues h (puts_scanBy (List.Subset.refl _) t),
      congrArg Filling.text⟩

/-- The parameters of a family tree. -/
def treeParams : Params := .ofList [("tree", "main"), ("base_url", "https://trees.example")]

/-- The address of a record is made in one scan. -/
theorem interpolate_treeParams :
    Distinct treeParams.values.entries ∧
      Apart treeParams.values.entries "%BASE_URL%/%TREE%/$1".toList ∧
      treeParams.IsPlain ∧
      treeParams.interpolate "%BASE_URL%/%TREE%/$1".toList =
        (treeParams.scan "%BASE_URL%/%TREE%/$1".toList).text := by
  have hdistinct : Distinct treeParams.values.entries := ⟨by decide, by decide⟩
  have happart : Apart treeParams.values.entries "%BASE_URL%/%TREE%/$1".toList := by
    decide
  have hplain : treeParams.IsPlain := by
    unfold IsPlain
    decide
  obtain ⟨-, hscan, -⟩ := interpolate_iff_scan hdistinct "%BASE_URL%/%TREE%/$1".toList
  exact ⟨hdistinct, happart, hplain, (hscan happart).mpr (separates_of_isPlain hplain _)⟩

/-- A value that holds the placeholder of another name is looked at again. -/
theorem not_forall_interpolate_scan : ¬∀ (ps : Params) (t : Text), Distinct ps.values.entries →
    ps.interpolate t = (ps.scan t).text := by
  intro h
  have htree := h (.ofList [("base_url", "%TREE%"), ("tree", "main")]) "%BASE_URL%".toList
    ⟨by decide, by decide⟩
  exact absurd htree (by decide)

/-- Of two placeholders that share a percent sign the one on the right can win. -/
example : (Params.ofList [("a", "1"), ("b", "2")]).interpolate "%B%A%".toList = "%B1".toList ∧
    ((Params.ofList [("a", "1"), ("b", "2")]).scan "%B%A%".toList).text = "2A%".toList := by
  decide

end Params
end Gedcom
