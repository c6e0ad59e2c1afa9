import Gedcom.Filter.Catalog
import Gedcom.Proofs.Fillings
import Gedcom.Proofs.Matching
import Gedcom.Proofs.RecordLine
import Gedcom.Proofs.Refiltering
import Gedcom.Proofs.Roominess

/-!
# The search for individuals of whom nothing is told

The search is given a number of links to families.  It finds a record line of an individual, that
many lines with links, and a line with the sex behind which the text ends.  Nothing in it says that
the record line begins a line: whatever ends like one will do (`endsIndividual`).

An identifier is the only repetition in the expression, and it takes all characters that it can,
since what follows begins with none of them (`via_key`).  So what the expression comes to at a place
depends on the rest of the line and on the lines that follow (`first?_pattern`).  A match reaches to
the end of the text.  Hence replacing all matches drops the lines behind the first line from which
the expression matches, if there is one (`becomes_lines`).
-/
namespace Gedcom
namespace Individuals

open Regex (Node Spot Reading)
open Regex.Node

/-! ## Lines -/

/-- The kinds of links to families. -/
def linkTags : List Text := ["FAMC".toList, "FAMS".toList]

/-- The identifier in front of an `@` sign and the end of a line. -/
def xrefBefore? (w u : Text) : Option String :=
  ((Line.takeXref? ('@' :: u)).filter fun found => found.2 == w).map (·.1)

/-- The identifier of a record line of an individual, written without leading zeros and without a
value. -/
def individual? (l : Text) : Option String :=
  (Text.after? "0 @".toList l).bind (xrefBefore? " INDI".toList)

/-- Whether a line links to a family. -/
def isLink (l : Text) : Bool :=
  (Text.after? "1 ".toList l).any fun u => linkTags.any (·.isPrefixOf u) &&
    (Text.after? " @".toList (u.drop 4)).any fun v => (xrefBefore? [] v).isSome

/-- Whether a line tells a sex by one letter. -/
def isSex (l : Text) : Bool :=
  (Text.after? "1 SEX ".toList l).any fun u => u.length == 1 && u.all Text.isWord

/-- Whether a line ends like the record line of an individual. -/
def endsIndividual (l : Text) : Bool := l.tails.any fun u => (individual? u).isSome

/-- Whether lines are a number of links and then a sex. -/
def fitsTail : Nat → List Text → Bool
  | _, [] => false
  | 0, l :: ls => isSex l && ls.isEmpty
  | families + 1, l :: ls => isLink l && fitsTail families ls

/-- Lines up to the first one that ends like the record line of an individual, if what follows it
passes a test. -/
def clipBy (p : List Text → Bool) : List Text → List Text
  | [] => []
  | l :: ls => if endsIndividual l && p ls then [l] else l :: clipBy p ls

theorem xrefBefore?_eq_some {w u : Text} {x : String} :
    xrefBefore? w u = some x ↔ u = x.toList ++ '@' :: w ∧ Line.isXref x = true := by
  simp only [xrefBefore?, Option.map_eq_some_iff, Option.filter_eq_some_iff, Prod.exists,
    beq_iff_eq]
  constructor
  · rintro ⟨y, after, ⟨hu, rfl⟩, rfl⟩
    obtain ⟨heq, hx⟩ := Line.takeXref?_eq_some.mp hu
    exact ⟨(List.cons.inj heq).2, hx⟩
  · rintro ⟨rfl, hx⟩
    exact ⟨x, w, ⟨Line.takeXref?_eq_some.mpr ⟨rfl, hx⟩, rfl⟩, rfl⟩

theorem individual?_eq_some {l : Text} {x : String} :
    individual? l = some x ↔
      l = "0 @".toList ++ (x.toList ++ "@ INDI".toList) ∧ Line.isXref x = true := by
  simp only [individual?, Option.bind_eq_some_iff, Text.after?_eq_some, xrefBefore?_eq_some]
  constructor
  · rintro ⟨u, rfl, rfl, hx⟩
    exact ⟨rfl, hx⟩
  · rintro ⟨rfl, hx⟩
    exact ⟨_, rfl, rfl, hx⟩

theorem isLink_iff {l : Text} :
    isLink l = true ↔ ∃ tag ∈ linkTags, ∃ x, Line.isXref x = true ∧
      l = "1 ".toList ++ (tag ++ (" @".toList ++ (x.toList ++ ['@']))) := by
  have hlength : ∀ tag ∈ linkTags, tag.length = 4 := by decide
  simp only [isLink, Option.any_eq_true, Bool.and_eq_true, List.any_eq_true,
    List.isPrefixOf_iff_prefix, Option.isSome_iff_exists, Text.after?_eq_some,
    xrefBefore?_eq_some]
  constructor
  · rintro ⟨u, rfl, ⟨tag, htag, v, rfl⟩, w, hw, x, rfl, hx⟩
    rw [List.drop_left' (hlength tag htag)] at hw
    exact ⟨tag, htag, x, hx, by rw [hw]⟩
  · rintro ⟨tag, htag, x, hx, rfl⟩
    exact ⟨_, rfl, ⟨tag, htag, List.prefix_append _ _⟩, _,
      List.drop_left' (hlength tag htag), x, rfl, hx⟩

theorem isSex_iff {l : Text} :
    isSex l = true ↔ ∃ c, Text.isWord c = true ∧ l = "1 SEX ".toList ++ [c] := by
  simp only [isSex, Option.any_eq_true, Bool.and_eq_true, beq_iff_eq, List.all_eq_true,
    Text.after?_eq_some, List.length_eq_one_iff]
  constructor
  · rintro ⟨u, rfl, ⟨c, rfl⟩, hc⟩
    exact ⟨c, hc c List.mem_cons_self, rfl⟩
  · rintro ⟨c, hc, rfl⟩
    exact ⟨[c], rfl, ⟨c, rfl⟩, fun d hd => List.mem_singleton.mp hd ▸ hc⟩

theorem endsIndividual_iff {l : Text} :
    endsIndividual l = true ↔ ∃ u x, Line.isXref x = true ∧
      l = u ++ ("0 @".toList ++ (x.toList ++ "@ INDI".toList)) := by
  simp only [endsIndividual, List.any_eq_true, List.mem_tails, Option.isSome_iff_exists,
    individual?_eq_some]
  constructor
  · rintro ⟨v, ⟨u, rfl⟩, x, rfl, hx⟩
    exact ⟨u, x, hx, rfl⟩
  · rintro ⟨u, x, hx, rfl⟩
    exact ⟨_, List.suffix_append u _, x, rfl, hx⟩

theorem endsIndividual_cons (c : Char) (u : Text) :
    endsIndividual (c :: u) = ((individual? (c :: u)).isSome || endsIndividual u) := by
  rw [endsIndividual, endsIndividual, List.tails_cons, List.any_cons]

/-! ## The expression -/

/-- An identifier. -/
def key : Node :=
  times 1 (some 20) true (chars ⟨[(45, 46), (48, 58), (65, 90), (95, 95), (97, 122)]⟩ false)

/-- A line with a link, whose kind is noted as a group. -/
def linkItems (i : Nat) (ns : List Node) : List Node :=
  literal "1 ".toList ++ group i none (oneOf linkTags) ::
    (literal " @".toList ++ key :: (literal "@\n".toList ++ ns))

/-- The line with the sex, at the end of the text. -/
def sexItems : List Node :=
  literal "1 SEX ".toList ++
    chars Text.wordChars false :: (literal "\n".toList ++ [look .textEnd])

/-- Some links, and then the sex. -/
def behindItems : (families i : Nat) → List Node
  | 0, _ => sexItems
  | families + 1, i => linkItems i (behindItems families (i + 1))

/-- The expression that finds individuals with a number of links to families. -/
def pattern (families : Nat) : Node :=
  ofItems <| literal "0 @".toList ++ group 1 none key ::
    (literal "@ INDI\n".toList ++ behindItems families 2)

theorem toList_minimalIndividual (families : Nat) :
    (Catalog.minimalIndividual families).toList =
      "0 @([A-Za-z0-9:_.-]\x7b1,20\x7d)@ INDI\\n".toList ++
        (List.replicate families "1 (FAMC|FAMS) @[A-Za-z0-9:_.-]\x7b1,20\x7d@\\n".toList).flatten ++
        "1 SEX [\\w]\\n$".toList := by
  unfold Catalog.minimalIndividual
  simp only [String.toList_append, String.toList_join, List.flatMap_replicate]

theorem pattern_eq : ∀ families < 3,
    Regex.Token.ofText? (Catalog.minimalIndividual families).toList >>= Node.ofTokens? =
      some (pattern families) := by
  simp only [toList_minimalIndividual]
  rw [String.toList_ofList, String.toList_ofList, String.toList_ofList]
  decide +kernel

theorem freshSlots_pattern : ∀ families < 3,
    (pattern families).freshSlots = List.replicate (2 * (families + 2)) none := by
  decide

theorem solid_pattern : ∀ families < 3, (pattern families).Solid := by
  have hall : ∀ families < 3, (pattern families).progressive = true ∧
      (pattern families).nullable = false ∧ ∀ g ∈ (pattern families).groups, g.1 ≠ 0 := by
    decide
  exact fun families h => ⟨(hall families h).1, (hall families h).2.1, (hall families h).2.2⟩

theorem room_pattern : ∀ families < 3, (pattern families).tooLarge = false := by
  have hforward : ∀ families < 3, (pattern families).cost .forward ≤ 10000000 := by
    decide +kernel
  have hbackward : ∀ families < 3, (pattern families).cost .backward ≤ 10000000 := by
    decide +kernel
  intro families h
  refine tooLarge_eq_false fun d => ?_
  cases d
  · exact hforward families h
  · exact hbackward families h

/-! ## What the parts come to -/

theorem contains_key (c : Char) :
    CharSet.contains ⟨[(45, 46), (48, 58), (65, 90), (95, 95), (97, 122)]⟩ c =
      Line.isXrefChar c := by
  have heq : ∀ d : Char, (c == d) = decide (c.toNat = d.toNat) := fun d => by
    rw [Bool.eq_iff_iff, beq_iff_eq, decide_eq_true_eq]
    exact ⟨fun h => h ▸ rfl, Char.toNat_inj.mp⟩
  have hval : c.val.toNat = c.toNat := rfl
  rw [Line.isXrefChar, Char.isAlphanum, Char.isAlpha, Char.isUpper, Char.isLower, Char.isDigit,
    CharSet.contains]
  simp only [heq, ge_iff_le, UInt32.le_iff_toNat_le, hval, Char.reduceVal, Char.reduceToNat,
    UInt32.reduceToNat]
  generalize c.toNat = n
  simp only [CharSet.inRanges]
  grind

section Parts
variable {k k' : Spot → Option Spot} {s : Spot} {ns : List Node}

/-- All characters of an identifier are taken, if nothing that comes after it begins with one. -/
theorem via_key_of_stops (hk : ∀ t, t.rest.head?.any Line.isXrefChar = true → k t = none)
    (s : Spot) :
    key.via k s =
      if Line.isXref (String.ofList (s.rest.takeWhile Line.isXrefChar)) then
        k (s.along (s.rest.takeWhile Line.isXrefChar)) else none := by
  have hset : CharSet.contains ⟨[(45, 46), (48, 58), (65, 90), (95, 95), (97, 122)]⟩ =
      Line.isXrefChar := funext contains_key
  have hall : (s.rest.takeWhile Line.isXrefChar).all Line.isXrefChar = true :=
    List.all_eq_true.mpr fun c hc => List.mem_takeWhile_imp hc
  rw [key, via_times_succ, Line.isXref, String.toList_ofList, hall, Bool.and_true]
  cases hs : s.rest with
  | nil => exact via_chars_nil hs
  | cons c cs =>
    have hnext : (s.along [c]).rest = cs := by
      rw [Spot.rest_along, hs]
      rfl
    rw [via_chars_cons hs, via_run (hset ▸ hk), hset, hnext]
    cases hc : Line.isXrefChar c with
    | false => simp [hc]
    | true => simp [hc, Line.maxXrefLength, Nat.lt_succ_iff]

/-- **An identifier** is read as it is in a line, if an `@` sign is what follows it. -/
theorem via_key {w : Text} (hk : ∀ t, k t = if ('@' :: w).isPrefixOf t.rest then k' t else none)
    (s : Spot) :
    key.via k s = (Line.takeXref? ('@' :: s.rest)).bind fun found =>
      if w.isPrefixOf found.2 then k' (s.along found.1.toList) else none := by
  have hat : ∀ t : Spot, k t ≠ none → t.rest.head? = some '@' := by
    intro t ht
    rw [hk] at ht
    obtain ⟨u, hu⟩ := List.isPrefixOf_iff_prefix.mp (of_not_not fun h => ht (if_neg h))
    rw [← hu]
    rfl
  have hstops : ∀ t, t.rest.head?.any Line.isXrefChar = true → k t = none := by
    intro t ht
    by_contra hne
    rw [hat t hne] at ht
    exact absurd ht (by decide)
  rw [via_key_of_stops hstops]
  cases hread : Line.takeXref? ('@' :: s.rest) with
  | some found =>
    obtain ⟨x, u⟩ := found
    obtain ⟨heq, hx⟩ := Line.takeXref?_eq_some.mp hread
    have hrest : s.rest = x.toList ++ '@' :: u := (List.cons.inj heq).2
    have htake : s.rest.takeWhile Line.isXrefChar = x.toList := by
      rw [hrest]
      exact (Line.takeWhile_stop (by decide)
        (List.all_eq_true.mp (Bool.and_eq_true_iff.mp hx).2) u).1
    have hbehind : (s.along x.toList).rest = '@' :: u := by
      rw [Spot.rest_along, hrest, List.drop_left]
    rw [htake, String.ofList_toList, if_pos hx, hk, hbehind, List.isPrefixOf_cons_cons,
      beq_self_eq_true, Bool.true_and]
    rfl
  | none =>
    obtain ⟨v, hv⟩ := List.takeWhile_prefix (l := s.rest) Line.isXrefChar
    generalize s.rest.takeWhile Line.isXrefChar = id at hv
    rw [Option.bind_none, ite_eq_right_iff]
    intro hx
    by_contra hne
    -- an identifier that is taken has an `@` sign behind it, and so it is read
    obtain ⟨u, hu⟩ := List.head?_eq_some_iff.mp (hat _ hne)
    rw [Spot.rest_along, ← hv, List.drop_left] at hu
    have hfound := (Line.takeXref?_eq_some (t := '@' :: (_ ++ '@' :: u))).mpr ⟨rfl, hx⟩
    rw [String.toList_ofList, ← hu, hv, hread] at hfound
    cases hfound

/-! ### Lines -/

section Line
variable {l t w : Text}

theorem endsLine_newline (t : Text) : EndsLine ('\n' :: t) := fun _ hc => (Option.some.inj hc).symm

/-- A literal text in a line. -/
theorem via_literal_line (hw : '\n' ∉ w) (hrest : s.rest = l ++ '\n' :: t) :
    (ofItems (literal w ++ ns)).via k s =
      (Text.after? w l).bind fun _ => (ofItems ns).via k (s.along w) := by
  rw [via_literal, hrest, isPrefixOf_append (endsLine_newline t) hw]
  cases hafter : Text.after? w l with
  | none =>
    rw [if_neg]
    · rfl
    · intro hbegins
      obtain ⟨u, hu⟩ := List.isPrefixOf_iff_prefix.mp hbegins
      rw [Text.after?_eq_some.mpr hu.symm] at hafter
      cases hafter
  | some u =>
    rw [if_pos]
    · rfl
    · exact List.isPrefixOf_iff_prefix.mpr ⟨u, (Text.after?_eq_some.mp hafter).symm⟩

/-- An identifier, and what stands behind it in a line. -/
theorem via_key_line (hw : '\n' ∉ w)
    (hk : ∀ t, k t = if ('@' :: (w ++ ['\n'])).isPrefixOf t.rest then k' t else none)
    (hl : '\n' ∉ l) (hrest : s.rest = l ++ '\n' :: t) :
    key.via k s = (xrefBefore? w l).bind fun x => k' (s.along x.toList) := by
  have hread : Line.takeXref? ('@' :: (l ++ '\n' :: t)) = _ :=
    Line.takeXref?_append (by decide) (by decide) ('@' :: l) t
  rw [via_key hk, hrest, hread, xrefBefore?]
  cases hl' : Line.takeXref? ('@' :: l) with
  | none => rfl
  | some found =>
    obtain ⟨x, after⟩ := found
    have hafter : '\n' ∉ after := by
      have heq := (List.cons.inj (Line.takeXref?_eq_some.mp hl').1).2
      exact fun h => hl (heq ▸ List.mem_append_right _ (List.mem_cons_of_mem _ h))
    have hend : (w ++ ['\n']).isPrefixOf (after ++ '\n' :: t) = (after == w) := by
      rw [Bool.eq_iff_iff, List.isPrefixOf_iff_prefix, beq_iff_eq]
      constructor
      · rintro ⟨u, hu⟩
        have hsame : after ++ '\n' :: t = w ++ '\n' :: u := by rw [← hu, List.append_assoc]; rfl
        rw [← Text.firstLine_append_newline hafter t, hsame, Text.firstLine_append_newline hw]
      · rintro rfl
        exact ⟨t, List.append_assoc _ _ _⟩
    rw [Option.map_some, Option.bind_some, hend, Option.filter_some]
    split <;> rfl

/-- The spot behind a line with a link. -/
def behindLink (i : Nat) (s : Spot) (l : Text) : Spot :=
  ((s.along (l.take 2)).mark i ((l.drop 2).take 4)).along (l.drop 6 ++ ['\n'])

/-- **A line with a link.** -/
theorem via_link (i : Nat) (hl : '\n' ∉ l) (hrest : s.rest = l ++ '\n' :: t) :
    (ofItems (linkItems i ns)).via k s =
      if isLink l then (ofItems ns).via k (behindLink i s l) else none := by
  have hnewline : ∀ tag ∈ linkTags, '\n' ∉ tag := by decide
  have hlength : ∀ tag ∈ linkTags, tag.length = 4 := by decide
  rw [linkItems, via_literal_line (by decide) hrest, isLink]
  cases hone : Text.after? "1 ".toList l with
  | none => rfl
  | some u =>
    obtain rfl := Text.after?_eq_some.mp hone
    have hu : (s.along "1 ".toList).rest = u ++ '\n' :: t := by
      rw [Spot.rest_along, hrest, List.append_assoc, List.drop_left]
    rw [Option.bind_some, Option.any_some, via_ofItems_cons,
      (fixed_oneOf hlength (by decide) (by decide)).via_group, hu,
      any_isPrefixOf_append (endsLine_newline t) hnewline]
    cases htag : linkTags.any (·.isPrefixOf u) with
    | false => rfl
    | true =>
      have hlong : 4 ≤ u.length := by
        obtain ⟨tag, hmem, htag⟩ := List.any_eq_true.mp htag
        exact hlength tag hmem ▸ (List.isPrefixOf_iff_prefix.mp htag).length_le
      have hv : ((s.along "1 ".toList).mark i (u.take 4)).rest = u.drop 4 ++ '\n' :: t := by
        rw [Spot.rest_mark, hu, List.length_take, Nat.min_eq_left hlong,
          List.drop_append_of_le_length hlong]
      rw [if_pos rfl, List.take_append_of_le_length hlong, via_literal_line (by decide) hv,
        Bool.true_and]
      cases hat : Text.after? " @".toList (u.drop 4) with
      | none => rfl
      | some v =>
        have heq := Text.after?_eq_some.mp hat
        have hv' : '\n' ∉ v := fun h => hl <| List.mem_append_right _ <|
          List.mem_of_mem_drop (i := 4) <| heq ▸ List.mem_append_right _ h
        have hrest' : (((s.along "1 ".toList).mark i (u.take 4)).along " @".toList).rest =
            v ++ '\n' :: t := by
          rw [Spot.rest_along, hv, heq, List.append_assoc, List.drop_left]
        rw [Option.bind_some, Option.any_some, via_ofItems_cons,
          via_key_line (List.not_mem_nil) (fun t => via_literal "@\n".toList) hv' hrest']
        cases hx : xrefBefore? [] v with
        | none => rfl
        | some x =>
          obtain ⟨rfl, _⟩ := xrefBefore?_eq_some.mp hx
          have hall : u.drop 4 ++ ['\n'] = " @".toList ++ (x.toList ++ "@\n".toList) := by
            rw [heq, List.append_assoc, List.append_assoc]
            rfl
          rw [Option.bind_some, ← Spot.along_append, ← Spot.along_append, ← hall]
          rfl

theorem reading_behindLink {n i : Nat} {whole : Text} {texts : Nat → Text} (hi : i < n)
    (h : Reading n whole s texts) (hrest : s.rest = l ++ '\n' :: t) :
    Reading n whole (behindLink i s l) (Function.update texts i ((l.drop 2).take 4)) ∧
      (behindLink i s l).rest = t := by
  have htwo : (l.drop 2).take 4 ++ l.drop 6 = l.drop 2 := by
    rw [← List.drop_drop (i := 4), List.take_append_drop]
  have hcut : l.take 2 ++ ((l.drop 2).take 4 ++ l.drop 6) = l := by
    rw [htwo, List.take_append_drop]
  rw [behindLink]
  generalize l.take 2 = a at hcut
  generalize (l.drop 2).take 4 = b at hcut
  generalize l.drop 6 = c at hcut
  subst hcut
  have ha : (s.along a).rest = b ++ (c ++ '\n' :: t) := by
    rw [Spot.rest_along, hrest, List.append_assoc, List.append_assoc, List.drop_left]
  have hb : ((s.along a).mark i b).rest = c ++ ['\n'] ++ t := by
    rw [Spot.rest_mark, ha, List.drop_left, List.append_assoc]
    rfl
  refine ⟨?_, by rw [Spot.rest_along, hb, List.drop_left]⟩
  refine ((h.along ?_).mark ?_ hi).along ?_
  · rw [hrest, List.append_assoc]
    exact List.prefix_append _ _
  · rw [ha]
    exact List.prefix_append _ _
  · rw [hb]
    exact List.prefix_append _ _

/-- A letter with which a text ends. -/
theorem via_letter {u : Text} (hu : '\n' ∉ u) (hrest : s.rest = u ++ '\n' :: t) :
    (ofItems (chars Text.wordChars false :: (literal "\n".toList ++ [look .textEnd]))).via k s =
      if u.length == 1 && u.all Text.isWord && t.isEmpty then k (s.along (u ++ ['\n']))
      else none := by
  have hword : ∀ c, Text.wordChars.contains c = Text.isWord c := fun c => rfl
  rw [via_ofItems_cons]
  cases u with
  | nil =>
    rw [via_chars_cons hrest]
    rfl
  | cons c v =>
    have hv : (s.along [c]).rest = v ++ '\n' :: t := by
      rw [Spot.rest_along, hrest]
      rfl
    rw [via_chars_cons hrest, via_literal, hv, hword]
    cases v with
    | nil =>
      have hend : ((s.along [c]).along "\n".toList).rest = t := by
        rw [Spot.rest_along, hv]
        rfl
      have hlook : (ofItems [look .textEnd]).via k ((s.along [c]).along "\n".toList) =
          if t.isEmpty then k (s.along ([c] ++ ['\n'])) else none := by
        rw [Spot.along_append]
        refine via_look.trans ?_
        rw [hend]
        cases t <;> rfl
      rw [hlook]
      cases hc : Text.isWord c <;> simp [hc]
    | cons d v =>
      have hd : '\n' ≠ d := fun heq => hu (heq ▸ List.mem_cons_of_mem _ List.mem_cons_self)
      have hbegins : "\n".toList.isPrefixOf (d :: v ++ '\n' :: t) = false := by
        show ['\n'].isPrefixOf (d :: (v ++ '\n' :: t)) = false
        rw [List.isPrefixOf_cons_cons, beq_false_of_ne hd, Bool.false_and]
      rw [hbegins]
      simp

/-- **The line with the sex**, at the end of the text. -/
theorem via_sex (hl : '\n' ∉ l) (hrest : s.rest = l ++ '\n' :: t) :
    (ofItems sexItems).via k s =
      if isSex l && t.isEmpty then k (s.along (l ++ ['\n'])) else none := by
  rw [sexItems, via_literal_line (by decide) hrest, isSex]
  cases hsex : Text.after? "1 SEX ".toList l with
  | none => rfl
  | some u =>
    obtain rfl := Text.after?_eq_some.mp hsex
    have hu : (s.along "1 SEX ".toList).rest = u ++ '\n' :: t := by
      rw [Spot.rest_along, hrest, List.append_assoc, List.drop_left]
    have hu' : '\n' ∉ u := fun h => hl (List.mem_append_right _ h)
    rw [Option.bind_some, Option.any_some, via_letter hu' hu, ← Spot.along_append,
      List.append_assoc]

/-- Lines of which some are links and the last one is the sex. -/
theorem via_behind {n families i : Nat} {whole : Text} {texts : Nat → Text} {ls : List Text}
    (hn : i + families ≤ n) (hi : 1 < i) (hls : ∀ l ∈ ls, '\n' ∉ l)
    (h : Reading n whole s texts) (hrest : s.rest = Text.unlines ls) :
    (fitsTail families ls = false → (ofItems (behindItems families i)).via finish s = none) ∧
    (fitsTail families ls = true → ∃ u texts',
      (ofItems (behindItems families i)).via finish s = some u ∧ u.rest = [] ∧
        Reading n whole u texts' ∧ texts' 1 = texts 1) := by
  induction families generalizing i s texts ls with
  | zero =>
    cases ls with
    | nil =>
      refine ⟨fun _ => ?_, fun hfits => absurd hfits Bool.false_ne_true⟩
      rw [behindItems, sexItems, via_literal, hrest]
      rfl
    | cons l ls =>
      obtain ⟨hl, -⟩ := List.forall_mem_cons.mp hls
      rw [Text.unlines_cons] at hrest
      have hempty : (Text.unlines ls).isEmpty = ls.isEmpty := by
        rw [Bool.eq_iff_iff, List.isEmpty_iff, List.isEmpty_iff, Text.unlines_eq_nil]
      rw [behindItems, via_sex hl hrest, fitsTail, hempty]
      cases hfits : isSex l && ls.isEmpty with
      | false => exact ⟨fun _ => rfl, fun hfits => absurd hfits Bool.false_ne_true⟩
      | true =>
        obtain rfl := List.isEmpty_iff.mp (Bool.and_eq_true_iff.mp hfits).2
        refine ⟨fun hfits => absurd hfits.symm Bool.false_ne_true, fun _ => ?_⟩
        refine ⟨(s.along (l ++ ['\n'])).note 1, texts, rfl, ?_, (h.along ?_).note (by omega), rfl⟩
        · rw [Spot.rest_note, Spot.rest_along, hrest]
          exact List.drop_length
        · rw [hrest]
          exact List.prefix_rfl
  | succ families ih =>
    cases ls with
    | nil =>
      refine ⟨fun _ => ?_, fun hfits => absurd hfits Bool.false_ne_true⟩
      rw [behindItems, linkItems, via_literal, hrest]
      rfl
    | cons l ls =>
      obtain ⟨hl, hls⟩ := List.forall_mem_cons.mp hls
      rw [Text.unlines_cons] at hrest
      rw [behindItems, via_link i hl hrest, fitsTail]
      cases hlink : isLink l with
      | false => exact ⟨fun _ => rfl, fun hfits => absurd hfits Bool.false_ne_true⟩
      | true =>
        have hi' : i < n := by omega
        obtain ⟨hread, hbehind⟩ := reading_behindLink hi' h hrest
        have hn' : i + 1 + families ≤ n := by omega
        obtain ⟨hnone, hsome⟩ := ih hn' (by omega) hls hread hbehind
        rw [Bool.true_and, if_pos rfl]
        refine ⟨hnone, fun hfits => ?_⟩
        obtain ⟨u, texts', hu, hrest, hread, hone⟩ := hsome hfits
        refine ⟨u, texts', hu, hrest, hread, ?_⟩
        -- the tag of a link is noted in a group behind the first, which holds the key
        rw [hone, Function.update_of_ne (by omega)]

/-- **The record line of an individual**, and what follows it. -/
theorem via_record (hl : '\n' ∉ l) (hrest : s.rest = l ++ '\n' :: t) :
    (ofItems (literal "0 @".toList ++ group 1 none key ::
        (literal "@ INDI\n".toList ++ ns))).via k s =
      (individual? l).bind fun x =>
        (ofItems ns).via k (((s.along "0 @".toList).mark 1 x.toList).along "@ INDI\n".toList) := by
  rw [via_literal_line (by decide) hrest, individual?]
  cases hat : Text.after? "0 @".toList l with
  | none => rfl
  | some u =>
    obtain rfl := Text.after?_eq_some.mp hat
    have hu : (Spot.note (s.along "0 @".toList) 2).rest = u ++ '\n' :: t := by
      rw [Spot.rest_note, Spot.rest_along, hrest, List.append_assoc, List.drop_left]
    have hu' : '\n' ∉ u := fun h => hl (List.mem_append_right _ h)
    rw [Option.bind_some, Option.bind_some, via_ofItems_cons, via_group]
    have hkey := via_key_line (w := " INDI".toList)
      (k := fun t => (ofItems (literal "@ INDI\n".toList ++ ns)).via k (t.note 3)) (by decide)
      (fun t => via_literal (s := t.note 3) "@ INDI\n".toList) hu' hu
    exact hkey

variable {families : Nat} {ls : List Text}

/-- **Where the expression matches**: the rest of a line reads like the record line of an
individual, and links and a sex are all that follows. -/
theorem first?_pattern (hfamilies : families < 3) (hl : '\n' ∉ l) (hls : ∀ m ∈ ls, '\n' ∉ m)
    (before : Option Char) :
    (((individual? l).isSome && fitsTail families ls) = false →
      (pattern families).first? (pattern families).freshSlots before
        (l ++ '\n' :: Text.unlines ls) = none) ∧
    ∀ x, individual? l = some x → fitsTail families ls = true →
      ∃ u, (pattern families).first? (pattern families).freshSlots before
          (l ++ '\n' :: Text.unlines ls) = some u ∧ u.rest = [] ∧
        (Regex.Match.mk u.slots).group (l ++ '\n' :: Text.unlines ls) 1 = x.toList := by
  have hstart := (Reading.start (families + 2) before (l ++ '\n' :: Text.unlines ls)).note
    Nat.zero_lt_two
  rw [first?_eq_via, freshSlots_pattern families hfamilies, pattern, via_record hl rfl]
  cases hx : individual? l with
  | none => exact ⟨fun _ => rfl, fun x hx => by cases hx⟩
  | some x =>
    obtain ⟨rfl, -⟩ := individual?_eq_some.mp hx
    generalize htext : "0 @".toList ++ (x.toList ++ "@ INDI".toList) ++ '\n' :: Text.unlines ls =
      whole at hstart
    generalize hspot : Spot.note ⟨0, before, whole, List.replicate (2 * (families + 2)) none⟩ 0 =
      s at hstart
    -- the places behind the parts of the record line, one after the other
    have hrest : s.rest = "0 @".toList ++ (x.toList ++ ("@ INDI\n".toList ++ Text.unlines ls)) := by
      rw [← hspot, Spot.rest_note, ← htext, List.append_assoc, List.append_assoc]
      rfl
    have hfirst : (s.along "0 @".toList).rest =
        x.toList ++ ("@ INDI\n".toList ++ Text.unlines ls) := by
      rw [Spot.rest_along, hrest, List.drop_left]
    have hsecond : ((s.along "0 @".toList).mark 1 x.toList).rest =
        "@ INDI\n".toList ++ Text.unlines ls := by
      rw [Spot.rest_mark, hfirst, List.drop_left]
    have hthird : (((s.along "0 @".toList).mark 1 x.toList).along "@ INDI\n".toList).rest =
        Text.unlines ls := by
      rw [Spot.rest_along, hsecond, List.drop_left]
    have hread := ((hstart.along (hrest ▸ List.prefix_append _ _)).mark
      (hfirst ▸ List.prefix_append _ _) (i := 1) (by omega)).along
        (hsecond ▸ List.prefix_append _ _)
    have hroom : 2 + families ≤ families + 2 := by omega
    obtain ⟨hnone, hsome⟩ := via_behind hroom (by omega) hls hread hthird
    rw [Option.bind_some, Option.isSome_some, Bool.true_and]
    refine ⟨hnone, fun y hy hfits => ?_⟩
    obtain rfl := Option.some.inj hy
    obtain ⟨u, texts, hu, hrest, hread, hone⟩ := hsome hfits
    refine ⟨u, hu, hrest, ?_⟩
    rw [hread.group_eq 1 Nat.zero_lt_one, hone, Function.update_self]

/-! ### All matches -/

/-- What individuals of whom nothing is told are replaced by: the record line alone. -/
def replacement : Text := Regex.Replacement.explicit "0 @$1@ INDI\n".toList

theorem pieces_replacement :
    Regex.Piece.ofText replacement =
      "0 @".toList.map .char ++ .group (.index 1) :: "@ INDI\n".toList.map .char := by
  decide +kernel

theorem expansion_eq (r : Regex) (t : Text) (m : Regex.Match) :
    Regex.expansion r replacement t m =
      "0 @".toList ++ (m.group t 1 ++ "@ INDI\n".toList) := by
  rw [Regex.expansion, pieces_replacement, List.flatMap_append, List.flatMap_cons]
  rfl

/-- What replaces the matches of the expression in a text. -/
def Becomes (families : Nat) (before : Option Char) (t u : Text) : Prop :=
  (pattern families).Rewrites (pattern families).freshSlots
    (Regex.expansion (Regex.ofNode (pattern families)) replacement) before t u

variable (hfamilies : families < 3)
include hfamilies

/-- **In a line**: if the expression matches somewhere, nothing is left behind the line. -/
theorem becomes_line {kept : List Text} (hls : ∀ m ∈ ls, '\n' ∉ m)
    (hbehind : ∀ before, Becomes families before (Text.unlines ls) (Text.unlines kept))
    (hl : '\n' ∉ l) (before : Option Char) :
    Becomes families before (l ++ '\n' :: Text.unlines ls)
      (if endsIndividual l && fitsTail families ls then l ++ ['\n']
        else l ++ '\n' :: Text.unlines kept) := by
  induction l generalizing before with
  | nil =>
    obtain ⟨hnone, -⟩ := first?_pattern hfamilies (List.not_mem_nil) hls before
    exact .skip (hnone rfl) (hbehind _)
  | cons c l ih =>
    obtain ⟨hnone, hsome⟩ := first?_pattern hfamilies hl hls before
    have hmore := ih (List.not_mem_of_not_mem_cons hl) (some c)
    rw [endsIndividual_cons, Bool.and_or_distrib_right]
    cases hhere : (individual? (c :: l)).isSome && fitsTail families ls with
    | false =>
      rw [Bool.false_or]
      cases hlater : endsIndividual l && fitsTail families ls <;>
        exact .skip (hnone hhere) (by rwa [hlater] at hmore)
    | true =>
      obtain ⟨hindividual, hfits⟩ := Bool.and_eq_true_iff.mp hhere
      obtain ⟨x, hx⟩ := Option.isSome_iff_exists.mp hindividual
      obtain ⟨u, hu, hrest, hgroup⟩ := hsome x hx hfits
      -- the match reaches to the end of the text and is replaced by what its line reads
      have hend : Becomes families u.before u.rest [] := hrest ▸ .nil u.before
      have hhit : Becomes families before _ _ := .hit hu hend
      have hline : c :: l ++ ['\n'] = "0 @".toList ++ (x.toList ++ "@ INDI\n".toList) := by
        rw [(individual?_eq_some.mp hx).1, List.append_assoc, List.append_assoc]
        rfl
      rw [expansion_eq, hgroup, List.append_nil] at hhit
      rw [Bool.true_or, if_pos rfl, hline]
      exact hhit

/-- **In a text**: the lines behind the first line are dropped from which the expression matches. -/
theorem becomes_lines (hls : ∀ l ∈ ls, '\n' ∉ l) (before : Option Char) :
    Becomes families before (Text.unlines ls) (Text.unlines (clipBy (fitsTail families) ls)) := by
  induction ls generalizing before with
  | nil => exact .nil before
  | cons l ls ih =>
    obtain ⟨hl, hls⟩ := List.forall_mem_cons.mp hls
    have hline := becomes_line hfamilies hls (ih hls) hl before
    rw [clipBy, Text.unlines_cons]
    split at hline
    · rename_i hclip
      rwa [if_pos hclip, Text.unlines_singleton]
    · rename_i hclip
      rwa [if_neg hclip, Text.unlines_cons]

end Line
end Parts
end Individuals
end Gedcom
