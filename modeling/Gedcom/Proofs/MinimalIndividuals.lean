import Gedcom.Proofs.IndividualSearch
import Gedcom.Proofs.LineRewriting
import Gedcom.Proofs.Substitutions

/-!
# Individuals of whom nothing is told

A filter reduces individuals of whom nothing but their sex and up to two families is told to the
lines of their records (`documented`).  What it does is something else: three substitutions run
over the text of the record, one for each number of links to families.  Each asks for the sex in
the last line, and each is content with any line that ends like the record line of an individual.

One of the substitutions never gets in the way of another: a line with a link or a sex does not end
like a record line, and what a substitution leaves does (`clipBy_clipBy`).  So the three come to
one step (`left`).  `run_reduceMinimalIndividuals` says what is left, and for which records this is
what the documentation says (`Faithful`).
-/
namespace Gedcom
namespace Individuals

open Catalog (reduceMinimalIndividuals)

/-! ## The three substitutions together -/

/-- Whether lines are at most two links and then a sex. -/
def fits (ls : List Text) : Bool := fitsTail 0 ls || fitsTail 1 ls || fitsTail 2 ls

/-- Some lines are kept up to one that ends like the record line of an individual, and what follows
it passes a test. -/
def Clips (p : List Text → Bool) (ls kept : List Text) : Prop :=
  ∃ above l below, ls = above ++ l :: below ∧ kept = above ++ [l] ∧ endsIndividual l = true ∧
    p below = true

section Clipping
variable {p q : List Text → Bool} {ls : List Text} {l : Text}

theorem fitsTail_iff {families : Nat} {ls : List Text} :
    fitsTail families ls = true ↔ ∃ links sex, ls = links ++ [sex] ∧
      links.length = families ∧ (∀ l ∈ links, isLink l = true) ∧ isSex sex = true := by
  induction families generalizing ls with
  | zero =>
    cases ls with
    | nil => simp [fitsTail]
    | cons l ls =>
      rw [fitsTail, Bool.and_eq_true, List.isEmpty_iff]
      constructor
      · rintro ⟨hl, rfl⟩
        exact ⟨[], l, rfl, rfl, List.forall_mem_nil _, hl⟩
      · rintro ⟨links, sex, heq, hlength, -, hsex⟩
        obtain rfl := List.length_eq_zero_iff.mp hlength
        obtain ⟨rfl, rfl⟩ := List.cons.inj heq
        exact ⟨hsex, rfl⟩
  | succ families ih =>
    cases ls with
    | nil => simp [fitsTail]
    | cons l ls =>
      rw [fitsTail, Bool.and_eq_true, ih]
      constructor
      · rintro ⟨hl, links, sex, rfl, rfl, hlinks, hsex⟩
        exact ⟨l :: links, sex, rfl, rfl, List.forall_mem_cons.mpr ⟨hl, hlinks⟩, hsex⟩
      · rintro ⟨links, sex, heq, hlength, hlinks, hsex⟩
        obtain ⟨m, links, rfl⟩ := List.exists_cons_of_length_eq_add_one hlength
        obtain ⟨rfl, rfl⟩ := List.cons.inj heq
        obtain ⟨hm, hlinks⟩ := List.forall_mem_cons.mp hlinks
        exact ⟨hm, links, sex, rfl, Nat.succ.inj hlength, hlinks, hsex⟩

theorem fits_iff :
    fits ls = true ↔ ∃ links sex, ls = links ++ [sex] ∧ links.length ≤ 2 ∧
      (∀ l ∈ links, isLink l = true) ∧ isSex sex = true := by
  rw [fits, Bool.or_eq_true, Bool.or_eq_true, fitsTail_iff, fitsTail_iff, fitsTail_iff]
  constructor
  · rintro ((⟨links, sex, h, hlength, hrest⟩ | ⟨links, sex, h, hlength, hrest⟩) |
      ⟨links, sex, h, hlength, hrest⟩) <;> exact ⟨links, sex, h, by omega, hrest⟩
  · rintro ⟨links, sex, h, hlength, hrest⟩
    obtain hlength | hlength | hlength : links.length = 0 ∨ links.length = 1 ∨
      links.length = 2 := by omega
    · exact .inl (.inl ⟨links, sex, h, hlength, hrest⟩)
    · exact .inl (.inr ⟨links, sex, h, hlength, hrest⟩)
    · exact .inr ⟨links, sex, h, hlength, hrest⟩

/-- A line with a link does not end like a record line. -/
theorem endsIndividual_of_isLink (hl : isLink l = true) : endsIndividual l = false := by
  obtain ⟨tag, -, x, -, rfl⟩ := isLink_iff.mp hl
  rw [← Bool.not_eq_true, endsIndividual_iff]
  rintro ⟨u, y, -, heq⟩
  have hlast := congrArg (fun t => t.reverse.head?) heq
  simp at hlast

/-- A line with a sex does not end like a record line: it is too short. -/
theorem endsIndividual_of_isSex (hl : isSex l = true) : endsIndividual l = false := by
  obtain ⟨c, -, rfl⟩ := isSex_iff.mp hl
  rw [← Bool.not_eq_true, endsIndividual_iff]
  rintro ⟨u, y, -, heq⟩
  have hlength := congrArg List.length heq
  simp at hlength
  omega

theorem endsIndividual_of_fitsTail {families : Nat} (h : fitsTail families ls = true) :
    ∀ l ∈ ls, endsIndividual l = false := by
  obtain ⟨links, sex, rfl, -, hlinks, hsex⟩ := fitsTail_iff.mp h
  refine List.forall_mem_append.mpr ⟨fun l hl => endsIndividual_of_isLink (hlinks l hl), ?_⟩
  exact List.forall_mem_singleton.mpr (endsIndividual_of_isSex hsex)

/-- **What clipping does**: it drops what stands behind a line that ends like a record line, or
nothing if there is no such line with lines behind it that pass the test. -/
theorem clipBy_cases (p : List Text → Bool) (ls : List Text) :
    Clips p ls (clipBy p ls) ∨ clipBy p ls = ls ∧ ∀ kept, ¬Clips p ls kept := by
  induction ls with
  | nil =>
    refine .inr ⟨rfl, ?_⟩
    rintro kept ⟨above, l, below, heq, -⟩
    exact List.append_ne_nil_of_right_ne_nil above (List.cons_ne_nil l below) heq.symm
  | cons l ls ih =>
    rw [clipBy]
    split
    · rename_i hhere
      obtain ⟨hl, hls⟩ := Bool.and_eq_true_iff.mp hhere
      exact .inl ⟨[], l, ls, rfl, rfl, hl, hls⟩
    · rename_i hhere
      rcases ih with ⟨above, m, below, hls, hkept, hm, hbelow⟩ | ⟨hkept, hnone⟩
      · exact .inl ⟨l :: above, m, below, by rw [hls]; rfl, by rw [hkept]; rfl, hm, hbelow⟩
      · refine .inr ⟨by rw [hkept], ?_⟩
        rintro kept ⟨above, m, below, heq, -, hm, hbelow⟩
        cases above with
        | nil =>
          obtain ⟨rfl, rfl⟩ := List.cons.inj heq
          exact hhere (Bool.and_eq_true_iff.mpr ⟨hm, hbelow⟩)
        | cons k above =>
          exact hnone _ ⟨above, m, below, (List.cons.inj heq).2, rfl, hm, hbelow⟩

theorem clipBy_isPrefix (p : List Text → Bool) (ls : List Text) : clipBy p ls <+: ls := by
  rcases clipBy_cases p ls with ⟨above, l, below, hls, hkept, -⟩ | ⟨hkept, -⟩
  · rw [hkept, hls, ← List.singleton_append (l := below), ← List.append_assoc]
    exact List.prefix_append _ _
  · rw [hkept]

theorem clipBy_eq_nil : clipBy p ls = [] ↔ ls = [] := by
  cases ls with
  | nil => rfl
  | cons l ls =>
    rw [clipBy]
    split <;> simp

/-- Links and a sex are left of lines just if they are the lines. -/
theorem fitsTail_clipBy (families : Nat) (p : List Text → Bool) (ls : List Text) :
    fitsTail families (clipBy p ls) = fitsTail families ls := by
  rcases clipBy_cases p ls with ⟨above, l, below, hls, hkept, hl, -⟩ | ⟨hkept, -⟩
  · have hends : ∀ ms, l ∈ ms → fitsTail families ms = false := by
      intro ms hms
      rw [← Bool.not_eq_true]
      intro hfits
      rw [endsIndividual_of_fitsTail hfits l hms] at hl
      cases hl
    rw [hkept, hls, hends _ (by simp), hends _ (by simp)]
  · rw [hkept]

/-- **One after the other or at once**: clipping again does what it would have done in the first
place, if its test does not see that lines have been clipped. -/
theorem clipBy_clipBy (hq : ∀ ls, q (clipBy p ls) = q ls) (ls : List Text) :
    clipBy q (clipBy p ls) = clipBy (fun ls => p ls || q ls) ls := by
  induction ls with
  | nil => rfl
  | cons l ls ih =>
    rw [clipBy, clipBy]
    cases hl : endsIndividual l with
    | false => rw [Bool.false_and, Bool.false_and, if_neg Bool.false_ne_true,
        if_neg Bool.false_ne_true, clipBy, hl, Bool.false_and, if_neg Bool.false_ne_true, ih]
    | true =>
      cases hp : p ls with
      | true =>
        simp [clipBy]
      | false =>
        rw [Bool.true_and, Bool.true_and, if_neg Bool.false_ne_true, clipBy, hl, hq, ih,
          Bool.true_and, Bool.false_or]

/-- The three substitutions come to one step. -/
theorem clipBy_fits (ls : List Text) :
    clipBy (fitsTail 2) (clipBy (fitsTail 1) (clipBy (fitsTail 0) ls)) = clipBy fits ls := by
  rw [clipBy_clipBy (fitsTail_clipBy 1 _), clipBy_clipBy (fitsTail_clipBy 2 _)]
  rfl

end Clipping

/-! ## What the filter is meant for -/

/-- Whether a line tells a sex by one letter, as the line is read. -/
def tellsSex (l : Text) : Bool :=
  (Line.ofLine? l).any fun line =>
    line == { level := 1, tag := "SEX", value := line.value } &&
      line.value.length == 1 && line.value.all Text.isWord

/-- Whether a line points to a family, as the line is read. -/
def linksFamily (l : Text) : Bool :=
  (Line.ofLine? l).any fun line =>
    ["FAMC", "FAMS"].any (fun tag => line == { level := 1, tag, value := line.value }) &&
      (Line.takeXref? line.value).any fun found => found.2.isEmpty

/-- Whether nothing is told of an individual but its sex and up to two families, in any order. -/
def isSparse (r : Record) : Bool :=
  r.tag == "INDI" && r.xref?.isSome && r.value.isEmpty &&
    r.below.lines.all (fun l => tellsSex l || linksFamily l) &&
    r.below.lines.countP tellsSex == 1 && decide (r.below.lines.countP linksFamily ≤ 2)

/-- What is to be left of the lines of a record. -/
def documented (r : Record) : List Text := if isSparse r then [r.head] else r.lines

/-- What is left of the lines of a record. -/
def left (r : Record) : List Text := if r.tag = "INDI" then clipBy fits r.lines else r.lines

theorem left_cases (r : Record) :
    left r = r.lines ∨ r.tag = "INDI" ∧ Clips fits r.lines (left r) := by
  rw [left]
  split
  · rename_i htag
    exact (clipBy_cases fits r.lines).symm.imp (·.1) fun h => ⟨htag, h⟩
  · exact .inl rfl

theorem left_isPrefix (r : Record) : left r <+: r.lines := by
  rw [left]
  split
  · exact clipBy_isPrefix fits r.lines
  · exact List.prefix_rfl

theorem documented_isPrefix (r : Record) : documented r <+: r.lines := by
  rw [documented]
  split
  · exact List.prefix_append [r.head] r.below.lines
  · exact List.prefix_rfl

/-- A record to which what it is meant to happen happens: if it is to be reduced, its record line is
written without leading zeros and nothing stands behind it, the sex comes last, and the lines below
are written in the usual way; if it is an individual that is to be kept, no line that ends like a
record line has at most two links and a sex behind it. -/
structure Faithful (r : Record) : Prop where
  reduced : isSparse r = true → endsIndividual r.head = true ∧ fits r.below.lines = true
  kept : isSparse r = false → r.tag = "INDI" → ∀ kept, ¬Clips fits r.lines kept

theorem tag_of_isSparse {r : Record} (h : isSparse r = true) : r.tag = "INDI" := by
  simp only [isSparse, Bool.and_eq_true, beq_iff_eq] at h
  exact h.1.1.1.1.1

theorem lines_below_ne_nil {r : Record} (h : isSparse r = true) : r.below.lines ≠ [] := by
  intro hnil
  simp [isSparse, hnil] at h

/-- **What the filter does is what it is meant to do** for these records only. -/
theorem left_eq_documented_iff {r : Record} : left r = documented r ↔ Faithful r := by
  rw [left, documented]
  cases hsparse : isSparse r with
  | true =>
    rw [if_pos (tag_of_isSparse hsparse), if_pos rfl, Record.lines, clipBy]
    have hnot : isSparse r ≠ false := fun h => by simp [hsparse] at h
    constructor
    · intro heq
      refine ⟨fun _ => ?_, fun h => absurd h hnot⟩
      rw [← Bool.and_eq_true_iff]
      by_contra hkept
      rw [if_neg hkept] at heq
      exact lines_below_ne_nil hsparse (clipBy_eq_nil.mp (List.cons.inj heq).2)
    · intro h
      rw [if_pos (Bool.and_eq_true_iff.mpr (h.reduced hsparse))]
  | false =>
    rw [if_neg Bool.false_ne_true]
    have hnot : isSparse r ≠ true := fun h => by simp [hsparse] at h
    by_cases htag : r.tag = "INDI"
    · rw [if_pos htag]
      rcases clipBy_cases fits r.lines with hclips | ⟨heq, hnone⟩
      · have hne : clipBy fits r.lines ≠ r.lines := by
          obtain ⟨above, l, below, hlines, hkept, -, hbelow⟩ := hclips
          intro heq
          rw [heq, hlines] at hkept
          obtain ⟨-, rfl⟩ := List.cons.inj (List.append_cancel_left hkept)
          cases hbelow
        exact iff_of_false hne fun h => h.kept hsparse htag _ hclips
      · exact iff_of_true heq ⟨fun h => absurd h hnot, fun _ _ => hnone⟩
    · rw [if_neg htag]
      exact iff_of_true rfl ⟨fun h => absurd h hnot, fun _ h => absurd h htag⟩

/-! ### Records without lines that end like record lines -/

theorem ofLine?_of_individual? {l : Text} {x : String} (h : individual? l = some x) :
    Line.ofLine? l = some { level := 0, xref := some x, tag := "INDI" } := by
  obtain ⟨rfl, hx⟩ := individual?_eq_some.mp h
  have hxref : Line.takeXref? ('@' :: (x.toList ++ "@ INDI".toList)) = some (x, " INDI".toList) :=
    Line.takeXref?_eq_some.mpr ⟨rfl, hx⟩
  have hlevel : Line.takeLevel? ("0 @".toList ++ (x.toList ++ "@ INDI".toList)) =
      some (0, ' ' :: '@' :: (x.toList ++ "@ INDI".toList)) := rfl
  rw [Line.ofLine?, hlevel]
  simp only [hxref]
  rfl

theorem ofLine?_of_isLink {l : Text} (h : isLink l = true) :
    ∃ tag ∈ ["FAMC", "FAMS"], ∃ x, Line.isXref x = true ∧
      Line.ofLine? l = some { level := 1, tag, value := '@' :: (x.toList ++ ['@']) } := by
  obtain ⟨tag, htag, x, hx, rfl⟩ := isLink_iff.mp h
  rcases List.mem_pair.mp htag with rfl | rfl
  · exact ⟨"FAMC", by simp, x, hx, rfl⟩
  · exact ⟨"FAMS", by simp, x, hx, rfl⟩

theorem ofLine?_of_isSex {l : Text} (h : isSex l = true) :
    ∃ c, Text.isWord c = true ∧
      Line.ofLine? l = some { level := 1, tag := "SEX", value := [c] } := by
  obtain ⟨c, hc, rfl⟩ := isSex_iff.mp h
  exact ⟨c, hc, rfl⟩

theorem reads_of_isLink {l : Text} (h : isLink l = true) :
    linksFamily l = true ∧ tellsSex l = false := by
  obtain ⟨tag, htag, x, hx, hline⟩ := ofLine?_of_isLink h
  have hxref : Line.takeXref? ('@' :: (x.toList ++ ['@'])) = some (x, []) :=
    Line.takeXref?_eq_some.mpr ⟨rfl, hx⟩
  rw [linksFamily, tellsSex, hline, Option.any_some, Option.any_some, hxref]
  rcases List.mem_pair.mp htag with rfl | rfl <;> simp

theorem reads_of_isSex {l : Text} (h : isSex l = true) :
    tellsSex l = true ∧ linksFamily l = false := by
  obtain ⟨c, hc, hline⟩ := ofLine?_of_isSex h
  rw [linksFamily, tellsSex, hline, Option.any_some, Option.any_some]
  simp [hc]

/-- An individual that the filter reduces because of its own record line is meant to be reduced. -/
theorem isSparse_of_fits {r : Record} {x : String} (hhead : individual? r.head = some x)
    (hbelow : fits r.below.lines = true) : isSparse r = true := by
  obtain ⟨links, sex, hlines, hlength, hlinks, hsex⟩ := fits_iff.mp hbelow
  have hline := ofLine?_of_individual? hhead
  have htag : r.tag = "INDI" := by rw [Record.tag, Line.tagOf, hline]; rfl
  have hxref : r.xref? = some x := by rw [Record.xref?, hline]; rfl
  have hvalue : r.value = [] := by rw [Record.value, hline]; rfl
  have hread := fun l hl => reads_of_isLink (hlinks l hl)
  have hsexes : links.countP tellsSex = 0 :=
    List.countP_eq_zero.mpr fun l hl => by simp [(hread l hl).2]
  have hall : links.all (fun l => tellsSex l || linksFamily l) = true :=
    List.all_eq_true.mpr fun l hl => by simp [(hread l hl).1]
  have hcount : links.countP linksFamily ≤ 2 := List.countP_le_length.trans hlength
  obtain ⟨htells, hno⟩ := reads_of_isSex hsex
  simp [isSparse, htag, hxref, hvalue, hlines, hall, hsexes, htells, hno, hcount]

/-- **Where values do not look like record lines**, and the record line is written in the usual way,
nothing but the place of the sex decides: it has to come last. -/
theorem faithful_iff_of_apart {r : Record} (hhead : (individual? r.head).isSome = true)
    (hbelow : ∀ l ∈ r.below.lines, endsIndividual l = false) :
    Faithful r ↔ (isSparse r = true → fits r.below.lines = true) := by
  obtain ⟨x, hx⟩ := Option.isSome_iff_exists.mp hhead
  constructor
  · exact fun h hsparse => (h.reduced hsparse).2
  · intro h
    refine ⟨fun hsparse => ⟨?_, h hsparse⟩, fun hsparse _ kept => ?_⟩
    · obtain ⟨hline, hxref⟩ := individual?_eq_some.mp hx
      exact endsIndividual_iff.mpr ⟨[], x, hxref, hline⟩
    · rintro ⟨above, l, below, heq, -, hl, hfits⟩
      cases above with
      | nil =>
        obtain ⟨rfl, rfl⟩ := List.cons.inj heq
        rw [isSparse_of_fits hx hfits] at hsparse
        cases hsparse
      | cons k above =>
        have hmem : l ∈ r.below.lines := by
          rw [(List.cons.inj heq).2]
          simp
        rw [hbelow l hmem] at hl
        cases hl

/-! ## The rules -/

/-- The substitution for individuals with a number of links to families. -/
def substitution (families : Nat) : Substitution :=
  ⟨Catalog.minimalIndividual families, "0 @$1@ INDI\n"⟩

theorem seeks_substitution : ∀ families < 3, (substitution families).Seeks (pattern families) := by
  have hgroupable : ∀ families < 3,
      Regex.Groupable (substitution families).search.toList := by
    simp only [substitution, toList_minimalIndividual]
    rw [String.toList_ofList, String.toList_ofList, String.toList_ofList]
    decide
  have hrefers : ∀ families < 3, Regex.Replacement.problem? (.ofNode (pattern families))
      (substitution families).replacement = none := by
    decide +kernel
  intro families h
  exact ⟨pattern_eq families h, room_pattern families h, hgroupable families h,
    hrefers families h, (by decide : '%' ∉ "0 @$1@ INDI\n".toList)⟩

/-- The operations that the filter carries out on the text of an individual. -/
def reductions : List Op := (List.range 3).map fun families => .substitute (substitution families)

/-- The rule for individuals, ready to run. -/
def readyReductions : ReadyRule :=
  ⟨⟨"INDI"⟩, (List.range 3).map fun families => (substitution families).ready (pattern families)⟩

/-- The rules of the filter, ready to run. -/
def readyRules : ReadyRules := ⟨[readyReductions, ⟨⟨"*"⟩, []⟩]⟩

theorem validate_reduceMinimalIndividuals (ps : Params) :
    reduceMinimalIndividuals.validate ps = .ok () := by
  have hreductions : Rule.problem? {} false ⟨"INDI", reductions⟩ = none := by
    refine Rule.problem?_eq_none (by decide) (by decide) ?_
    show ∀ op ∈ reductions, op.problem? {} false "INDI" = none
    rw [reductions, List.forall_mem_map]
    exact fun families h => (seeks_substitution families (List.mem_range.mp h)).problem?
  have hany : Rule.problem? {} false ⟨"*", []⟩ = none :=
    Rule.problem?_eq_none (by decide) (by decide) (List.forall_mem_nil _)
  have hsome : (reduceMinimalIndividuals.rules ps).isEmpty = false := rfl
  refine RuleSet.validate_eq_ok hsome rfl ?_
  show RuleSet.ruleFault? reduceMinimalIndividuals.name {} false []
    [⟨"INDI", reductions⟩, ⟨"*", []⟩] = none
  rw [RuleSet.ruleFault?_cons hreductions (by decide), RuleSet.ruleFault?_cons hany (by decide)]
  rfl

/-- The rules of the filter can be made ready, whatever the parameters are. -/
theorem compile_reduceMinimalIndividuals (ps : Params) :
    reduceMinimalIndividuals.compile ps = .ok readyRules := by
  have hvalid := validate_reduceMinimalIndividuals ps
  have hwritten : reductions.flatMap (RuleSet.writtenOut {}) = reductions := rfl
  have hreductions : Rule.Becomes ps ⟨"INDI", reductions.flatMap (RuleSet.writtenOut {})⟩
      readyReductions := by
    refine ⟨rfl, ?_⟩
    rw [hwritten]
    show List.Forall₂ (Op.Becomes ps) reductions
      ((List.range 3).map fun families => (substitution families).ready (pattern families))
    rw [reductions, List.forall₂_map_left_iff, List.forall₂_map_right_iff, List.forall₂_same]
    exact fun families h => (seeks_substitution families (List.mem_range.mp h)).becomes ps
  have hany : Rule.Becomes ps ⟨"*", []⟩ ⟨⟨"*"⟩, []⟩ := ⟨rfl, .nil⟩
  refine RuleSet.compile_eq_ok.mpr ⟨hvalid, RuleSet.unknownMacro?_of_validate hvalid, ?_⟩
  exact .cons hreductions (.cons hany .nil)

/-- The filter that is being applied. -/
def application (ps : Params) : Application := ⟨reduceMinimalIndividuals, readyRules, ps⟩

/-- The rules of the filter exclude nothing, and one of them decides on every path. -/
theorem decisive (ps : Params) : (application ps).Decisive where
  keeps r hr := by
    rcases List.mem_pair.mp hr with rfl | rfl <;> decide
  decides path hpath := by
    have hany : Pattern.tags ⟨"*"⟩ = ["*"] := by decide
    refine ⟨⟨⟨"*"⟩, []⟩, List.mem_pair.mpr (.inr rfl), ?_⟩
    rw [Pattern.admits, hany]
    exact matchTags_wildcard hpath
  closed r hr hops := by
    rcases List.mem_pair.mp hr with rfl | rfl
    · decide
    · exact absurd rfl hops

/-- The rule for individuals decides on the lines of individuals, and nowhere else. -/
theorem ruleAt_application (ps : Params) {path : List String} {rule : ReadyRule}
    (hwildcard : wildcard ∉ path) (h : (application ps).ruleAt path = some rule) :
    rule = (if path = ["INDI"] then readyReductions else ⟨⟨"*"⟩, []⟩) := by
  have hadmits : (Pattern.mk "INDI").admits path = decide (path = ["INDI"]) := by
    have htags : Pattern.tags ⟨"INDI"⟩ = ["INDI"] := by decide
    have hno : ("INDI" == wildcard) = false := by decide
    rw [Pattern.admits, htags, matchTags_eq_tagsAgree (by decide) (by decide) hwildcard]
    rcases path with _ | ⟨tag, _ | ⟨next, path⟩⟩
    · rfl
    · rw [tagsAgree, hno, Bool.false_or, tagsAgree, Bool.and_true, Bool.eq_iff_iff, beq_iff_eq,
        decide_eq_true_eq, List.cons.injEq, and_iff_left rfl, eq_comm]
    · simp [tagsAgree]
  have hfind : (application ps).ruleAt path =
      if path = ["INDI"] then some readyReductions
      else [(⟨⟨"*"⟩, []⟩ : ReadyRule)].find? fun r => r.pattern.admits path := by
    rw [Application.ruleAt, application, readyRules, List.find?_cons, readyReductions, hadmits]
    split <;> simp_all
  rw [hfind] at h
  split
  · rename_i hpath
    rw [if_pos hpath] at h
    exact (Option.some.inj h).symm
  · rename_i hpath
    rw [if_neg hpath] at h
    exact List.mem_singleton.mp (List.mem_of_find?_eq_some h)

/-- What the filter does on a path. -/
def reduceLines (path : List String) (ls : List Text) : List Text :=
  if path = ["INDI"] then clipBy fits ls else ls

/-- What the filter does on a path: it clips the lines of individuals. -/
theorem rewritesLines (ps : Params) : (application ps).RewritesLines reduceLines := by
  refine (decisive ps).rewritesLines ?_ ?_
  · intro path ls hls
    rw [reduceLines]
    split
    · exact fun l hl => hls l ((clipBy_isPrefix fits ls).subset hl)
    · exact hls
  · intro g path ls rule hrule hwildcard hls
    rw [ruleAt_application ps hwildcard hrule, reduceLines]
    split
    · have hpass : ∀ families < 3, ∀ ms : List Text, (∀ m ∈ ms, '\n' ∉ m) →
          (pattern families).Rewrites (pattern families).freshSlots
            (Regex.expansion (.ofNode (pattern families))
              (Regex.Replacement.explicit (substitution families).replacement.toList)) none
            (Text.unlines ms) (Text.unlines (clipBy (fitsTail families) ms)) :=
        fun families h ms hms => becomes_lines h hms none
      have hclipped : ∀ p ms, (∀ m ∈ ms, '\n' ∉ m) → ∀ m ∈ clipBy p ms, '\n' ∉ m :=
        fun p ms hms m hm => hms m ((clipBy_isPrefix p ms).subset hm)
      have hops : readyReductions.ops = [(substitution 0).ready (pattern 0),
          (substitution 1).ready (pattern 1), (substitution 2).ready (pattern 2)] := rfl
      have hzero := hclipped (fitsTail 0) ls hls
      have hone := hclipped (fitsTail 1) _ hzero
      rw [hops, Substitution.runOps_ready (solid_pattern 0 (by omega)) (hpass 0 (by omega) ls hls),
        Substitution.runOps_ready (solid_pattern 1 (by omega)) (hpass 1 (by omega) _ hzero),
        Substitution.runOps_ready (solid_pattern 2 (by omega)) (hpass 2 (by omega) _ hone),
        clipBy_fits]
      exact Yields.pure _
    · exact Yields.pure _

theorem rewritten_reduceLines {path : List String} (hpath : path ≠ []) (o : Outline) :
    o.rewritten reduceLines path = o.lines := by
  induction o generalizing path with
  | empty => rfl
  | entry l below after ihbelow ihafter =>
    have hdeep : path ++ [Line.tagOf l] ≠ ["INDI"] := by
      rw [Ne, List.append_eq_singleton_iff]
      simp [hpath]
    rw [Outline.rewritten, reduceLines, if_neg hdeep, ihbelow (by simp), ihafter hpath,
      Outline.lines, List.cons_append]

/-- **What is left of a record.** -/
theorem rewritten_eq_left (r : Record) : r.rewritten reduceLines = left r := by
  rw [Record.rewritten, rewritten_reduceLines (List.cons_ne_nil r.tag []), reduceLines, left,
    Record.lines]
  simp only [List.cons.injEq, and_true]

/-- What the filter leaves of a transmission. -/
theorem run_delivers (ps : Params) {ts : List Text} {rs : List Record} (hts : Delivers ts rs)
    (s : Run) :
    ∃ trace s', (reduceMinimalIndividuals.run ps ts).run s =
      (.ok (rs.map fun r => Text.unlines (left r), trace), s') := by
  obtain ⟨trace, s', hrun⟩ := (rewritesLines ps).run_delivers hts s
  have hleft : ∀ r : Record, left r ≠ [] := by
    intro r
    rw [left]
    split
    · exact fun h => List.cons_ne_nil _ _ (clipBy_eq_nil.mp h)
    · exact List.cons_ne_nil _ _
  have hfilter : ((rs.map fun r => Text.unlines (left r)).filter fun t => !t.isEmpty) =
      rs.map fun r => Text.unlines (left r) := by
    rw [List.filter_eq_self, List.forall_mem_map]
    intro r _
    rw [Bool.not_eq_true', List.isEmpty_eq_false_iff]
    exact fun h => hleft r (Text.unlines_eq_nil.mp h)
  simp only [rewritten_eq_left, hfilter] at hrun
  rw [Filter.run_of_compile (compile_reduceMinimalIndividuals ps)]
  exact ⟨trace, s', hrun⟩

/-! ## The filter -/

/-- **Individuals of whom nothing is told.**  The filter succeeds on every transmission.  It leaves
the lines of a record, or, of an individual, the lines up to one that ends like a record line and
has at most two links and a sex behind it.  This is what it is meant to leave just if all records
are such that it is. -/
theorem run_reduceMinimalIndividuals (ps : Params) (d : Transmission) {ts : List Text}
    (hts : ts.flatMap recordBlocks = recordBlocks d.text) (s : Run) :
    ∃ out trace s', (reduceMinimalIndividuals.run ps ts).run s = (.ok (out, trace), s') ∧
      out = (records d.text).map (fun r => Text.unlines (left r)) ∧
      (∀ r ∈ records d.text, left r = r.lines ∨ r.tag = "INDI" ∧ Clips fits r.lines (left r)) ∧
      (out = (records d.text).map (fun r => Text.unlines (documented r)) ↔
        ∀ r ∈ records d.text, Faithful r) := by
  have hdelivers := d.delivers hts
  obtain ⟨trace, s', hrun⟩ := run_delivers ps hdelivers s
  refine ⟨_, trace, s', hrun, rfl, fun r _ => left_cases r, ?_⟩
  rw [List.map_inj_left]
  refine forall₂_congr fun r hr => ?_
  obtain ⟨hhead, hbelow⟩ := Bool.and_eq_true_iff.mp (hdelivers.legible r hr)
  have hlines : ∀ l ∈ r.lines, '\n' ∉ l := Application.newline_notMem_cons hhead fun _ hl =>
    Outline.newline_notMem_of_mem_lines hbelow hl
  have hleft : ∀ l ∈ left r, '\n' ∉ l := fun l hl => hlines l ((left_isPrefix r).subset hl)
  have hdocumented : ∀ l ∈ documented r, '\n' ∉ l :=
    fun l hl => hlines l ((documented_isPrefix r).subset hl)
  rw [← left_eq_documented_iff]
  exact ⟨Text.unlines_inj hleft hdocumented, congrArg Text.unlines⟩

/-- Two individuals, of the first of whom nothing is told. -/
def couple : Transmission where
  lines := ["0 @I1@ INDI", "1 FAMC @F1@", "1 SEX M", "0 @I2@ INDI", "1 NAME Eve",
    "1 SEX F"].map String.toList
  stepwise := by decide

/-- The first individual is reduced, and the second one stays. -/
theorem run_reduceMinimalIndividuals_couple :
    ∃ out trace s', (reduceMinimalIndividuals.run {} (recordBlocks couple.text)).run {} =
        (.ok (out, trace), s') ∧
      out.map String.ofList = ["0 @I1@ INDI\n", "0 @I2@ INDI\n1 NAME Eve\n1 SEX F\n"] := by
  obtain ⟨out, trace, s', hrun, hout, -, -⟩ :=
    run_reduceMinimalIndividuals {} couple couple.flatMap_recordBlocks {}
  refine ⟨out, trace, s', hrun, ?_⟩
  rw [hout]
  decide +kernel

/-- The filter does to a transmission what it is meant to do. -/
def RunsAsDocumented (d : Transmission) : Prop :=
  ∃ trace s', (reduceMinimalIndividuals.run {} (recordBlocks d.text)).run {} =
    (.ok ((records d.text).map fun r => Text.unlines (documented r), trace), s')

/-- An individual whose sex stands in front of a link to a family. -/
def sexFirst : Transmission where
  lines := ["0 @I1@ INDI", "1 SEX M", "1 FAMC @F1@"].map String.toList
  stepwise := by decide

/-- An individual with a note that ends like a record line. -/
def quoting : Transmission where
  lines := ["0 @I1@ INDI", "1 NOTE 0 @I2@ INDI", "1 SEX M"].map String.toList
  stepwise := by decide

/-- The individual whose sex comes first is not reduced, and the one with the note loses its sex. -/
theorem not_runsAsDocumented : ¬RunsAsDocumented sexFirst ∧ ¬RunsAsDocumented quoting := by
  have hdiffers : ∀ d : Transmission,
      ((records d.text).map fun r => Text.unlines (left r)) ≠
        (records d.text).map (fun r => Text.unlines (documented r)) → ¬RunsAsDocumented d := by
    rintro d hne ⟨trace, s', hrun⟩
    obtain ⟨trace', s'', hrun'⟩ := run_delivers {} (d.delivers d.flatMap_recordBlocks) {}
    rw [hrun'] at hrun
    exact hne (Prod.mk.inj (Except.ok.inj (Prod.mk.inj hrun).1)).1
  exact ⟨hdiffers sexFirst (by decide +kernel), hdiffers quoting (by decide +kernel)⟩

end Individuals
end Gedcom
