import Gedcom.Line
import Gedcom.RuleSet.Validity
import Mathlib.Data.List.Basic
import Mathlib.Tactic.ByContra

/-!
# Rules that are alive

A rule is alive if there is a path on which it is the first rule that matches.  A valid
rule set has no rule that a single earlier rule dominates; `alive_iff` says that this is
enough: several earlier rules never cover a rule together, and all rules of a valid rule
set are alive.  The only exception is a lone wildcard behind another one, since a lone
wildcard is never called dominated.

The path that shows a rule alive is made from its pattern (`specimen`).  A tag that stands
in no earlier pattern takes the place of every wildcard, so that an earlier pattern can
match it there with a wildcard only.  A pattern that ends in a wildcard is
continued by that tag beyond the length of all earlier patterns, so that of those only
patterns with an open end can match.  What matches such a path also matches the pattern
itself (`matchTags_of_specimen`).
-/
namespace Gedcom

namespace Line

/-- Whether a text is a tag, as a line may have it. -/
def isTag (tag : String) : Bool := !tag.toList.isEmpty && tag.toList.all isTagChar

theorem ne_wildcard_of_isTag {tag : String} (h : isTag tag = true) : tag ≠ wildcard := by
  rintro rfl
  exact absurd h (by decide)

/-- There is always one more tag. -/
theorem exists_isTag_notMem (tags : List String) : ∃ tag, isTag tag = true ∧ tag ∉ tags := by
  refine ⟨String.ofList (List.replicate ((tags.map String.toList).flatten.length + 1) 'X'), ?_, ?_⟩
  · rw [isTag, String.toList_ofList, List.all_replicate]
    simp [isTagChar]
  · intro hmem
    -- it is longer than all of the others together
    have hsublist := List.sublist_flatten_of_mem (List.mem_map_of_mem (f := String.toList) hmem)
    have hle := hsublist.length_le
    rw [String.toList_ofList, List.length_replicate] at hle
    omega

end Line

/-- Whether a path is one that the lines of a transmission can have: it is not empty, and
it is made of tags. -/
def isPath (path : List String) : Bool := !path.isEmpty && path.all Line.isTag

theorem wildcard_notMem_of_isTag {path : List String} (h : ∀ tag ∈ path, Line.isTag tag = true) :
    wildcard ∉ path :=
  fun hmem => Line.ne_wildcard_of_isTag (h wildcard hmem) rfl

theorem wildcard_notMem_of_isPath {path : List String} (h : isPath path = true) :
    wildcard ∉ path :=
  wildcard_notMem_of_isTag (List.all_eq_true.mp (Bool.and_eq_true_iff.mp h).2)

/-! ## Well-formed patterns -/

namespace Text
variable {sep : Char → Bool}

/-- A text with one piece is this piece. -/
theorem eq_of_pieces {t piece : Text} (h : pieces sep t = [piece]) : t = piece := by
  induction t generalizing piece with
  | nil => exact List.singleton_inj.mp h
  | cons c t ih =>
    obtain ⟨first, rest, hps⟩ : ∃ first rest, pieces sep t = first :: rest :=
      List.exists_cons_of_ne_nil (pieces_ne_nil t)
    rw [pieces_cons, hps, consPiece] at h
    split at h
    · cases h
    · obtain ⟨rfl, rfl⟩ := List.cons.inj h
      rw [ih hps]

/-- A text ends in its last piece. -/
theorem getLast?_of_pieces {t piece : Text} (h : (pieces sep t).getLast? = some piece)
    (hne : piece ≠ []) : t.getLast? = piece.getLast? := by
  induction t generalizing piece with
  | nil => exact absurd (Option.some.inj h).symm hne
  | cons c t ih =>
    obtain ⟨first, rest, hps⟩ : ∃ first rest, pieces sep t = first :: rest :=
      List.exists_cons_of_ne_nil (pieces_ne_nil t)
    have hlast : ∀ {q : Text}, (pieces sep t).getLast? = some q → q ≠ [] →
        (c :: t).getLast? = q.getLast? := by
      intro q hq hqne
      rw [List.getLast?_cons, ih hq hqne, List.getLast?_eq_some_getLast hqne, Option.getD_some]
    rw [pieces_cons, hps, consPiece] at h
    rw [hps] at hlast
    by_cases hc : sep c = true
    · rw [if_pos hc, List.getLast?_cons_cons] at h
      exact hlast h hne
    · rw [if_neg hc] at h
      cases rest with
      | cons second rest => exact hlast h hne
      | nil =>
        obtain rfl : c :: first = piece := Option.some.inj h
        cases first with
        | nil => rw [eq_of_pieces hps]
        | cons d first => rw [hlast (q := d :: first) rfl (by simp), List.getLast?_cons_cons]

end Text

namespace Pattern
variable {p e : Pattern}

theorem ne_nil_of_isToken {t : Text} (h : isToken t = true) : t ≠ [] := by
  rintro rfl
  cases h

/-- A token is a wildcard or a tag. -/
theorem isTag_of_isToken {t : Text} (h : isToken t = true) (ht : String.ofList t ≠ wildcard) :
    Line.isTag (String.ofList t) = true := by
  rw [isToken, Bool.or_eq_true, beq_iff_eq] at h
  rcases h with rfl | h
  · exact absurd rfl ht
  · obtain ⟨hne, hall⟩ := Bool.and_eq_true_iff.mp h
    rw [Line.isTag, String.toList_ofList, hne, Bool.true_and, List.all_eq_true]
    intro c hc
    have hchar := List.all_eq_true.mp hall c hc
    rw [Bool.or_eq_true, Bool.or_eq_true] at hchar
    rw [Line.isTagChar, Bool.or_eq_true, Char.isAlphanum, Bool.or_eq_true]
    rcases hchar with (hupper | hdigit) | hlow
    · have halpha : c.isAlpha = true := Bool.or_eq_true_iff.mpr (.inl hupper)
      exact .inl (.inl halpha)
    · exact .inl (.inr hdigit)
    · exact .inr hlow

/-- A token that ends in an asterisk is a wildcard. -/
theorem getLast?_of_isToken {t : Text} (h : isToken t = true) :
    t.getLast? = some '*' ↔ String.ofList t = wildcard := by
  constructor
  · intro hlast
    by_contra hne
    have htag := isTag_of_isToken h hne
    rw [Line.isTag, String.toList_ofList, Bool.and_eq_true, List.all_eq_true] at htag
    exact absurd (htag.2 _ (List.mem_of_getLast? hlast)) (by decide)
  · intro ht
    obtain rfl : t = ['*'] := by
      rw [← String.toList_ofList (l := t), ht]
      rfl
    rfl

section WellFormed
variable (hp : p.wellFormed = true)
include hp

theorem isToken_of_mem_pieces {t : Text} (ht : t ∈ Text.pieces (· == ':') p.body) :
    isToken t = true :=
  List.all_eq_true.mp hp t ht

/-- The tags of a well-formed pattern are what stands between its colons. -/
theorem tags_eq : p.tags = (Text.pieces (· == ':') p.body).map String.ofList := by
  rw [tags, tagsOf, Text.fields, List.filter_eq_self.mpr]
  intro t ht
  simpa using ne_nil_of_isToken (isToken_of_mem_pieces hp ht)

theorem tags_ne_nil : p.tags ≠ [] := by
  rw [tags_eq hp]
  simpa using Text.pieces_ne_nil p.body

theorem isTag_of_mem_tags {tag : String} (htag : tag ∈ p.tags) (hne : tag ≠ wildcard) :
    Line.isTag tag = true := by
  rw [tags_eq hp] at htag
  obtain ⟨t, ht, rfl⟩ := List.mem_map.mp htag
  exact isTag_of_isToken (isToken_of_mem_pieces hp ht) hne

/-- A well-formed pattern ends in an asterisk if its last tag is a wildcard. -/
theorem getLast?_body : p.body.getLast? = some '*' ↔ p.tags.getLast? = some wildcard := by
  have hne : Text.pieces (· == ':') p.body ≠ [] := Text.pieces_ne_nil p.body
  have hpiece := List.getLast?_eq_some_getLast hne
  have htoken := isToken_of_mem_pieces hp (List.getLast_mem hne)
  rw [Text.getLast?_of_pieces hpiece (ne_nil_of_isToken htoken), getLast?_of_isToken htoken,
    tags_eq hp, List.getLast?_map, hpiece, Option.map_some, Option.some.injEq]

/-- A well-formed pattern with a wildcard as its only tag is a lone wildcard. -/
theorem body_eq_of_tags (htags : p.tags = [wildcard]) : p.body = ['*'] := by
  rw [tags_eq hp, List.map_eq_singleton_iff] at htags
  obtain ⟨t, hpieces, ht⟩ := htags
  have hlist : t = ['*'] := by
    rw [← String.toList_ofList (l := t), ht]
    rfl
  rw [Text.eq_of_pieces hpieces, hlist]

end WellFormed

end Pattern

/-! ## Specimens -/

/-- The tags of a pattern with a tag in place of every wildcard. -/
def specimen (tag : String) (tags : List String) : List String :=
  tags.map fun t => if t = wildcard then tag else t

section Specimen
variable {tag : String} {tags earlier : List String}

theorem specimen_cons (t : String) (tags : List String) :
    specimen tag (t :: tags) = (if t = wildcard then tag else t) :: specimen tag tags := rfl

/-- What stands in a specimen is matched by what stands at its place in the pattern. -/
theorem agrees_specimen (t : String) :
    (t == wildcard || t == if t = wildcard then tag else t) = true := by
  by_cases ht : t = wildcard <;> simp [ht]

/-- A pattern matches its specimens, and longer ones if it has an open end. -/
theorem matchTags_specimen (hne : tags ≠ []) {more : Nat}
    (hopen : tags.getLast? = some wildcard ∨ more = 0) :
    matchTags tags (specimen tag tags ++ List.replicate more tag) = true := by
  induction tags with
  | nil => exact absurd rfl hne
  | cons t tags ih =>
    cases tags with
    | nil =>
      cases more with
      | zero => exact agrees_specimen t
      | succ more =>
        have ht : t = wildcard := by simpa using hopen
        simp [specimen, matchTags, List.replicate_succ, ht]
    | cons u tags =>
      rw [List.getLast?_cons_cons] at hopen
      have hrest := ih (by simp) hopen
      simp only [specimen_cons, List.cons_append] at hrest ⊢
      rw [matchTags, agrees_specimen, Bool.true_and, hrest]

section Fresh
variable (htag : tag ≠ wildcard) (hfresh : tag ∉ earlier)
include hfresh

/-- A new tag is matched by wildcards only. -/
theorem agrees_of_specimen {p t : String} (hp : p ∈ earlier)
    (h : (p == wildcard || p == if t = wildcard then tag else t) = true) :
    (p == wildcard || p == t) = true := by
  by_cases ht : t = wildcard
  · rw [if_pos ht, Bool.or_eq_true, beq_iff_eq, beq_iff_eq] at h
    rcases h with h | rfl
    · simp [h]
    · exact absurd hp hfresh
  · rwa [if_neg ht] at h

/-- With an open end, what matches a specimen that is longer than itself matches the
pattern, filled up with wildcards. -/
theorem matchTags_of_long_specimen {more : Nat} (hopen : tags.getLast? = some wildcard)
    (hmore : earlier.length < tags.length + more)
    (h : matchTags earlier (specimen tag tags ++ List.replicate more tag) = true) :
    matchTags earlier
      (tags ++ List.replicate (earlier.length - tags.length) wildcard) = true := by
  induction earlier generalizing tags more with
  | nil => cases h
  | cons p ps ih =>
    have hfresh' : tag ∉ ps := fun hmem => hfresh (List.mem_cons_of_mem _ hmem)
    match tags, ps, more with
    | [], _, _ => cases hopen
    | [t], [], 0 => simp at hmore
    | [t], [], more + 1 =>
      have hp : (p == wildcard) = true := h
      simp [matchTags, hp]
    | t :: u :: ts, [], _ =>
      have hp : (p == wildcard) = true := h
      simp [matchTags, hp]
    | [t], q :: qs, 0 => simp at hmore
    | [t], q :: qs, more + 1 =>
      -- the open end goes on as another wildcard
      obtain rfl : t = wildcard := Option.some.inj hopen
      obtain ⟨hp, hrest⟩ := Bool.and_eq_true_iff.mp h
      have hrest : matchTags (q :: qs) (specimen tag [wildcard] ++ List.replicate more tag) =
        true := hrest
      have hfilled := ih hfresh' (by rfl) (by simp at hmore ⊢; omega) hrest
      have hlength : (p :: q :: qs).length - [wildcard].length = qs.length + 1 := rfl
      rw [hlength, List.replicate_succ, List.singleton_append, matchTags,
        agrees_of_specimen hfresh List.mem_cons_self hp, Bool.true_and]
      exact hfilled
    | t :: u :: ts, q :: qs, more =>
      rw [List.getLast?_cons_cons] at hopen
      obtain ⟨hp, hrest⟩ := Bool.and_eq_true_iff.mp h
      have hfilled := ih hfresh' hopen (by simp at hmore ⊢; omega) hrest
      have hlength : (p :: q :: qs).length - (t :: u :: ts).length =
        (q :: qs).length - (u :: ts).length := Nat.succ_sub_succ _ _
      rw [hlength, List.cons_append, List.cons_append, matchTags,
        agrees_of_specimen hfresh List.mem_cons_self hp, Bool.true_and]
      exact hfilled

include htag

/-- What matches a specimen with a new tag matches the pattern. -/
theorem matchTags_of_specimen (h : matchTags earlier (specimen tag tags) = true) :
    matchTags earlier tags = true := by
  fun_induction matchTags earlier tags with
  | case1 => exact h
  | case2 p hp =>
    cases p with
    | nil => exact absurd rfl hp
    | cons => exact h
  | case3 p t => exact agrees_of_specimen hfresh List.mem_cons_self h
  | case4 p => exact h
  | case5 p q ps t =>
    have ht : (if t = wildcard then tag else t) ≠ wildcard := by
      split
      · exact htag
      · assumption
    exact absurd (beq_iff_eq.mp h) ht
  | case6 p q ps t u ts ih =>
    obtain ⟨hp, hrest⟩ := Bool.and_eq_true_iff.mp h
    rw [agrees_of_specimen hfresh List.mem_cons_self hp, Bool.true_and]
    exact ih (fun hmem => hfresh (List.mem_cons_of_mem _ hmem)) hrest

end Fresh
end Specimen

namespace Pattern
variable {p e : Pattern} {tag : String}

/-- A path that a well-formed pattern matches: a specimen that is longer than any of some
other patterns if the pattern has an open end. -/
def witness (tag : String) (more : Nat) (p : Pattern) : List String :=
  specimen tag p.tags ++ List.replicate (if p.tags.getLast? = some wildcard then more else 0) tag

theorem isTag_of_mem_specimen (hp : p.wellFormed = true) (htag : Line.isTag tag = true)
    {t : String} (ht : t ∈ specimen tag p.tags) : Line.isTag t = true := by
  obtain ⟨u, hu, rfl⟩ := List.mem_map.mp ht
  split
  · exact htag
  · exact isTag_of_mem_tags hp hu ‹_›

/-- The witness of a pattern is the path of a line. -/
theorem isPath_witness (hp : p.wellFormed = true) (htag : Line.isTag tag = true) (more : Nat) :
    isPath (p.witness tag more) = true := by
  have hne : p.witness tag more ≠ [] := by
    rw [witness, specimen]
    exact List.append_ne_nil_of_left_ne_nil (by simpa using tags_ne_nil hp) _
  rw [isPath, Bool.and_eq_true, List.all_eq_true]
  refine ⟨by simpa using hne, fun t ht => ?_⟩
  rcases List.mem_append.mp ht with ht | ht
  · exact isTag_of_mem_specimen hp htag ht
  · rw [List.eq_of_mem_replicate ht]
    exact htag

/-- A well-formed pattern matches its witness. -/
theorem admits_witness (hp : p.wellFormed = true) (tag : String) (more : Nat) :
    p.admits (p.witness tag more) = true := by
  refine matchTags_specimen (tags_ne_nil hp) ?_
  by_cases hopen : p.tags.getLast? = some wildcard
  · exact .inl hopen
  · exact .inr (if_neg hopen)

/-- Whether a pattern is a lone wildcard. -/
def isLone (p : Pattern) : Bool := p.body == ['*']

theorem tags_of_isLone (hp : p.isLone = true) : p.tags = [wildcard] := by
  rw [tags, beq_iff_eq.mp hp]
  decide

/-- A pattern with one tag that matches a path of several tags is a lone wildcard. -/
theorem isLone_of_admits (he : e.wellFormed = true) (hlength : e.tags.length ≤ 1) {t u : String}
    {path : List String} (h : e.admits (t :: u :: path) = true) : e.isLone = true := by
  obtain ⟨q, hq⟩ : ∃ q, e.tags = [q] :=
    List.length_eq_one_iff.mp (Nat.le_antisymm hlength (List.length_pos_of_ne_nil (tags_ne_nil he)))
  rw [admits, hq, matchTags, beq_iff_eq] at h
  rw [isLone, body_eq_of_tags he (h ▸ hq)]
  rfl

theorem filledTo_of_open (hp : p.wellFormed = true) (hopen : p.tags.getLast? = some wildcard)
    (n : Nat) : p.filledTo n = p.tags ++ List.replicate (n - p.tags.length) wildcard :=
  if_pos ((getLast?_body hp).mpr hopen)

theorem filledTo_of_closed (hp : p.wellFormed = true) (hclosed : p.tags.getLast? ≠ some wildcard)
    (n : Nat) : p.filledTo n = p.tags :=
  if_neg fun h => hclosed ((getLast?_body hp).mp h)

theorem isDominatedBy_eq_true :
    p.isDominatedBy e = true ↔
      ¬(p.isLone = true ∧ e.tags.length ≤ 1) ∧
        matchTags e.tags (p.filledTo e.tags.length) = true := by
  rw [isDominatedBy, Bool.and_eq_true, Bool.not_eq_true', ← Bool.not_eq_true, Bool.and_eq_true,
    decide_eq_true_eq]
  rfl

/-- **What matches the witness of a pattern dominates it**, unless both are lone wildcards. -/
theorem isDominatedBy_of_admits_witness (hp : p.wellFormed = true) (he : e.wellFormed = true)
    (htag : Line.isTag tag = true) (hfresh : tag ∉ e.tags) {more : Nat}
    (hmore : e.tags.length ≤ more) (h : e.admits (p.witness tag more) = true) :
    p.isDominatedBy e = true ∨ p.isLone = true ∧ e.isLone = true := by
  by_cases hopen : p.tags.getLast? = some wildcard
  · have hlength : 0 < p.tags.length := List.length_pos_of_ne_nil (tags_ne_nil hp)
    rw [witness, if_pos hopen] at h
    by_cases hlone : p.isLone = true ∧ e.tags.length ≤ 1
    · refine .inr ⟨hlone.1, ?_⟩
      -- the witness of a lone wildcard has two tags at least
      obtain ⟨more, rfl⟩ : ∃ n, more = n + 1 := by
        have := List.length_pos_of_ne_nil (tags_ne_nil he)
        exact ⟨more - 1, by omega⟩
      rw [tags_of_isLone hlone.1] at h
      exact isLone_of_admits he hlone.2 h
    · refine .inl (isDominatedBy_eq_true.mpr ⟨hlone, ?_⟩)
      rw [filledTo_of_open hp hopen]
      exact matchTags_of_long_specimen hfresh hopen (by omega) h
  · rw [witness, if_neg hopen, List.replicate_zero, List.append_nil] at h
    refine .inl (isDominatedBy_eq_true.mpr ⟨fun hlone => ?_, ?_⟩)
    · rw [tags_of_isLone hlone.1] at hopen
      exact hopen rfl
    · rw [filledTo_of_closed hp hopen]
      exact matchTags_of_specimen (Line.ne_wildcard_of_isTag htag) hfresh h

/-- A lone wildcard matches all paths. -/
theorem admits_of_isLone (hp : p.isLone = true) {path : List String} (hpath : path ≠ []) :
    p.admits path = true := by
  rw [admits, tags_of_isLone hp, matchTags_wildcard hpath]

/-- A pattern that none of some earlier ones dominates matches a path that none of them
matches. -/
theorem exists_path (hp : p.wellFormed = true) {earlier : List Pattern}
    (hearlier : ∀ e ∈ earlier, e.wellFormed = true)
    (hlive : ∀ e ∈ earlier, p.isDominatedBy e = false)
    (hlone : ¬(p.isLone = true ∧ ∃ e ∈ earlier, e.isLone = true)) :
    ∃ path, isPath path = true ∧ p.admits path = true ∧
      ∀ e ∈ earlier, e.admits path = false := by
  obtain ⟨tag, htag, hfresh⟩ := Line.exists_isTag_notMem (earlier.flatMap tags)
  refine ⟨p.witness tag (earlier.flatMap tags).length, isPath_witness hp htag _,
    admits_witness hp tag _, fun e he => ?_⟩
  by_contra hadmits
  rw [Bool.not_eq_false] at hadmits
  have hsublist : e.tags.Sublist (earlier.flatMap tags) :=
    List.sublist_flatten_of_mem (List.mem_map_of_mem he)
  rcases isDominatedBy_of_admits_witness hp (hearlier e he) htag
      (fun hmem => hfresh (hsublist.subset hmem)) hsublist.length_le hadmits with h | h
  · rw [hlive e he] at h
    cases h
  · exact hlone ⟨h.1, e, he, h.2⟩

end Pattern

namespace RuleSet
variable {filter : String} {macros : Macros} {hasHook : Bool}

theorem wellFormed_of_problem? {r : Rule} (h : r.problem? macros hasHook = none) :
    (Pattern.mk r.pattern).wellFormed = true := by
  unfold Rule.problem? at h
  split at h
  · cases h
  · rename_i hwell
    simpa using hwell

theorem of_ruleFault?_cons {earlier : List Pattern} {r : Rule} {rs : List Rule}
    (h : ruleFault? filter macros hasHook earlier (r :: rs) = none) :
    (Pattern.mk r.pattern).wellFormed = true ∧
      (∀ e ∈ earlier, (Pattern.mk r.pattern).isDominatedBy e = false) ∧
      ruleFault? filter macros hasHook (earlier ++ [⟨r.pattern⟩]) rs = none := by
  rw [ruleFault?] at h
  split at h
  · cases h
  · rename_i hproblem
    split at h
    · cases h
    · rename_i hdominated
      refine ⟨wellFormed_of_problem? hproblem, fun e he => ?_, h⟩
      exact Bool.not_eq_true _ ▸ List.find?_eq_none.mp hdominated e he

/-- Valid rules have well-formed patterns, and none is dominated by one in front of it. -/
theorem of_ruleFault?_append {earlier : List Pattern} {before after : List Rule} {r : Rule}
    (h : ruleFault? filter macros hasHook earlier (before ++ r :: after) = none) :
    (∀ q ∈ before ++ [r], (Pattern.mk q.pattern).wellFormed = true) ∧
      ∀ e ∈ earlier ++ before.map (⟨·.pattern⟩),
        (Pattern.mk r.pattern).isDominatedBy e = false := by
  induction before generalizing earlier with
  | nil =>
    obtain ⟨hwell, hlive, _⟩ := of_ruleFault?_cons h
    simpa using ⟨hwell, hlive⟩
  | cons q before ih =>
    obtain ⟨hq, _, hrest⟩ := of_ruleFault?_cons h
    obtain ⟨hwell, hlive⟩ := ih hrest
    refine ⟨List.forall_mem_cons.mpr ⟨hq, hwell⟩, fun e he => hlive e ?_⟩
    simpa using he

/-- The patterns of a valid rule set are well formed, and none is dominated by one in front
of it. -/
theorem of_validate {s : RuleSet} (hvalid : s.validate filter macros hasHook = .ok ()) {i : Nat}
    {p : String} (hp : s.patterns[i]? = some p) :
    (Pattern.mk p).wellFormed = true ∧
      ∀ e ∈ s.patterns.take i,
        (Pattern.mk e).wellFormed = true ∧ (Pattern.mk p).isDominatedBy ⟨e⟩ = false := by
  have hfault : ruleFault? filter macros hasHook [] s.rules = none := by
    unfold validate fault? at hvalid
    split at hvalid
    · cases hvalid
    · rename_i hfault
      split at hfault
      · cases hfault
      · split at hfault
        · cases hfault
        · exact hfault
  rw [patterns, List.getElem?_map, Option.map_eq_some_iff] at hp
  obtain ⟨r, hr, rfl⟩ := hp
  obtain ⟨hi, rfl⟩ := List.getElem?_eq_some_iff.mp hr
  rw [← List.take_append_drop i s.rules, List.drop_eq_getElem_cons hi] at hfault
  obtain ⟨hwell, hlive⟩ := of_ruleFault?_append hfault
  refine ⟨hwell _ (List.mem_append_right _ (List.mem_singleton_self _)), fun e he => ?_⟩
  rw [patterns, ← List.map_take] at he
  obtain ⟨q, hq, rfl⟩ := List.mem_map.mp he
  exact ⟨hwell q (List.mem_append_left _ hq), hlive _ (List.mem_map_of_mem hq)⟩

/-- The first rule that matches is one that matches while none in front of it does. -/
theorem findIdx?_patterns {s : RuleSet} {i : Nat} {p : String} (hp : s.patterns[i]? = some p)
    (path : List String) :
    s.patterns.findIdx? (fun q => (Pattern.mk q).admits path) = some i ↔
      (Pattern.mk p).admits path = true ∧
        ∀ e ∈ s.patterns.take i, (Pattern.mk e).admits path = false := by
  obtain ⟨hi, rfl⟩ := List.getElem?_eq_some_iff.mp hp
  rw [List.findIdx?_eq_some_iff_getElem]
  constructor
  · rintro ⟨_, hadmits, hbefore⟩
    refine ⟨hadmits, fun e he => ?_⟩
    obtain ⟨j, hj, rfl⟩ := List.mem_take_iff_getElem.mp he
    exact Bool.not_eq_true _ ▸ hbefore j (by omega)
  · rintro ⟨hadmits, hbefore⟩
    refine ⟨hi, hadmits, fun j hj => ?_⟩
    rw [hbefore _ (List.mem_take_iff_getElem.mpr ⟨j, by omega, rfl⟩)]
    exact Bool.false_ne_true

/-- **Every rule of a valid rule set is alive**: there is a path on which it is the first
rule that matches.  Lone wildcards behind another lone wildcard are the only exception. -/
theorem alive_iff {s : RuleSet} (hvalid : s.validate filter macros hasHook = .ok ()) {i : Nat}
    {p : String} (hp : s.patterns[i]? = some p) :
    (∃ path, isPath path = true ∧
        s.patterns.findIdx? (fun q => (Pattern.mk q).admits path) = some i) ↔
      ¬((Pattern.mk p).isLone = true ∧ ∃ q ∈ s.patterns.take i, (Pattern.mk q).isLone = true) := by
  simp only [findIdx?_patterns hp]
  constructor
  · rintro ⟨path, hpath, _, hbefore⟩ ⟨_, q, hq, hlone⟩
    have hne : path ≠ [] := by
      rintro rfl
      cases hpath
    have hadmits := hbefore q hq
    rw [Pattern.admits_of_isLone hlone hne] at hadmits
    cases hadmits
  · intro hlone
    obtain ⟨hwell, hlive⟩ := of_validate hvalid hp
    obtain ⟨path, hpath, hadmits, hbefore⟩ :=
      Pattern.exists_path hwell
        (List.forall_mem_map.mpr fun e he => (hlive e he).1)
        (List.forall_mem_map.mpr fun e he => (hlive e he).2)
        (by
          rintro ⟨hp, _, he, hlone'⟩
          obtain ⟨q, hq, rfl⟩ := List.mem_map.mp he
          exact hlone ⟨hp, q, hq, hlone'⟩)
    exact ⟨path, hpath, hadmits, List.forall_mem_map.mp hbefore⟩

/-- Rules with wildcards in many places: the last but one is alive, and so is the excluding
one in front of it. -/
theorem alive_iff_changes :
    let s := ofPatterns ["*:*:DATE", "INDI:*:PLAC", "!*:CHAN", "!*:CHAN:*", "INDI:*", "*"]
    s.validate "Changes" {} false = .ok () ∧ s.patterns[3]? = some "!*:CHAN:*" ∧
      ∃ path, isPath path = true ∧
        s.patterns.findIdx? (fun q => (Pattern.mk q).admits path) = some 3 := by
  have hvalid : (ofPatterns ["*:*:DATE", "INDI:*:PLAC", "!*:CHAN", "!*:CHAN:*", "INDI:*",
      "*"]).validate "Changes" {} false = .ok () := by decide
  exact ⟨hvalid, rfl, (alive_iff hvalid rfl).mpr (by decide)⟩

end RuleSet
end Gedcom
