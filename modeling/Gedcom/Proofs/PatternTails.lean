import Gedcom.Pattern
import Mathlib.Data.List.Dedup

/-!
# What is left of patterns along a path

Patterns can be followed along a path tag by tag: behind every tag stands what is left of
those that still can match (`advance`).  Which pattern decides on a path is settled at its
last tag (`deciderAt`), and whatever stands behind a tag is decided by what is left there
(`decider_cons`).

Of all tags only those matter that come next in some pattern, and any others are alike.  So
what holds of the deciding patterns on all paths, or on all pairs of a path and one below it,
can be checked by going through the tags of the patterns (`allBelow`, `allPairs`).
-/
namespace Gedcom

/-- What is left of a pattern behind some tags of a path. -/
structure PatternTail where
  pattern : Pattern
  tags : List String
deriving DecidableEq, Repr

namespace PatternTail

/-- Whether a pattern's tag agrees with a tag; `none` is one that stands in no pattern. -/
def agrees (tag : Option String) (p : String) : Bool := p == wildcard || some p == tag

/-- What is left of a pattern behind one more tag.  A wildcard at the end stays. -/
def behind (tag : Option String) (r : PatternTail) : Option PatternTail :=
  match r.tags with
  | [] => none
  | [p] => if p == wildcard then some r else none
  | p :: q :: ps => if agrees tag p then some { r with tags := q :: ps } else none

/-- Whether what is left of a pattern matches a path that ends with the next tag. -/
def endsAt (tag : Option String) (r : PatternTail) : Bool :=
  match r.tags with
  | [p] => agrees tag p
  | _ => false

theorem endsAt_eq {tag : String} (htag : tag ≠ wildcard) (r : PatternTail) :
    r.endsAt (some tag) = matchTags r.tags [tag] := by
  unfold endsAt
  match r.tags with
  | [] => rfl
  | [p] =>
    show agrees (some tag) p = (p == wildcard || p == tag)
    rw [agrees, Option.some_beq_some]
  | p :: q :: ps =>
    show false = (tag == wildcard)
    exact (beq_false_of_ne htag).symm

/-- What is left behind a tag matches what follows it, and a pattern of which nothing is left
matches nothing. -/
theorem any_behind (tag next : String) (path : List String) (r : PatternTail) :
    ((r.behind (some tag)).any fun r => matchTags r.tags (next :: path)) =
      matchTags r.tags (tag :: next :: path) := by
  unfold behind
  match hr : r.tags with
  | [] => rfl
  | [p] =>
    show (if p == wildcard then some r else none).any _ = (p == wildcard)
    cases hp : p == wildcard with
    | false => rfl
    | true =>
      rw [if_pos rfl, Option.any_some, hr]
      cases path <;> simp [matchTags, hp]
  | p :: q :: ps =>
    show (if agrees (some tag) p then some { r with tags := q :: ps } else none).any _ =
      ((p == wildcard || p == tag) && matchTags (q :: ps) (next :: path))
    rw [agrees, Option.some_beq_some]
    cases p == wildcard || p == tag <;> rfl

theorem pattern_of_behind {tag : Option String} {r r' : PatternTail} (h : r.behind tag = some r') :
    r'.pattern = r.pattern := by
  unfold behind at h
  split at h
  · cases h
  · split at h
    · rw [← Option.some.inj h]
    · cases h
  · split at h
    · rw [← Option.some.inj h]
    · cases h

/-- Tags that do not come next are alike. -/
theorem agrees_eq_none {tag p : String} (h : p ≠ tag) : agrees (some tag) p = agrees none p := by
  rw [agrees, agrees, Option.some_beq_some, beq_false_of_ne h]
  rfl

section Other
variable {tag : String} {r : PatternTail} (h : r.tags.head? ≠ some tag)
include h

theorem behind_eq_none : r.behind (some tag) = r.behind none := by
  unfold behind
  split
  · rfl
  · rfl
  · rename_i p q ps hr
    rw [hr, List.head?_cons] at h
    rw [agrees_eq_none fun hp => h (congrArg some hp)]

theorem endsAt_eq_none : r.endsAt (some tag) = r.endsAt none := by
  unfold endsAt
  split
  · rename_i p hr
    rw [hr, List.head?_cons] at h
    exact agrees_eq_none fun hp => h (congrArg some hp)
  · rfl

end Other

end PatternTail

section Decider
open PatternTail

/-- What is left of patterns at the beginning of a path. -/
def tailsOf (ps : List Pattern) : List PatternTail := ps.map fun p => ⟨p, p.tags⟩

/-- The first of some patterns of which what is left matches a path. -/
def decider (rs : List PatternTail) (path : List String) : Option Pattern :=
  (rs.find? fun r => matchTags r.tags path).map (·.pattern)

/-- What is left of patterns behind one more tag. -/
def advance (tag : Option String) (rs : List PatternTail) : List PatternTail :=
  rs.filterMap (behind tag)

/-- The first of some patterns of which what is left matches a path that ends with the next
tag. -/
def deciderAt (tag : Option String) (rs : List PatternTail) : Option Pattern :=
  (rs.find? (endsAt tag)).map (·.pattern)

variable {ps : List Pattern} {rs : List PatternTail} {path : List String}

theorem decider_tailsOf (ps : List Pattern) (path : List String) :
    decider (tailsOf ps) path = ps.find? fun p => p.admits path := by
  rw [decider, tailsOf, List.find?_map, Option.map_map]
  exact Option.map_id'

theorem decider_singleton {tag : String} (htag : tag ≠ wildcard) (rs : List PatternTail) :
    decider rs [tag] = deciderAt (some tag) rs := by
  have hends : endsAt (some tag) = fun r => matchTags r.tags [tag] := funext (endsAt_eq htag)
  rw [decider, deciderAt, hends]

/-- What is left behind a tag decides on what follows it. -/
theorem decider_cons (tag next : String) (path : List String) (rs : List PatternTail) :
    decider rs (tag :: next :: path) = decider (advance (some tag) rs) (next :: path) := by
  rw [decider, decider, advance, List.find?_filterMap]
  simp only [any_behind]
  cases hfind : rs.find? fun r => matchTags r.tags (tag :: next :: path) with
  | none => rfl
  | some r =>
    have hmatch := List.find?_some hfind
    rw [← any_behind, Option.any_eq_true] at hmatch
    obtain ⟨r', hbehind, _⟩ := hmatch
    rw [Option.bind_some, hbehind, Option.map_some, Option.map_some, pattern_of_behind hbehind]

/-! ## Tags that matter -/

/-- The tags that come next in what is left of some patterns, and one that does not. -/
def choices (rs : List PatternTail) : List (Option String) :=
  none :: (rs.filterMap (·.tags.head?)).dedup.map some

/-- Every tag is one of those that come next, or like all that do not. -/
theorem exists_choice (tag : String) (rs : List PatternTail) :
    ∃ choice ∈ choices rs, advance (some tag) rs = advance choice rs ∧
      deciderAt (some tag) rs = deciderAt choice rs := by
  by_cases htag : tag ∈ rs.filterMap (·.tags.head?)
  · refine ⟨some tag, ?_, rfl, rfl⟩
    exact List.mem_cons_of_mem _ (List.mem_map_of_mem (List.mem_dedup.mpr htag))
  · have hother : ∀ r ∈ rs, r.tags.head? ≠ some tag := fun r hr h =>
      htag (List.mem_filterMap.mpr ⟨r, hr, h⟩)
    refine ⟨none, List.mem_cons_self, ?_, ?_⟩
    · exact List.filterMap_congr fun r hr => behind_eq_none (hother r hr)
    · have hends : rs.find? (endsAt (some tag)) = rs.find? (endsAt none) := by
        clear htag
        induction rs with
        | nil => rfl
        | cons r rs ih =>
          rw [List.find?_cons, List.find?_cons, endsAt_eq_none (hother r List.mem_cons_self),
            ih fun s hs => hother s (List.mem_cons_of_mem _ hs)]
      rw [deciderAt, deciderAt, hends]

/-- Whether open ends are all that is left of some patterns. -/
def allOpen (rs : List PatternTail) : Bool := rs.all fun r => r.tags == [wildcard]

/-- The first of several open ends decides on everything. -/
theorem decider_of_allOpen (h : allOpen rs = true) (hpath : path ≠ []) :
    decider rs path = rs.head?.map (·.pattern) := by
  cases rs with
  | nil => rfl
  | cons r rs =>
    have hr : r.tags = [wildcard] := by
      rw [allOpen, List.all_cons, Bool.and_eq_true, beq_iff_eq] at h
      exact h.1
    have hmatch : matchTags r.tags path = true := by rw [hr, matchTags_wildcard hpath]
    rw [decider, List.find?_cons, hmatch]
    rfl

/-! ## Checks on all paths -/

/-- Whether a test holds of the patterns that decide on all paths.  `steps` is how many tags
are looked at, until only open ends are left. -/
def allBelow (ok : Option Pattern → Bool) : (steps : Nat) → List PatternTail → Bool
  | 0, rs => allOpen rs && ok (rs.head?.map (·.pattern))
  | n + 1, rs =>
    (allOpen rs && ok (rs.head?.map (·.pattern))) ||
      (choices rs).all fun tag => ok (deciderAt tag rs) && allBelow ok n (advance tag rs)

/-- Whether a test holds of the patterns that decide on a path and on one below it, for all
of these. -/
def allPairs (ok : Option Pattern → Option Pattern → Bool) :
    (steps : Nat) → List PatternTail → Bool
  | 0, rs => allOpen rs && ok (rs.head?.map (·.pattern)) (rs.head?.map (·.pattern))
  | n + 1, rs =>
    (allOpen rs && ok (rs.head?.map (·.pattern)) (rs.head?.map (·.pattern))) ||
      (choices rs).all fun tag =>
        allBelow (ok (deciderAt tag rs)) n (advance tag rs) && allPairs ok n (advance tag rs)

theorem of_allOpen {ok : Option Pattern → Bool}
    (h : (allOpen rs && ok (rs.head?.map (·.pattern))) = true) (hpath : path ≠ []) :
    ok (decider rs path) = true := by
  obtain ⟨hopen, hok⟩ := Bool.and_eq_true_iff.mp h
  rwa [decider_of_allOpen hopen hpath]

theorem of_allOpen_pair {ok : Option Pattern → Option Pattern → Bool}
    (h : (allOpen rs && ok (rs.head?.map (·.pattern)) (rs.head?.map (·.pattern))) = true)
    {above : List String} (habove : above ≠ []) (below : List String) :
    ok (decider rs above) (decider rs (above ++ below)) = true := by
  obtain ⟨hopen, hok⟩ := Bool.and_eq_true_iff.mp h
  rwa [decider_of_allOpen hopen habove,
    decider_of_allOpen hopen (List.append_ne_nil_of_left_ne_nil habove below)]

/-- What is checked holds of all paths. -/
theorem of_allBelow {ok : Option Pattern → Bool} {n : Nat} (h : allBelow ok n rs = true)
    (hpath : path ≠ []) (hwildcard : wildcard ∉ path) : ok (decider rs path) = true := by
  induction n generalizing rs path with
  | zero => exact of_allOpen h hpath
  | succ n ih =>
    rcases Bool.or_eq_true_iff.mp h with h | h
    · exact of_allOpen h hpath
    · obtain ⟨tag, path, rfl⟩ := List.exists_cons_of_ne_nil hpath
      rw [List.mem_cons, not_or] at hwildcard
      obtain ⟨choice, hchoice, hadvance, hdecider⟩ := exists_choice tag rs
      obtain ⟨hok, hbelow⟩ := Bool.and_eq_true_iff.mp (List.all_eq_true.mp h choice hchoice)
      cases path with
      | nil => rwa [decider_singleton (Ne.symm hwildcard.1), hdecider]
      | cons next path =>
        rw [decider_cons, hadvance]
        exact ih hbelow (by simp) hwildcard.2

/-- **What is checked holds of all pairs** of a path and one below it. -/
theorem of_allPairs {ok : Option Pattern → Option Pattern → Bool} {n : Nat}
    (h : allPairs ok n rs = true) {above below : List String} (habove : above ≠ [])
    (hbelow : below ≠ []) (hwildcard : wildcard ∉ above ++ below) :
    ok (decider rs above) (decider rs (above ++ below)) = true := by
  induction n generalizing rs above with
  | zero => exact of_allOpen_pair h habove below
  | succ n ih =>
    rcases Bool.or_eq_true_iff.mp h with h | h
    · exact of_allOpen_pair h habove below
    · obtain ⟨tag, above, rfl⟩ := List.exists_cons_of_ne_nil habove
      rw [List.cons_append, List.mem_cons, not_or] at hwildcard
      obtain ⟨choice, hchoice, hadvance, hdecider⟩ := exists_choice tag rs
      obtain ⟨hhere, hpairs⟩ := Bool.and_eq_true_iff.mp (List.all_eq_true.mp h choice hchoice)
      cases above with
      | nil =>
        obtain ⟨next, below, rfl⟩ := List.exists_cons_of_ne_nil hbelow
        have hrest := of_allBelow hhere hbelow (List.nil_append (next :: below) ▸ hwildcard.2)
        rwa [decider_singleton (Ne.symm hwildcard.1), hdecider, List.cons_append,
          List.nil_append, decider_cons, hadvance]
      | cons next above =>
        rw [decider_cons, List.cons_append, List.cons_append, decider_cons, hadvance]
        exact ih hpairs (by simp) hwildcard.2

end Decider

/-- A path is dropped if no pattern matches it, or if an excluding one decides. -/
theorem firstMatch_eq_none_iff (ps : List Pattern) (path : List String) :
    firstMatch ps path = none ↔ (decider (tailsOf ps) path).all Pattern.excludes = true := by
  rw [decider_tailsOf]
  induction ps with
  | nil => exact iff_of_true rfl rfl
  | cons p ps ih =>
    rw [firstMatch, List.find?_cons]
    cases p.admits path with
    | true => cases hp : p.excludes <;> simp [hp]
    | false => simpa using ih

end Gedcom
