import Gedcom.Pattern

/-!
# Dominance

A rule is of no use if an earlier one matches whatever it matches.  An earlier
pattern dominates a pattern if it matches the pattern itself, read as a path;
a shorter pattern that ends in a wildcard is first filled up with wildcards to
the length of the earlier one.  The pattern that is just a wildcard is never
dominated.
-/
namespace Gedcom.Pattern

/-- The tags of a pattern, filled up with wildcards to a length if the pattern
ends in a wildcard. -/
def filledTo (p : Pattern) (n : Nat) : List String :=
  if p.body.getLast? = some '*' then p.tags ++ List.replicate (n - p.tags.length) wildcard
  else p.tags

/-- Whether an earlier pattern dominates a pattern. -/
def isDominatedBy (p earlier : Pattern) : Bool :=
  !(p.body == ['*'] && earlier.tags.length ≤ 1) &&
    matchTags earlier.tags (p.filledTo earlier.tags.length)

/-- The first of some earlier patterns that dominates a pattern. -/
def dominatedBy? (p : Pattern) (earlier : List Pattern) : Option Pattern :=
  earlier.find? p.isDominatedBy

end Gedcom.Pattern
