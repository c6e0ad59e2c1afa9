import Gedcom.Registry

/-!
# Inclusion

A filter names filters to run before and after itself, and these may name
further ones.  A request for filters is answered by the list of the filters to
apply, in order: what a filter includes before it, the filter, and what it
includes after it, each with all of its own inclusions and as often as it is
named.

Inclusions may stand at most `Registry.maxDepth` deep in each other, so that the
answer is always reached.  Whoever goes deeper is told whether the filter is
already open, which is the mark of filters that include each other in a circle.
-/
namespace Gedcom.Registry

/-- How deep inclusions may stand in each other. -/
def maxDepth : Nat := 10

/-- The filters to apply for a filter that is included by the filters `opened`,
outermost last, when `room` more filters may be open. -/
def unfoldWithin (r : Registry) : (room : Nat) → (opened : List String) → Filter →
    Except Fault (List Filter)
  | 0, opened, f =>
    if opened.contains f.name then .error (.includeCycle f.name maxDepth)
    else .error (.includeDepth f.name maxDepth)
  | room + 1, opened, f => do
    let included := fun name => do r.unfoldWithin room (f.name :: opened) (← r.find name)
    -- of two inclusions that fail, the one that would run first is told
    let before ← f.before.mapM included
    let after ← f.after.mapM included
    return before.flatten ++ f :: after.flatten

/-- The filters to apply for a filter. -/
def unfold (r : Registry) (f : Filter) : Except Fault (List Filter) :=
  r.unfoldWithin maxDepth [] f

/-- The filters to apply for some filters, one after the other. -/
def unfoldAll (r : Registry) (fs : List Filter) : Except Fault (List Filter) :=
  List.flatten <$> fs.mapM r.unfold

/-- The filters to apply for some names.  All of them have to be known before
any is looked into. -/
def resolve (r : Registry) (names : List String) : Except Fault (List Filter) := do
  r.unfoldAll (← names.mapM r.find)

end Gedcom.Registry
