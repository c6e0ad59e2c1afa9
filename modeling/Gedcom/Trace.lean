import Gedcom.Table

/-!
# Traces

The trace of an application tells how many records went in and came out, and to
which rule each path of tags led.  The trace of a chain has those of its filters
in order, and tells what the filters ask of the host.
-/
namespace Gedcom

/-- What one application of a filter did. -/
structure FilterTrace where
  filter : String
  /-- The number of records that went in. -/
  inputs : Nat := 0
  /-- The number of records that came out. -/
  outputs : Nat := 0
  /-- The pattern that decided on a path, by path; none if what has this path was
  dropped. -/
  matched : Table (Option String) := {}
deriving DecidableEq, Repr

namespace FilterTrace

/-- The paths of what was kept, in order. -/
def kept (t : FilterTrace) : List String :=
  (t.matched.entries.filter (·.2.isSome)).map (·.1)

/-- The paths of what was dropped, in order. -/
def dropped (t : FilterTrace) : List String :=
  (t.matched.entries.filter (·.2.isNone)).map (·.1)

end FilterTrace

/-- What a chain of filters did. -/
structure ChainTrace where
  filters : List FilterTrace := []
  /-- Whether some filter asks the host to look at the tags that are left. -/
  usesSchema : Bool := false
  /-- Whether some filter asks the host to wrap long values without blanks at the
  ends. -/
  wrapsTightly : Bool := false
deriving DecidableEq, Repr

namespace ChainTrace

/-- The names of the filters, in order. -/
def names (t : ChainTrace) : List String := t.filters.map (·.filter)

/-- The paths that the last filter kept. -/
def outputTags (t : ChainTrace) : List String :=
  match t.filters.getLast? with
  | some last => last.kept
  | none => []

end ChainTrace
end Gedcom
