import Gedcom.Graph
import Gedcom.RuleSet.Compiled

/-!
# Filters

A filter has a name, a rule set, macros, and the names of filters to run before
and after it.  It may look at the references between records, and it may have a
hook that converts structures; a hook may look at the reference graph, and add
records to it.
-/
namespace Gedcom

/-- How a filter converts a structure that a rule hands to it: from the pattern
of the rule, the text of the structure, the parameters and the reference graph
to the new text and the graph as it is from now on.  An empty text removes the
structure. -/
abbrev Hook := (pattern : String) → (text : Text) → Params → Graph →
  Except Fault (Text × Graph)

/-- A filter. -/
structure Filter where
  name : String
  /-- The rules, which may depend on the parameters. -/
  rules : Params → RuleSet
  macros : Macros := {}
  /-- Whether records and references are looked at before the filter runs. -/
  usesReferences : Bool := false
  /-- Whether the host is asked to look at the tags that are left. -/
  usesSchema : Bool := true
  /-- Whether the host is asked to wrap long values without blanks at the ends. -/
  wrapsTightly : Bool := false
  /-- The names of filters to run before this one. -/
  before : List String := []
  /-- The names of filters to run after this one. -/
  after : List String := []
  hook : Option Hook := none

namespace Filter

/-- Check the rules of a filter. -/
def validate (f : Filter) (ps : Params) : Except Fault Unit :=
  (f.rules ps).validate f.name f.macros f.hook.isSome

/-- Check the rules of a filter and make them ready to run. -/
def compile (f : Filter) (ps : Params) : Except Fault ReadyRules :=
  (f.rules ps).compile f.name f.macros ps f.hook.isSome

end Filter
end Gedcom
