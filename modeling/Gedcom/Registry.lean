import Gedcom.Filter.Catalog
import Gedcom.RuleFile
import Gedcom.Text.Quoted

/-!
# Registries

A registry finds filters by name.  It can start from the filters of the catalog;
filters and rule files are added one after the other, and a filter takes the
place of an earlier one of the same name.
-/
namespace Gedcom

/-- Filters by name. -/
structure Registry where
  filters : Table Filter := {}

namespace Registry

/-- The filter that a registry has under a name. -/
def find? (r : Registry) (name : String) : Option Filter := r.filters.find? name

/-- The filter that a registry has under a name, which is a fault if it has
none. -/
def find (r : Registry) (name : String) : Except Fault Filter :=
  match r.find? name with
  | some f => .ok f
  | none => .error (.unknownFilter name)

/-- A registry with one more filter, under its own name. -/
def register (r : Registry) (f : Filter) : Registry := ⟨r.filters.insert f.name f⟩

/-- A registry with some more filters, the last of a name counting. -/
def registerAll (r : Registry) (fs : List Filter) : Registry := fs.foldl register r

/-- The registry of the filters of the catalog. -/
def ofCatalog : Registry := registerAll {} Catalog.filters

/-- A registry with the filter of a rule file, and the name of that filter. -/
def load (r : Registry) (text : Text) : Except Fault (String × Registry) :=
  (fun f => (f.name, r.register f.toFilter)) <$> RuleFile.ofText text

/-- Whether a registry has a filter of a name. -/
def contains (r : Registry) (name : String) : Bool := r.filters.contains name

/-- The names of the filters, in order. -/
def names (r : Registry) : List String := r.filters.names

/-- The number of filters. -/
def size (r : Registry) : Nat := r.filters.size

/-- Whether there are no filters. -/
def isEmpty (r : Registry) : Bool := r.filters.isEmpty

/-- The names of a registry as a list of quoted texts in brackets. -/
def listing (r : Registry) : Text :=
  '[' :: [',', ' '].intercalate (r.names.map fun name => Text.quoted name.toList) ++ [']']

/-- After a filter is registered its name finds it, and other names find what
they found before. -/
theorem find?_register (r : Registry) (f : Filter) (name : String) :
    (r.register f).find? name = if name = f.name then some f else r.find? name :=
  Table.find?_insert r.filters f.name name f

end Registry
end Gedcom
