import Gedcom.Table
import Gedcom.Text.Blank
import Gedcom.Text.Upper

/-!
# Parameters

A host hands parameters to its filters: values by name, such as the name of a
family tree.  The text of a replacement refers to the parameter `tree` as
`%TREE%`.  A value goes in as it is; its dollar signs are doubled, so that they
refer to no group.  Names are substituted one after the other, in their order.
-/
namespace Gedcom

/-- Parameters: values by name. -/
structure Params where
  values : Table String := {}
deriving DecidableEq, Repr

/-- The ways in which an assignment `name=value` can be refused. -/
inductive Misassignment
  /-- There is no equals sign. -/
  | noEquals (text : String)
  /-- There is no name. -/
  | noName (text : String)
deriving DecidableEq, Repr

/-- The wording of a refused assignment. -/
def Misassignment.message : Misassignment → String
  | noEquals text => "expected key=value, got '" ++ text ++ "'"
  | noName text => "empty parameter name in '" ++ text ++ "'"

namespace Params

/-- Give a value to a parameter. -/
def insert (ps : Params) (name value : String) : Params := ⟨ps.values.insert name value⟩

/-- The value of a parameter. -/
def find? (ps : Params) (name : String) : Option String := ps.values.find? name

/-- The parameters of some pairs; the last value of a name counts. -/
def ofList (pairs : List (String × String)) : Params := ⟨Table.ofList pairs⟩

/-- The name of the family tree. -/
def tree? (ps : Params) : Option String := ps.find? "tree"

/-- The address at which the host shows its trees. -/
def baseUrl? (ps : Params) : Option String := ps.find? "base_url"

/-- The name and value of an assignment `name=value`.  The name is trimmed, the
value is not, and may hold further equals signs. -/
def assignment (text : String) : Except Misassignment (String × String) :=
  match Text.cut? (· == '=') text.toList with
  | none => .error (.noEquals text)
  | some (name, value) =>
    if (Text.trim name).isEmpty then .error (.noName text)
    else .ok (String.ofList (Text.trim name), String.ofList value)

/-- How a replacement refers to a parameter. -/
def placeholder (name : String) : Text := '%' :: Text.upper name.toList ++ ['%']

/-- A value as it stands in a replacement, with its dollar signs doubled. -/
def literalValue (value : String) : Text :=
  value.toList.flatMap fun c => if c = '$' then ['$', '$'] else [c]

/-- A replacement with the values of parameters put in.  References to unknown
parameters stay. -/
def interpolate (ps : Params) (t : Text) : Text :=
  ps.values.entries.foldl
    (fun t (name, value) => Text.replace (placeholder name) (literalValue value) t) t

end Params
end Gedcom
