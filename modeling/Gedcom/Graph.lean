import Gedcom.Outline
import Gedcom.Text.Blank

/-!
# Reference graphs

Every record of a transmission is a node of its reference graph, under its
identifier, or under its tag if it has none.  A line `n TAG @xref@` of a record
links it to the record that it names; a record that is named before it is
defined, or never defined, is a node of unknown type.

Links form one relation, in ascending order and without repetition: who refers
to whom is read off it from either end.
-/
namespace Gedcom

/-- What is known of a record. -/
structure Graph.Node where
  /-- The identifier of the record, or its tag. -/
  xref : String
  /-- The tag of its first definition, if it is defined. -/
  type : Option String := none
  /-- Whether a definition of the record holds nothing. -/
  empty : Bool := false
  /-- Whether it is an individual of whom nothing but sex and families is told. -/
  minimal : Bool := false
deriving DecidableEq, Repr

/-- Records in the order in which they were first met, and the links between
their positions. -/
structure Graph where
  nodes : List Graph.Node := []
  links : List (Nat × Nat) := []
deriving DecidableEq, Repr

namespace Graph

/-- Put a link into ascending links, unless it is there. -/
def insertLink (l : Nat × Nat) : List (Nat × Nat) → List (Nat × Nat)
  | [] => [l]
  | m :: ms =>
    if l = m then m :: ms
    else if l.1 < m.1 || l.1 == m.1 && l.2 < m.2 then l :: m :: ms
    else m :: insertLink l ms

/-- The position of a record. -/
def position? (g : Graph) (xref : String) : Option Nat :=
  g.nodes.findIdx? fun n => n.xref == xref

/-- What is known of the record with an identifier. -/
def find? (g : Graph) (xref : String) : Option Node :=
  g.nodes.find? fun n => n.xref == xref

/-- The positions that a position links to, in ascending order. -/
def targets (g : Graph) (i : Nat) : List Nat :=
  (g.links.filter fun l => l.1 == i).map (·.2)

/-- The positions that link to a position, in ascending order. -/
def sources (g : Graph) (i : Nat) : List Nat :=
  (g.links.filter fun l => l.2 == i).map (·.1)

/-- The identifiers at some positions. -/
def xrefsAt (g : Graph) (is : List Nat) : List String :=
  is.filterMap fun i => (g.nodes[i]?).map (·.xref)

/-- The records that a record refers to, in the order of the records. -/
def referencesOf (g : Graph) (xref : String) : List String :=
  match g.position? xref with
  | some i => g.xrefsAt (g.targets i)
  | none => []

/-- The records that refer to a record, in the order of the records. -/
def referrersOf (g : Graph) (xref : String) : List String :=
  match g.position? xref with
  | some i => g.xrefsAt (g.sources i)
  | none => []

/-- Whether a record is defined. -/
def defines (g : Graph) (xref : String) : Bool := (g.find? xref).any (·.type.isSome)

/-- Whether a record is known to hold nothing. -/
def isEmptyRecord (g : Graph) (xref : String) : Bool := (g.find? xref).any (·.empty)

/-- Whether a record is an individual of whom nothing but sex and families is
told. -/
def isMinimalIndividual (g : Graph) (xref : String) : Bool := (g.find? xref).any (·.minimal)

/-- Whether a link leads to a position. -/
def hasSource (g : Graph) (i : Nat) : Bool := g.links.any fun l => l.2 == i

/-- Whether a link leads away from a position. -/
def hasTarget (g : Graph) (i : Nat) : Bool := g.links.any fun l => l.1 == i

/-- Whether some record refers to a record. -/
def isReferenced (g : Graph) (xref : String) : Bool := (g.position? xref).any g.hasSource

/-! ### Building -/

/-- The position of a record, which becomes a node of unknown type if it was
not met before. -/
def locate (g : Graph) (xref : String) : Nat × Graph :=
  match g.position? xref with
  | some i => (i, g)
  | none => (g.nodes.length, { g with nodes := g.nodes ++ [{ xref }] })

/-- Change what is known of the record at a position. -/
def update (g : Graph) (i : Nat) (f : Node → Node) : Graph :=
  { g with nodes := g.nodes.modify i f }

/-- Link the record at a position to the record with an identifier. -/
def refer (g : Graph) (i : Nat) (xref : String) : Graph :=
  let (j, g) := g.locate xref
  { g with links := insertLink (i, j) g.links }

/-- The tags that an individual of whom nothing else is told may carry. -/
def minimalTags : List String := ["SEX", "FAMC", "FAMS"]

/-- Whether the first line of a record and the lines below it hold nothing.
Header and trailer never count as empty. -/
def holdsNothing (head : Line) (below : Text) : Bool :=
  head.value.isEmpty && below.all Text.isBlank && !(head.tag == "HEAD" || head.tag == "TRLR")

/-- Whether every line of level 1 that can be read has one of the tags of a
minimal individual. -/
def holdsMinimum (below : List Text) : Bool :=
  (below.filter (hasLevel 1)).all fun l =>
    match Line.ofLine? l with
    | some line => minimalTags.contains line.tag
    | none => true

/-- A graph with one more record.  The type of its first definition counts; a
record that was empty or minimal in one definition stays so.  A text that does
not begin with a line of level 0 changes nothing. -/
def addRecord (g : Graph) (t : Text) : Graph :=
  match Line.ofTextAt 0 t with
  | .error _ => g
  | .ok head =>
    let (i, g) := g.locate (head.xref.getD head.tag)
    let ls := Text.lines t
    let g := g.update i fun n =>
      { n with
        type := some (n.type.getD head.tag)
        empty := n.empty || holdsNothing head (Text.afterFirstLine t)
        minimal := n.minimal || head.tag == "INDI" && holdsMinimum ls.tail }
    (ls.filterMap Line.reference?).foldl (fun g xref => g.refer i xref) g

/-- The reference graph of some texts, each of which may hold several records. -/
def ofTexts (ts : List Text) : Graph := (ts.flatMap recordBlocks).foldl addRecord {}

end Graph
end Gedcom
