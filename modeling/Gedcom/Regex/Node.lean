import Gedcom.CharSet
import Gedcom.Regex.Assertion

/-!
# Regular expressions as trees

The tree of a regular expression, and the constructors that keep trees in a
normal form: sequences are flat, a repetition of what can only be empty happens
at most once, an alternation of single characters is a set, and an alternation
whose branches are sequences that all begin alike is the common beginning
followed by an alternation of the rests.
-/
namespace Gedcom.Regex

/-- The tree of a regular expression. -/
inductive Node
  /-- The empty text. -/
  | empty
  /-- One character of a set, or one byte, all of which are ASCII characters. -/
  | chars (set : CharSet) (bytes : Bool)
  /-- The empty text at a place where an assertion holds. -/
  | look (a : Assertion)
  /-- One after the other. -/
  | seq (first second : Node)
  /-- Either, the first by preference. -/
  | alt (first second : Node)
  /-- At least `min` and at most `max` times, greedily as often as possible and
  otherwise as seldom as possible. -/
  | times (min : Nat) (max : Option Nat) (greedy : Bool) (body : Node)
  /-- A group whose text is kept under a number and perhaps a name. -/
  | group (index : Nat) (name : Option String) (body : Node)
deriving DecidableEq, Repr

namespace Node

/-- One character of a set.  It makes no difference for a set of one character or
none whether it was written as a set of bytes. -/
def ofSet (s : CharSet) (bytes : Bool) : Node :=
  chars s (bytes && s.single?.isNone && !s.ranges.isEmpty)

/-- The nodes of a sequence. -/
def items : Node → List Node
  | seq a b => a.items ++ b.items
  | empty => []
  | n => [n]

/-- The branches of an alternation. -/
def branches : Node → List Node
  | alt a b => a.branches ++ b.branches
  | n => [n]

/-- The sequence of some nodes that are no sequences themselves. -/
def ofItems : List Node → Node
  | [] => empty
  | [n] => n
  | n :: m :: ns => seq n (ofItems (m :: ns))

/-- The alternation of some nodes that are no alternations themselves. -/
def ofBranches : List Node → Node
  | [] => chars CharSet.empty false
  | [n] => n
  | n :: m :: ns => alt n (ofBranches (m :: ns))

/-- Whether a node is one particular character. -/
def isLiteral : Node → Bool
  | chars s _ => s.single?.isSome
  | _ => false

/-- Whether a node is one character of several, or none at all. -/
def isClass : Node → Bool
  | chars s _ => s.single?.isNone
  | _ => false

/-- Whether the first two of some nodes are parts of one literal text. -/
def joined : List Node → Bool
  | n :: m :: _ => n.isLiteral && m.isLiteral
  | _ => false

/-- The number of parts of a sequence when literal characters in a row count as
one part. -/
def partCount : List Node → Nat
  | [] => 0
  | n :: ns => partCount ns + if joined (n :: ns) then 0 else 1

/-- What two lists have in common at their beginning. -/
def commonStart : List Node → List Node → List Node
  | n :: ns, m :: ms => if n = m then n :: commonStart ns ms else []
  | _, _ => []

/-- The set of characters of some one-character nodes. -/
def charsOf (ns : List Node) : CharSet :=
  ns.foldr (fun n s => match n with | chars t _ => t.union s | _ => s) CharSet.empty

/-- One node after the other. -/
def sequence (ns : List Node) : Node := ofItems (ns.flatMap items)

/-- An alternation, as a set of characters if all branches are single characters
or all are sets. -/
def alternation (ns : List Node) : Node :=
  let bs := ns.flatMap branches
  if 2 ≤ bs.length && (bs.all isLiteral || bs.all isClass) then ofSet (charsOf bs) false
  else ofBranches bs

/-- What the branches of an alternation have in common at their beginning, if
all of them are sequences. -/
def sharedStart (bs : List Node) : List Node :=
  match bs.map items with
  | [] => []
  | s :: ss =>
    if (s :: ss).all fun ns => 2 ≤ partCount ns then ss.foldl commonStart s else []

/-- An alternation with what its branches have in common taken to the front. -/
def choice (ns : List Node) : Node :=
  match ns with
  | [n] => n
  | _ =>
    let bs := ns.flatMap branches
    let shared := sharedStart bs
    if shared.isEmpty then alternation bs
    else sequence (shared ++ [alternation (bs.map fun b => ofItems (b.items.drop shared.length))])

/-- Whether a node matches nothing but the empty text. -/
def onlyEmpty : Node → Bool
  | empty | look _ => true
  | chars _ _ => false
  | seq a b | alt a b => a.onlyEmpty && b.onlyEmpty
  | times _ _ _ a | group _ _ a => a.onlyEmpty

/-- A repetition. -/
def repetition (min : Nat) (max : Option Nat) (greedy : Bool) (body : Node) : Node :=
  let least := if body.onlyEmpty then Nat.min min 1 else min
  let most := if body.onlyEmpty then some ((max.getD 1).min 1) else max
  if least = 0 && most = some 0 then empty
  else if least = 1 && most = some 1 then body
  else times least most greedy body

/-- The length of the shortest texts that a node matches, unless the node has a
part that matches nothing at all. -/
def minLength? : Node → Option Nat
  | empty | look _ => some 0
  | chars s _ => if s.ranges.isEmpty then none else some 1
  | seq a b =>
    match a.minLength?, b.minLength? with
    | some m, some n => some (m + n)
    | _, _ => none
  | alt a b =>
    match a.minLength?, b.minLength? with
    | some m, some n => some (Nat.min m n)
    | _, _ => none
  | times min _ _ a => a.minLength?.map (min * ·)
  | group _ _ a => a.minLength?

/-- Whether a node has to be expected to match the empty text somewhere. -/
def nullable (n : Node) : Bool := n.minLength?.all (· == 0)

/-- The groups of a node with their names, in the order in which they open. -/
def groups : Node → List (Nat × Option String)
  | empty | chars _ _ | look _ => []
  | seq a b | alt a b => a.groups ++ b.groups
  | times _ _ _ a => a.groups
  | group i name a => (i, name) :: a.groups

end Node
end Gedcom.Regex
