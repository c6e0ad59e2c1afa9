import Gedcom.Regex.Node
import Gedcom.Regex.Token

/-!
# From tokens to a tree

The tokens of a regular expression are read from left to right.  A stack holds,
for every open group, the branches that are finished and the parts of the branch
in progress; closing a group makes it a part of the group around it.  Groups
whose text is kept are numbered as they open, and no two have the same name.

Expressions are refused when a repetition repeats nothing, when a group is
closed that is not open or left open at the end, and when they are nested too
deeply.
-/
namespace Gedcom.Regex

/-- A finished part of an expression, the depth of nesting in it, and whether it
stands for something that can be repeated. -/
structure Part where
  node : Node
  depth : Nat := 0
  repeatable : Bool := true

/-- A group in progress: the parts of its last branch and its other branches,
both latest first. -/
structure OpenGroup where
  parts : List Part := []
  branches : List Part := []

/-- The depth of a list of parts: one part is not nested any deeper. -/
def depthOf (ps : List Part) : Nat :=
  let deepest := ps.foldl (fun d p => max d p.depth) 0
  if 2 ≤ ps.length then deepest + 1 else deepest

namespace OpenGroup

/-- A group with one more part. -/
def add (g : OpenGroup) (p : Part) : OpenGroup := { g with parts := p :: g.parts }

/-- The last branch of a group. -/
def branch (g : OpenGroup) : Part :=
  { node := Node.sequence (g.parts.reverse.map (·.node)), depth := depthOf g.parts }

/-- A group with its last branch finished. -/
def split (g : OpenGroup) : OpenGroup := { branches := g.branch :: g.branches }

/-- The whole of a group. -/
def whole (g : OpenGroup) : Part :=
  let bs := g.branch :: g.branches
  { node := Node.choice (bs.reverse.map (·.node)), depth := depthOf bs }

/-- A group with its last part repeated. -/
def repeated? (g : OpenGroup) (min : Nat) (max : Option Nat) (greedy : Bool) : Option OpenGroup :=
  match g.parts with
  | p :: ps =>
    if p.repeatable then
      some { g with parts := ⟨Node.repetition min max greedy p.node, p.depth + 1, true⟩ :: ps }
    else none
  | [] => none

end OpenGroup

/-- An expression in progress: the innermost group, the groups around it, each
with the number and name under which the group inside it is kept, and the names
given so far. -/
structure Builder where
  inner : OpenGroup := {}
  outer : List (Option (Nat × Option String) × OpenGroup) := []
  opened : Nat := 0
  names : List String := []

namespace Builder

/-- An expression in progress after one more token. -/
def step? (b : Builder) : Token → Option Builder
  | .chars s bytes depth =>
    some { b with inner := b.inner.add { node := Node.ofSet s bytes, depth } }
  | .look a => some { b with inner := b.inner.add { node := .look a } }
  | .flags => some { b with inner := b.inner.add { node := .empty, repeatable := false } }
  | .bar => some { b with inner := b.inner.split }
  | .times min max greedy =>
    (b.inner.repeated? min max greedy).map fun g => { b with inner := g }
  | .openPlain => some { b with inner := {}, outer := (none, b.inner) :: b.outer }
  | .openGroup name =>
    if name.any b.names.contains then none
    else some
      { inner := {}
        outer := (some (b.opened + 1, name), b.inner) :: b.outer
        opened := b.opened + 1
        names := name.toList ++ b.names }
  | .close =>
    match b.outer with
    | [] => none
    | (kept, g) :: outer =>
      let whole := b.inner.whole
      let node := match kept with
        | some (index, name) => .group index name whole.node
        | none => whole.node
      some { b with inner := g.add { node, depth := whole.depth + 1 }, outer }

end Builder

/-- How deeply expressions may be nested. -/
def maxDepth : Nat := 250

/-- The tree of an expression. -/
def Node.ofTokens? (ts : List Token) : Option Node := do
  let b ← ts.foldlM Builder.step? {}
  if b.outer.isEmpty && b.inner.whole.depth ≤ maxDepth then some b.inner.whole.node else none

end Gedcom.Regex
