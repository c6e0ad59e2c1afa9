import Gedcom.Regex.Node
import Gedcom.Regex.Utf8
import Std.Data.HashMap

/-!
# The room of an expression

An expression is only of use if the automata that recognise it stay small.  There
are two of them, both over bytes: one reads forward and notes where groups begin
and end, the other one reads backward and notes nothing.  Each may take as much
room as `Node.maxRoom` says.

What an automaton takes depends on how it is laid out.  Every state takes room,
every range of bytes that a state of several arcs goes on with, and every branch
of a fork.  A counted repetition is laid out as often as it is counted.  The
characters of a set are written in several bytes: forward, all states with the
same ways to go on are one state; backward, the states for the first bytes of a
character are shared as far as a small cache remembers them.
-/
namespace Gedcom.Regex

/-- The ways in which an automaton reads. -/
inductive Direction
  | forward
  | backward
deriving DecidableEq, Repr

/-- What has been laid out: the number of states, and the room of the arcs and
branches that they hold. -/
structure Layout where
  states : Nat := 0
  held : Nat := 0
deriving DecidableEq, Repr

namespace Layout

/-- The room of a state. -/
def stateRoom : Nat := 32

/-- The room of an arc in a state of several arcs. -/
def arcRoom : Nat := 8

/-- The room of a branch of a fork. -/
def branchRoom : Nat := 4

/-- The room that an automaton may take. -/
def maxRoom : Nat := 10485760

/-- The room that is taken. -/
def room (l : Layout) : Nat := stateRoom * l.states + l.held

/-- Whether more is taken than may be. -/
def isFull (l : Layout) : Bool := maxRoom < l.room

/-- More states, arcs and branches. -/
def add (l : Layout) (states arcs branches : Nat) : Layout :=
  ⟨l.states + states, l.held + arcRoom * arcs + branchRoom * branches⟩

/-- More states that hold no arcs and branches. -/
def addStates (l : Layout) (states : Nat) : Layout := l.add states 0 0

/-- What `n` copies of something make of a layout, as far as there is room. -/
def repeated (f : Layout → Layout) : (n : Nat) → Layout → Layout
  | 0, l => l
  | n + 1, l => if l.isFull then l else repeated f n (f l)

/-! ### Sets of characters -/

/-- Neighbours with the same first element, without it. -/
def tailsByHead {α : Type} [BEq α] (ss : List (List α)) : List (List (List α)) :=
  (ss.splitBy fun s t => s.head? == t.head?).map fun g => g.map List.tail

/-- The ways to go on at the states on the way through sequences of at most
`depth` elements. -/
def waysOn : (depth : Nat) → List (List ByteRange) → List (List (List ByteRange))
  | 0, _ => []
  | depth + 1, ss =>
    if ss.all List.isEmpty then [] else ss :: (tailsByHead ss).flatMap (waysOn depth)

/-- A layout with a set of characters that is read forward. -/
def forwardSet (s : CharSet) (l : Layout) : Layout :=
  let states := (waysOn 4 s.byteSequences).eraseDups
  l.add (1 + states.length) (states.foldl (fun n ss => n + (tailsByHead ss).length) 0) 0

/-- The step from a byte range to a state. -/
structure Step where
  target : Nat
  range : ByteRange
deriving DecidableEq, Repr

/-- A cache with a thousand slots remembers which states are there.  A step has a
slot of its own, from which it drives out the step that was there before. -/
structure Cache where
  slots : Std.HashMap Nat (Step × Nat) := {}

namespace Cache

/-- The slot of a step: its FNV-1a hash tells. -/
def slot (s : Step) : Nat :=
  let hash := [s.target, s.range.1, s.range.2].foldl
    (fun h n => (h ^^^ UInt64.ofNat n) * 1099511628211) (14695981039346656037 : UInt64)
  hash.toNat % 1000

/-- The state from which a step leads, if the cache remembers it. -/
def find? (c : Cache) (s : Step) : Option Nat :=
  match c.slots[slot s]? with
  | some (t, state) => if t = s then some state else none
  | none => none

/-- Remember the state from which a step leads. -/
def insert (c : Cache) (s : Step) (state : Nat) : Cache := ⟨c.slots.insert (slot s) (s, state)⟩

end Cache

/-- A layout with one more sequence that is read backward and goes on at a
state. -/
def backwardSequence : List ByteRange → (target : Nat) → Layout × Cache → Layout × Cache
  | [], _, (l, c) => (l.add 0 0 1, c)
  | r :: rs, target, (l, c) =>
    match c.find? ⟨target, r⟩ with
    | some state => backwardSequence rs state (l, c)
    | none => backwardSequence rs l.states (l.addStates 1, c.insert ⟨target, r⟩ l.states)

/-- A layout with a set of characters that is read backward. -/
def backwardSet (s : CharSet) (l : Layout) : Layout :=
  (s.byteSequences.foldl (fun lc bs => backwardSequence bs (l.states + 1) lc) (l.addStates 2, {})).1

/-- A layout with a set of characters. -/
def chars (d : Direction) (s : CharSet) (l : Layout) : Layout :=
  if s.isAscii then l.add 2 s.ranges.length 0
  else match d with
    | .forward => forwardSet s l
    | .backward => backwardSet s l

/-! ### Alternations of plain texts -/

/-- The words that begin with the same byte, without it, in the order of their
first bytes and of the words. -/
def tailsByByte (ws : List (List UInt8)) : List (List (List UInt8)) :=
  (ws.filterMap List.head?).eraseDups.map fun b =>
    ws.filterMap fun w => if w.head? = some b then some w.tail else none

/-- A layout with a tree of words of less than `depth` bytes.  Words that end
where others go on cut the arcs of a state into chunks, each with a state of its
own, so that the order of the words is kept. -/
def words : (depth : Nat) → List (List UInt8) → Layout → Layout
  | 0, _, l => l
  | depth + 1, ws, l =>
    if ws.all List.isEmpty then l
    else
      let runs := ws.splitBy fun v w => v.isEmpty == w.isEmpty
      let chunks := (runs.filter fun r => !r.all List.isEmpty).map tailsByByte
      -- a word that ends at once ends only once
      let ends := (ws.dropWhile List.isEmpty).countP List.isEmpty +
        if ws.head?.any List.isEmpty then 1 else 0
      let l := chunks.foldl (fun l c => l.add 1 (if c.length = 1 then 0 else c.length) 0) l
      let l := l.add 1 0 (chunks.length + ends)
      chunks.foldl (fun l c => c.foldl (fun l ws => words depth ws l) l) l

/-- A layout with an alternation of plain texts. -/
def texts (d : Direction) (ts : List Text) (l : Layout) : Layout :=
  let ws := ts.map fun t => t.flatMap String.utf8EncodeChar
  let ws := match d with
    | .forward => ws
    | .backward => ws.map List.reverse
  words (ws.foldl (fun n w => max n w.length) 0 + 1) ws (l.addStates 1)

/-- A layout after a branch of an alternation, counted from one: a fork and the
end of all branches are laid out behind the second one.  Number zero is what is
no branch. -/
def endBranch (l : Layout) : (number : Nat) → Layout
  | 0 => l
  | 2 => l.add 2 0 1
  | _ => l.add 0 0 1

end Layout

namespace Node

/-- The text that a node stands for, if it stands for one text that is not
empty. -/
def text? (n : Node) : Option Text :=
  let cs := n.items.map fun
    | chars s _ => s.single?
    | _ => none
  if cs.isEmpty then none else cs.mapM id

/-- Lay out a node that is a branch of an alternation with the given number, or
with number zero is none. -/
def layOut (d : Direction) : Node → (number : Nat) → Layout → Layout
  | empty, i, l | look _, i, l => (l.addStates 1).endBranch i
  | chars s _, i, l =>
    (match s.single? with
      | some c => l.addStates c.utf8Size
      | none => l.chars d s).endBranch i
  | seq a b, i, l =>
    (match d with
      | .forward => b.layOut d 0 (a.layOut d 0 l)
      | .backward => a.layOut d 0 (b.layOut d 0 l)).endBranch i
  | alt a b, i, l =>
    match i, (alt a b).branches.mapM text? with
    | 0, some ts => l.texts d ts
    | i, _ =>
      let i := max i 1
      b.layOut d (i + 1) ((a.layOut d 0 l).endBranch i)
  | group _ _ a, i, l =>
    (match d with
      | .forward => (a.layOut d 0 (l.addStates 1)).addStates 1
      | .backward => a.layOut d 0 l).endBranch i
  | times min max _ a, i, l =>
    let body := a.layOut d 0
    (match min, max with
      | 0, none => if a.nullable then (body l).add 3 0 4 else (body (l.addStates 1)).add 0 0 2
      | 0, some 1 => (body (l.addStates 1)).add 1 0 2
      | n, none => (Layout.repeated body n l).add 1 0 2
      | n, some m =>
        let l := if n = 0 then l.addStates 1 else Layout.repeated body n l
        if n = m then l
        else Layout.repeated (fun l => body (l.add 1 0 2)) (m - n) (l.addStates 1)).endBranch i

/-- Whether a node matches at the beginning of a text only. -/
def onlyAtStart : Node → Bool
  | look .textStart => true
  | empty | look _ | chars _ _ => false
  | seq a b => a.onlyAtStart || a.onlyEmpty && b.onlyAtStart
  | alt a b => a.onlyAtStart && b.onlyAtStart
  | times min _ _ a => 0 < min && a.onlyAtStart
  | group _ _ a => a.onlyAtStart

/-- Whether a node matches at the end of a text only. -/
def onlyAtEnd : Node → Bool
  | look .textEnd => true
  | empty | look _ | chars _ _ => false
  | seq a b => b.onlyAtEnd || b.onlyEmpty && a.onlyAtEnd
  | alt a b => a.onlyAtEnd && b.onlyAtEnd
  | times min _ _ a => 0 < min && a.onlyAtEnd
  | group _ _ a => a.onlyAtEnd

/-- The automaton of a node.  Unless it matches at one place only, it begins with
a loop over all bytes. -/
def layout (d : Direction) (n : Node) : Layout :=
  let loop := fun anchored : Bool =>
    if anchored then ({} : Layout).addStates 1 else ({} : Layout).add 3 1 2
  match d with
  | .forward => (n.layOut d 0 ((loop n.onlyAtStart).addStates 1)).addStates 2
  | .backward => (n.layOut d 0 (loop n.onlyAtEnd)).addStates 1

/-- Whether the automata of a node take more room than they may. -/
def tooLarge (n : Node) : Bool :=
  (n.layout .backward).isFull || (n.layout .forward).isFull

end Node
end Gedcom.Regex
