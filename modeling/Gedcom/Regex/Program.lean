import Gedcom.Regex.Node

/-!
# Programs

A regular expression runs as a program: a list of instructions of which a
thread executes one after the other.  A fork continues at two places, the first
by preference, so that the order in which threads arise is the order in which a
match is preferred.

The code of a node is laid out from a given address on, is entered at its first
instruction and left behind its last one.  A repetition whose body cannot be
empty goes back to its fork; one whose body can be empty is laid out as an
optional repetition of at least one time, which keeps the order of preference.
-/
namespace Gedcom.Regex

/-- The steps of a thread. -/
inductive Instr
  /-- Consume a character of a set. -/
  | chars (set : CharSet)
  /-- Go on where an assertion holds. -/
  | look (a : Assertion)
  /-- Note the place under a number. -/
  | save (slot : Nat)
  /-- Go on at two addresses, the first by preference. -/
  | fork (first second : Nat)
  /-- Go on at an address. -/
  | jump (target : Nat)
  /-- The expression has matched. -/
  | done
deriving DecidableEq, Repr

/-- A fork that enters a repetition once more or leaves it, by preference the one
or the other. -/
def Instr.loop (greedy : Bool) (enter leave : Nat) : Instr :=
  if greedy then .fork enter leave else .fork leave enter

namespace Node

/-- The length of the code of a node. -/
def codeLength : Node → Nat
  | empty => 0
  | chars _ _ | look _ => 1
  | seq a b => a.codeLength + b.codeLength
  | alt a b => a.codeLength + b.codeLength + 2
  | group _ _ a => a.codeLength + 2
  | times min none _ a =>
    if min = 0 then a.codeLength + 2 else min * a.codeLength + 1
  | times min (some max) _ a => min * a.codeLength + (max - min) * (a.codeLength + 1)

/-- `n` pieces of code in a row, each of a given length. -/
def inRow (code : Nat → List Instr) (length : Nat) : (n base : Nat) → List Instr
  | 0, _ => []
  | n + 1, base => code base ++ inRow code length n (base + length)

/-- The code of a node from an address on. -/
def code : Node → (base : Nat) → List Instr
  | empty, _ => []
  | chars s _, _ => [.chars s]
  | look a, _ => [.look a]
  | seq a b, base => a.code base ++ b.code (base + a.codeLength)
  | alt a b, base =>
    let second := base + a.codeLength + 2
    .fork (base + 1) second :: a.code (base + 1) ++
      .jump (second + b.codeLength) :: b.code second
  | group i _ a, base => .save (2 * i) :: a.code (base + 1) ++ [.save (2 * i + 1)]
  | times min none greedy a, base =>
    let last := base + (min - 1) * a.codeLength
    if min = 0 then
      let leave := base + a.codeLength + 2
      -- behind a body that can be empty stands a fork of its own, which may leave
      .loop greedy (base + 1) leave :: a.code (base + 1) ++
        [if a.nullable then .loop greedy (base + 1) leave else .jump base]
    else
      -- only the last of the required bodies is repeated
      inRow a.code a.codeLength min base ++
        [.loop greedy last (last + a.codeLength + 1)]
  | times min (some max) greedy a, base =>
    let rest := base + min * a.codeLength
    let leave := rest + (max - min) * (a.codeLength + 1)
    inRow a.code a.codeLength min base ++
      inRow (fun entry => .loop greedy (entry + 1) leave :: a.code (entry + 1)) (a.codeLength + 1)
        (max - min) rest

/-- The program of a node: its text is noted under the numbers 0 and 1. -/
def program (n : Node) : Array Instr :=
  (Instr.save 0 :: n.code 1 ++ [Instr.save 1, Instr.done]).toArray

end Node

end Gedcom.Regex
