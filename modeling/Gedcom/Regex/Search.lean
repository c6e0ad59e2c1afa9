import Gedcom.Regex.Program

/-!
# Searching

All threads of a program run through a text side by side, one character at a
time, in the order in which their matches are preferred.  At every place each
address is visited once only, by the thread that comes first; a thread that
arrives later could do nothing that the first one does not do by preference.
A thread that is done cuts off all threads behind it.  While nothing has
matched, a new thread begins at every place, behind all others.

Places are counted from the beginning of the text that is searched; what stands
before it is told by the character before it.
-/
namespace Gedcom.Regex

/-- The places noted by a thread, by number. -/
abbrev Slots := List (Option Nat)

/-- A thread that waits at an address, with the places it noted. -/
structure Thread where
  address : Nat
  slots : Slots

/-- A place in a text: how far it is from the beginning, and the characters
around it. -/
structure Place where
  offset : Nat
  before : Option Char
  after : Option Char

/-- The threads that wait at a place, latest first, and for every address the
place at which it was visited last. -/
structure Front where
  visited : Array (Option Nat)
  threads : List Thread := []

/-- Run threads as far as they come without consuming a character, each with all
that it splits into before the next one.  `steps` bounds the number of threads
that are looked at. -/
def follow (prog : Array Instr) (here : Place) : (steps : Nat) → List Thread → Front → Front
  | 0, _, front => front
  | _, [], front => front
  | n + 1, ⟨pc, slots⟩ :: ts, ⟨visited, waiting⟩ =>
    if visited[pc]? == some (some here.offset) then follow prog here n ts ⟨visited, waiting⟩
    else
      let visited := visited.setIfInBounds pc (some here.offset)
      match prog[pc]? with
      | none => follow prog here n ts ⟨visited, waiting⟩
      | some (.chars _) | some .done => follow prog here n ts ⟨visited, ⟨pc, slots⟩ :: waiting⟩
      | some (.look a) =>
        let ts := if a.holds here.before here.after then ⟨pc + 1, slots⟩ :: ts else ts
        follow prog here n ts ⟨visited, waiting⟩
      | some (.save i) =>
        follow prog here n (⟨pc + 1, slots.set i (some here.offset)⟩ :: ts) ⟨visited, waiting⟩
      | some (.jump target) => follow prog here n (⟨target, slots⟩ :: ts) ⟨visited, waiting⟩
      | some (.fork first second) =>
        follow prog here n (⟨first, slots⟩ :: ⟨second, slots⟩ :: ts) ⟨visited, waiting⟩

/-- Run a thread at a place.  An address that is visited adds two threads at
most, so that twice the length of the program is enough. -/
def enter (prog : Array Instr) (here : Place) (pc : Nat) (slots : Slots) (front : Front) : Front :=
  follow prog here (2 * prog.size + 2) [⟨pc, slots⟩] front

/-- Let the threads at a place consume a character, in order, up to the first
that is done.  The answer is the places noted by that one, and the threads that
wait behind the character. -/
def advance (prog : Array Instr) (c : Option Char) (next : Place) :
    List Thread → Front → Option Slots × Front
  | [], front => (none, front)
  | t :: ts, front =>
    match prog[t.address]? with
    -- the threads in `ts` come later and are given up
    | some .done => (some t.slots, front)
    | some (.chars s) =>
      if c.any s.contains then
        advance prog c next ts (enter prog next (t.address + 1) t.slots front)
      else advance prog c next ts front
    | _ => advance prog c next ts front

/-- Search the rest of a text, with the threads that wait in front of it and the
best match so far. -/
def searchFrom (prog : Array Instr) (fresh : Slots) (here : Place) (front : Front)
    (best : Option Slots) : (rest : Text) → Option Slots
  | [] =>
    let front := if best.isNone then enter prog here 0 fresh front else front
    (advance prog none here front.threads.reverse ⟨front.visited, []⟩).1 <|> best
  | c :: rest =>
    -- no thread is left that could end a better match
    if best.isSome && front.threads.isEmpty then best
    else
      let front := if best.isNone then enter prog here 0 fresh front else front
      let next : Place := ⟨here.offset + 1, some c, rest.head?⟩
      let (found, front) := advance prog (some c) next front.threads.reverse ⟨front.visited, []⟩
      searchFrom prog fresh next front (found <|> best) rest

end Gedcom.Regex
