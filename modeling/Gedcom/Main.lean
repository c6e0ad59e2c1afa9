import Gedcom.CommandLine

/-!
# The command line

The program on the files of the system it runs on.
-/
namespace Gedcom.CommandLine.System

/-- What stands in the way, according to the system. -/
def obstacle : IO.Error → Obstacle
  | .noFileOrDirectory .. => .missing
  | .noSuchThing .. => .missing
  | .permissionDenied .. => .denied
  | .inappropriateType _ _ "not a directory" => .noDirectory
  | .inappropriateType .. => .isDirectory
  | e => .other (toString e)

/-- Carry out an action, and tell what stands in its way. -/
def attempt {α : Type} (action : IO α) : IO (Except Obstacle α) := do
  try return .ok (← action)
  catch e => return .error (obstacle e)

/-- The text of a file of the system. -/
def read (path : String) : IO (Except Obstacle Text) := do
  match ← attempt (IO.FS.readBinFile path) with
  | .error o => return .error o
  | .ok bytes =>
    match String.fromUTF8? bytes with
    | some text => return .ok text.toList
    | none => return .error .noText

/-- The files of the system. -/
def disk : Disk IO where
  read := read
  prepare path :=
    match Path.parent? path with
    | none => return .ok ()
    | some directory => attempt (IO.FS.createDirAll directory)
  write path content := attempt (IO.FS.writeFile path (String.ofList content))

end Gedcom.CommandLine.System

/-- Run the program on the files of the system. -/
def main (args : List String) : IO UInt32 := do
  let outcome ← Gedcom.CommandLine.run Gedcom.CommandLine.System.disk args
  IO.print (String.ofList outcome.out)
  IO.eprint (String.ofList outcome.err)
  return outcome.code.toUInt32
