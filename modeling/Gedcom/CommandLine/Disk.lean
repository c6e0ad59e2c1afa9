import Gedcom.Text

/-!
# Disks

The program reads and writes files through a disk, which says of every request
that cannot be met what stands in the way.  A path is a sequence of steps from
directory to directory, separated by slashes; a single dot stays where it is,
two dots go up.
-/
namespace Gedcom.CommandLine

/-- What can stand in the way of reading or writing a file. -/
inductive Obstacle
  /-- There is no such file, or no such directory on the way to it. -/
  | missing
  /-- The path leads to a directory. -/
  | isDirectory
  /-- The path goes through something that is no directory. -/
  | noDirectory
  /-- The file may not be used. -/
  | denied
  /-- The file holds no text. -/
  | noText
  /-- Anything else, in the words of the system. -/
  | other (reason : String)
deriving DecidableEq, Repr

/-- The wording of an obstacle. -/
def Obstacle.message : Obstacle → String
  | missing => "No such file or directory (os error 2)"
  | isDirectory => "Is a directory (os error 21)"
  | noDirectory => "Not a directory (os error 20)"
  | denied => "Permission denied (os error 13)"
  | noText => "stream did not contain valid UTF-8"
  | other reason => reason

/-- What the program needs of a disk. -/
structure Disk (m : Type → Type) where
  /-- The text of a file. -/
  read : (path : String) → m (Except Obstacle Text)
  /-- Create the directories in which a path lies, if need be. -/
  prepare : (path : String) → m (Except Obstacle Unit)
  /-- Give a file a new content, and create it if need be. -/
  write : (path : String) → (content : Text) → m (Except Obstacle Unit)

namespace Path

/-- The steps of a path. -/
def steps (path : String) : List String :=
  (Text.fields (· == '/') path.toList).map String.ofList

/-- Whether a path starts at the top of all directories. -/
def isAbsolute (path : String) : Bool := path.toList.head? = some '/'

/-- Whether a path ends in a slash, which only directories may have. -/
def endsInSlash (path : String) : Bool := path.toList.getLast? = some '/'

/-- The steps to the directory in which a path lies. -/
def parentSteps (path : String) : List String :=
  ((steps path).filter (· != ".")).dropLast

/-- The directory in which a path lies, if the path says so. -/
def parent? (path : String) : Option String :=
  if (parentSteps path).isEmpty then none
  else some ((if isAbsolute path then "/" else "") ++ "/".intercalate (parentSteps path))

end Path
end Gedcom.CommandLine
