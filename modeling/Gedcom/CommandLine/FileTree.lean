import Gedcom.CommandLine.Disk

/-!
# File trees

A file tree is a disk in memory: the files and directories below a working
directory.  Paths lead from the working directory downwards; nothing else is on
such a disk, so that absolute paths lead nowhere and two dots do not leave the
working directory.
-/
namespace Gedcom.CommandLine

/-- What stands at a place of a file tree. -/
inductive Place
  /-- Nothing. -/
  | nothing
  /-- A directory. -/
  | directory
  /-- A file. -/
  | file (content : Text)
deriving DecidableEq, Repr

/-- Files with their contents and directories without, by the steps that lead to
them. -/
structure FileTree where
  entries : List (List String × Option Text) := []
deriving DecidableEq, Repr

namespace FileTree

/-- What stands at a place. -/
def placeAt (t : FileTree) (place : List String) : Place :=
  if place.isEmpty then .directory
  else match t.entries.lookup place with
    | none => .nothing
    | some none => .directory
    | some (some content) => .file content

/-- A file tree with a file or directory put at a place. -/
def put (t : FileTree) (place : List String) (content : Option Text) : FileTree :=
  ⟨(t.entries.filter fun e => e.1 != place) ++ [(place, content)]⟩

/-- What is put at a place is found there. -/
theorem lookup_put (t : FileTree) (place : List String) (content : Option Text) :
    (t.put place content).entries.lookup place = some content := by
  have h : (t.entries.filter fun e => e.1 != place).lookup place = none := by
    rw [List.lookup_eq_none_iff]
    intro e he
    have hne : e.1 ≠ place := by simpa using (List.mem_filter.1 he).2
    simpa using fun h => hne h.symm
  simp [put, List.lookup_append, h]

/-- The place to which one step leads. -/
def next (place : List String) (step : String) : List String :=
  if step == "." then place else if step == ".." then place.dropLast else place ++ [step]

/-- The place to which some steps lead; only directories can be gone through. -/
def follow (t : FileTree) (place : List String) : List String → Except Obstacle (List String)
  | [] => .ok place
  | step :: steps =>
    match t.placeAt place with
    | .nothing => .error .missing
    | .file _ => .error .noDirectory
    | .directory => t.follow (next place step) steps

/-- The place to which a path leads. -/
def locate (t : FileTree) (path : String) : Except Obstacle (List String) :=
  if Path.isAbsolute path then .error .missing else t.follow [] (Path.steps path)

/-- The text of a file. -/
def read (t : FileTree) (path : String) : Except Obstacle Text := do
  match t.placeAt (← t.locate path) with
  | .nothing => throw .missing
  | .directory => throw .isDirectory
  | .file content => if Path.endsInSlash path then throw .noDirectory else return content

/-- A file tree with the directories to which steps lead created. -/
def makeDirectories (t : FileTree) (place : List String) :
    List String → Except Obstacle FileTree
  | [] => .ok t
  | step :: steps =>
    let place := next place step
    match t.placeAt place with
    | .directory => t.makeDirectories place steps
    | .file _ => .error .noDirectory
    | .nothing => (t.put place none).makeDirectories place steps

/-- A file tree in which the directory exists in which a path lies. -/
def prepare (t : FileTree) (path : String) : Except Obstacle FileTree :=
  if Path.isAbsolute path then .error .missing
  else t.makeDirectories [] (Path.parentSteps path)

/-- A file tree in which a file has a new content. -/
def write (t : FileTree) (path : String) (content : Text) : Except Obstacle FileTree := do
  let place ← t.locate path
  if Path.endsInSlash path || t.placeAt place = .directory then throw .isDirectory
  else return t.put place (some content)

/-- The file tree of some files by their paths. -/
def ofFiles (files : List (String × Text)) : FileTree :=
  files.foldl (fun t (path, content) =>
    match t.prepare path >>= fun t => t.write path content with
    | .ok t => t
    | .error _ => t) {}

/-- The files that a later file tree has and an earlier one has not, or not with
the same content. -/
def changes (before after : FileTree) : List (String × Text) :=
  after.entries.filterMap fun (place, content) =>
    match content with
    | some text =>
      if before.placeAt place = .file text then none else some ("/".intercalate place, text)
    | none => none

/-- Change the file tree that a program works on, unless something stands in the
way. -/
def attempt (change : FileTree → Except Obstacle FileTree) :
    StateM FileTree (Except Obstacle Unit) := do
  match change (← get) with
  | .ok t => set t; return .ok ()
  | .error o => return .error o

/-- A file tree as the disk of a program. -/
def disk : Disk (StateM FileTree) where
  read path := return (← get).read path
  prepare path := attempt fun t => t.prepare path
  write path content := attempt fun t => t.write path content

end FileTree
end Gedcom.CommandLine
