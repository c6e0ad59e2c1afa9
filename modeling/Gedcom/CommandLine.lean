import Gedcom.CommandLine.Disk
import Gedcom.CommandLine.Options
import Gedcom.Engine
import Gedcom.Inclusion

/-!
# The program

The program reads a transmission, applies filters to its records, and writes
what is left, one record directly after the other.  It can load rule files
beside the filters of the catalog, and list the filters that it has.

The program talks to a disk only; what it has to say on the console is part of
its outcome, together with its exit code: 0 if all went well, 1 if something
failed on the way, and 2 if the arguments cannot be understood.
-/
namespace Gedcom.CommandLine

/-- How the program ends, and what it says on the console. -/
structure Outcome where
  code : Nat := 0
  /-- What goes to the standard output. -/
  out : Text := []
  /-- What goes to the error output. -/
  err : Text := []
deriving DecidableEq, Repr

/-- Lines of text, each with its newline. -/
def inLines (ls : List String) : Text := ls.flatMap fun l => l.toList ++ ['\n']

/-- The outcome of a failure, with the lines that tell what was done before. -/
def failure (told : List String) (line : String) : Outcome :=
  { code := 1, err := inLines (told ++ [line]) }

/-- The outcome of arguments that cannot be understood. -/
def usage : Outcome where
  code := 2
  err := inLines
    ["error: the arguments cannot be understood",
      "Usage: gedcom-filter [-f NAME] [-r FILE] [--param KEY=VALUE] [-o FILE] [-v] [--list] INPUT"]

/-- The records of a text before filters are applied, as texts, and what is left of them. -/
def filterText (filters : List Filter) (ps : Params) (t : Text) :
    Except Fault (List Text × List Text) :=
  let input := recordBlocks t
  -- the conversions that the run wrote down are of no use here
  match ((Chain.run ps (filters.map some) input).run {}).1 with
  | .ok output => .ok (input, output)
  | .error f => .error f

/-- The lines that tell what is going to be done. -/
def announcement (o : Options) (input : String) (filters : List Filter) : List String :=
  ["Input:   " ++ input,
    "Output:  " ++ o.output.getD "(stdout)",
    "Filters: " ++ ", ".intercalate (filters.map (·.name))]

/-- A text as it goes to the console: it ends its last line. -/
def endLine (t : Text) : Text :=
  if t.isEmpty || t.getLast? = some '\n' then t else t ++ ['\n']

variable {m : Type → Type} [Monad m]

/-- Load rule files into a registry, or tell why that fails. -/
def loadRuleFiles (disk : Disk m) (r : Registry) : List String → m (Except String Registry)
  | [] => return .ok r
  | path :: paths => do
    let loaded := match ← disk.read path with
      | .ok text => r.load text
      | .error o => .error (.unreadable path o.message)
    match loaded with
    | .ok (_, r) => loadRuleFiles disk r paths
    | .error f => return .error ("Error loading rule file '" ++ path ++ "': " ++ f.message)

/-- Write the records that are left to where they are asked for. -/
def deliver (disk : Disk m) (o : Options) (told : List String) (input output : List Text) :
    m Outcome := do
  let told' := told ++
    if o.verbose then
      ["Records: " ++ toString input.length ++ " -> " ++ toString output.length]
    else []
  match o.output with
  | none => return { out := endLine output.flatten, err := inLines told' }
  | some path =>
    match ← disk.prepare path with
    | .error _ =>
      return failure told ("Error creating output directory for '" ++ path ++ "'")
    | .ok () =>
      match ← disk.write path output.flatten with
      | .error e =>
        return failure told ("Error writing output file '" ++ path ++ "': " ++ e.message)
      | .ok () => return { err := inLines told' }

/-- Filter the transmission of a file. -/
def filterFile (disk : Disk m) (o : Options) (r : Registry) (path : String) : m Outcome := do
  match ← disk.read path with
  | .error e => return failure [] ("Error reading input file '" ++ path ++ "': " ++ e.message)
  | .ok text =>
    match r.resolve o.filters with
    | .error f => return failure [] ("Filter error: " ++ f.message)
    | .ok filters =>
      let told := if o.verbose then announcement o path filters else []
      match filterText filters (Params.ofList o.params) text with
      | .error f => return failure told ("Filter error: " ++ f.message)
      | .ok (input, output) => deliver disk o told input output

/-- Run the program with some arguments. -/
def run (disk : Disk m) (args : List String) : m Outcome := do
  match Options.ofArgs? args with
  | none => return usage
  | some o =>
    match ← loadRuleFiles disk .ofCatalog o.ruleFiles with
    | .error line => return failure [] line
    | .ok r =>
      if o.list then return { out := inLines r.names }
      else match o.input with
        | none => return usage
        | some path => filterFile disk o r path

end Gedcom.CommandLine
