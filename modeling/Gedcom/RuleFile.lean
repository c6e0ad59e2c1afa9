import Gedcom.Filter
import Gedcom.RuleFile.Statement

/-!
# Rule files

A rule file defines one filter, one statement a line.  It is read from the top:
every statement goes into a draft of the filter, and the first statement that
does not fit, or cannot be read, is refused with the number of its line.

A rule or macro is open from its own line to the next statement that is no
operation.  The filter has to be named, but its name may come at any place.
-/
namespace Gedcom

/-- The content of a rule file, its name apart. -/
structure RuleFile.Body where
  rules : RuleSet := {}
  macros : Macros := {}
  usesReferences : Bool := false
  usesSchema : Bool := true
  wrapsTightly : Bool := false
  before : List String := []
  after : List String := []
deriving DecidableEq, Repr

/-- The content of a rule file. -/
structure RuleFile extends RuleFile.Body where
  name : String
deriving DecidableEq, Repr

namespace RuleFile

/-- The filter that a rule file defines. -/
def toFilter (f : RuleFile) : Filter where
  name := f.name
  rules _ := f.rules
  macros := f.macros
  usesReferences := f.usesReferences
  usesSchema := f.usesSchema
  wrapsTightly := f.wrapsTightly
  before := f.before
  after := f.after

/-- What the operations of a rule file belong to. -/
inductive Block
  /-- Nothing is open. -/
  | outside
  /-- The rule with this pattern is open. -/
  | ofRule (pattern : String)
  /-- The macro with this name is open. -/
  | ofMacro (name : String)
deriving DecidableEq, Repr

/-- A rule file that is being read. -/
structure Draft extends Body where
  name? : Option String := none
  block : Block := .outside
deriving DecidableEq, Repr

namespace Draft

/-- A draft with one more setting. -/
def set (d : Draft) : Setting → Draft
  | .references => { d with usesReferences := true }
  | .noSchema => { d with usesSchema := false }
  | .wrapsTightly => { d with wrapsTightly := true }

/-- A draft with one more operation in the rule or macro that is open. -/
def attach (d : Draft) (op : Op) : Except RuleFileProblem Draft :=
  match d.block with
  | .outside => .error .outsideBlock
  | .ofMacro name =>
    match op with
    | .substitute s =>
      .ok { d with macros := d.macros.insert name ((d.macros.find? name).getD [] ++ [s]) }
    | _ => .error (.foreignInMacro name)
  | .ofRule pattern =>
    if op = .convert then .error .conversion
    else
      let ops := ((d.rules.find? pattern).map (·.ops)).getD []
      .ok { d with rules := d.rules.insert pattern (ops ++ [op]) }

/-- A draft with one more statement. -/
def accept (d : Draft) : Statement → Except RuleFileProblem Draft
  | .filter name =>
    if d.name?.isSome then .error .namedTwice
    else .ok { d with name? := some name, block := .outside }
  | .settings given => .ok { given.foldl set d with block := .outside }
  | .before name => .ok { d with before := d.before ++ [name], block := .outside }
  | .after name => .ok { d with after := d.after ++ [name], block := .outside }
  | .openMacro name =>
    if d.macros.contains name then .error (.repeatedMacro name)
    else .ok { d with macros := d.macros.insert name [], block := .ofMacro name }
  | .openRule pattern =>
    if (d.rules.find? pattern).isSome then .error (.repeatedRule pattern)
    else .ok { d with rules := d.rules.insert pattern [], block := .ofRule pattern }
  | .operation op => d.attach op

/-- A draft after one more line. -/
def readLine (d : Draft) (l : Text) : Except RuleFileProblem Draft := do
  match ← Statement.ofLine? l with
  | none => return d
  | some s => d.accept s

/-- A draft after some lines, of which the first has the given number. -/
def readLines (d : Draft) : (number : Nat) → List Text → Except Fault Draft
  | _, [] => .ok d
  | number, l :: ls =>
    match d.readLine l with
    | .ok d => d.readLines (number + 1) ls
    | .error p => .error (.ruleFile number p)

end Draft

/-- The lines of a file; nothing follows a newline at its end. -/
def linesOf (t : Text) : List Text :=
  if (Text.lines t).getLast? = some [] then (Text.lines t).dropLast else Text.lines t

/-- The rule file that a text writes. -/
def ofText (t : Text) : Except Fault RuleFile := do
  let d ← Draft.readLines {} 1 (linesOf t)
  match d.name? with
  | some name => return { d.toBody with name }
  -- an empty file has a first line for this purpose
  | none => throw (.ruleFile (max (linesOf t).length 1) .unnamed)

end RuleFile
end Gedcom
