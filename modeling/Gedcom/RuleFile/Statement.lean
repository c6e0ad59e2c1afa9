import Gedcom.RuleFile.Change
import Gedcom.Text.Upper

/-!
# Statements of a rule file

A line of a rule file holds one statement: a keyword in any case, and what
follows it.  A bar in front of the keyword continues the rule or macro that was
opened last, and the statement is then one of its operations.  Empty lines,
lines with nothing but a bar, and lines that begin with `#` say nothing.
-/
namespace Gedcom.RuleFile

/-- What a file can ask for by an option. -/
inductive Setting
  /-- Look at the references between records. -/
  | references
  /-- Do not ask the host to look at the tags that are left. -/
  | noSchema
  /-- Ask the host to wrap long values without blanks at the ends. -/
  | wrapsTightly
deriving DecidableEq, Repr

/-- What one line says. -/
inductive Statement
  /-- The filter has this name. -/
  | filter (name : String)
  /-- The filter has these settings. -/
  | settings (given : List Setting)
  /-- A filter to run before. -/
  | before (name : String)
  /-- A filter to run after. -/
  | after (name : String)
  /-- Begin a macro. -/
  | openMacro (name : String)
  /-- Begin a rule. -/
  | openRule (pattern : String)
  /-- An operation of the rule or macro that was begun last. -/
  | operation (op : Op)
deriving DecidableEq, Repr

/-- The setting that a word in capitals names. -/
def Setting.ofWord (word : String) : Except RuleFileProblem Setting :=
  match word with
  | "REFERENCES" => .ok .references
  | "NO_SCHEMA" => .ok .noSchema
  | "WRAP_CONC" => .ok .wrapsTightly
  | _ => .error (.unknownOption word)

/-- The settings that a text names, in any case; they are separated by blanks or
bars. -/
def settingsOf (t : Text) : Except RuleFileProblem (List Setting) := do
  let words := Text.fields (fun c => Text.isBlank c || c == '|') t
  let given ← words.mapM fun w => Setting.ofWord (String.ofList (Text.upper w))
  if given.isEmpty then throw .noOption else return given

/-- The one word that follows a keyword. -/
def argument (keyword : String) (t : Text) : Except RuleFileProblem String :=
  match Text.words t with
  | [] => .error (.missingArgument keyword)
  | [word] => .ok (String.ofList word)
  | _ => .error (.surplusArgument keyword)

/-- The keyword that a text begins with, in capitals, and what follows it. -/
def keywordOf (t : Text) : String × Text :=
  match Text.cut? Text.isBlank t with
  | some (keyword, rest) => (String.ofList (Text.upper keyword), Text.trim rest)
  | none => (String.ofList (Text.upper t), [])

namespace Statement

/-- The operation of a keyword and what follows it. -/
def continuation (keyword : String) (rest : Text) : Except RuleFileProblem Statement :=
  match keyword with
  | "CHANGE" => (fun s => operation (.substitute s)) <$> change rest
  | "MACRO" => (fun name => operation (.useMacro name)) <$> argument keyword rest
  | "CUSTOM" => .ok (operation .convert)
  | _ => .error (.unknownOperation keyword)

/-- The statement of a keyword and what follows it. -/
def command (keyword : String) (rest : Text) : Except RuleFileProblem Statement :=
  match keyword with
  | "FILTER" => filter <$> argument keyword rest
  | "OPTION" => settings <$> settingsOf rest
  | "BEFORE" => before <$> argument keyword rest
  | "AFTER" => after <$> argument keyword rest
  | "MACRO" => openMacro <$> argument keyword rest
  | "RULE" => openRule <$> argument keyword rest
  | "CHANGE" | "CUSTOM" => .error (.uncontinued keyword)
  | _ => .error (.unknownCommand keyword)

/-- What a line says, if it says anything. -/
def ofLine? (l : Text) : Except RuleFileProblem (Option Statement) :=
  match Text.trim l with
  | [] => .ok none
  | '#' :: _ => .ok none
  | '|' :: t =>
    if (Text.trim t).isEmpty then .ok none
    else
      let (keyword, rest) := keywordOf (Text.trim t)
      some <$> continuation keyword rest
  | t =>
    let (keyword, rest) := keywordOf t
    some <$> command keyword rest

end Statement
end Gedcom.RuleFile
