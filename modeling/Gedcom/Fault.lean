import Gedcom.RuleFile.Problem
import Gedcom.RuleSet.Problem
import Gedcom.Text

/-!
# Faults

Everything that can stop the library from answering: unusable rule sets and
rule files, inclusion of filters that does not end, unknown filters, lines that
are no lines, failing conversions, a reference graph that does not settle, and
files that cannot be read.  A fault holds its cause; `Fault.message` words it.
-/
namespace Gedcom

/-- The reasons for which a request can fail. -/
inductive Fault
  /-- The rule set of a filter is unusable. -/
  | rule (filter : String) (problem : RuleProblem)
  /-- A rule can never be reached, because an earlier rule stands in front. -/
  | dominated (filter pattern earlier : String)
  /-- Filters include each other more deeply than allowed. -/
  | includeDepth (filter : String) (limit : Nat)
  /-- Filters include each other too deeply, and the last one is already open. -/
  | includeCycle (filter : String) (limit : Nat)
  /-- No filter has this name. -/
  | unknownFilter (name : String)
  /-- A text does not begin with a line of the level at which it stands. -/
  | malformed (fragment : Text)
  /-- The hook of a filter refused a structure. -/
  | conversion (filter pattern message : String)
  /-- Pruning a reference graph did not come to rest within its passes. -/
  | unsettled (passes : Nat)
  /-- A line of a rule file is refused. -/
  | ruleFile (line : Nat) (problem : RuleFileProblem)
  /-- A file cannot be read. -/
  | unreadable (path reason : String)
deriving DecidableEq, Repr

namespace Fault

/-- The wording of a fault. -/
def message : Fault → String
  | rule filter problem => "filter " ++ filter ++ ": " ++ problem.message filter
  | dominated filter pattern earlier =>
    "filter " ++ filter ++ ": rule \"" ++ pattern ++ "\" is dominated by the earlier rule \"" ++
      earlier ++ "\" and will never be executed; remove it or change the rule order"
  | includeDepth filter limit =>
    "maximum include depth of " ++ toString limit ++ " exceeded while including filter " ++ filter
  | includeCycle filter limit =>
    "maximum include depth of " ++ toString limit ++ " exceeded while including filter " ++
      filter ++ "; " ++ filter ++ " already includes itself, probably an include cycle"
  | unknownFilter name => "unknown filter: " ++ name
  | malformed fragment =>
    "the following GEDCOM structure could not be matched: " ++ String.ofList fragment
  | conversion filter pattern message =>
    "custom conversion of filter " ++ filter ++ " failed for rule \"" ++ pattern ++ "\": " ++
      message
  | unsettled passes =>
    "too many iterations (" ++ toString passes ++ ") while removing empty and unlinked records"
  | ruleFile line problem => "line " ++ toString line ++ ": " ++ problem.message
  | unreadable path reason => "cannot read " ++ path ++ ": " ++ reason

/-- Whether a fault comes from putting a chain of filters together. -/
def isInclusion : Fault → Bool
  | includeDepth .. | includeCycle .. | unknownFilter .. => true
  | _ => false

end Fault
end Gedcom
