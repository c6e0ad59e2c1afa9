/-!
# What can be wrong with a rule file

A problem names what a statement of a rule file does wrong; its wording is
given by `RuleFileProblem.message` alone.
-/
namespace Gedcom

/-- The ways in which a statement of a rule file can be refused. -/
inductive RuleFileProblem
  /-- The file does not name its filter. -/
  | unnamed
  /-- The file names its filter twice. -/
  | namedTwice
  /-- A macro is opened twice. -/
  | repeatedMacro (name : String)
  /-- A rule is opened twice. -/
  | repeatedRule (pattern : String)
  /-- An operation stands outside of every block. -/
  | outsideBlock
  /-- A macro holds an operation other than a substitution. -/
  | foreignInMacro (name : String)
  /-- A rule asks for a conversion. -/
  | conversion
  /-- A continuation line begins with an unknown keyword. -/
  | unknownOperation (keyword : String)
  /-- An operation does not stand on a continuation line. -/
  | uncontinued (keyword : String)
  /-- A line begins with an unknown keyword. -/
  | unknownCommand (keyword : String)
  /-- A statement lacks its argument. -/
  | missingArgument (keyword : String)
  /-- A statement has more than one argument. -/
  | surplusArgument (keyword : String)
  /-- An option is unknown. -/
  | unknownOption (option : String)
  /-- No option is given. -/
  | noOption
  /-- A substitution has no strings. -/
  | noStrings
  /-- A delimited string is missing. -/
  | missingString
  /-- The two strings of a substitution have different delimiters. -/
  | otherDelimiter (expected found : Char)
  /-- A delimited string is not closed. -/
  | openString (delimiter : Char)
  /-- Something follows the two strings of a substitution. -/
  | surplusText (text : String)
  /-- A problem that a host states in its own words. -/
  | stated (message : String)
deriving DecidableEq, Repr

/-- The wording of a problem. -/
def RuleFileProblem.message : RuleFileProblem → String
  | unnamed => "missing FILTER statement"
  | namedTwice => "FILTER may only be given once"
  | repeatedMacro name => "macro " ++ name ++ " is defined twice"
  | repeatedRule pattern => "rule " ++ pattern ++ " is defined twice"
  | outsideBlock => "operation outside of a RULE or MACRO block"
  | foreignInMacro name => "macro " ++ name ++ " may only contain CHANGE operations"
  | conversion => "CUSTOM is not available in rule files, they have no conversion hook"
  | unknownOperation keyword => "Unknown operation: " ++ keyword
  | uncontinued keyword =>
    keyword ++ " must follow a RULE or MACRO line as '| " ++ keyword ++ "'"
  | unknownCommand keyword => "Unknown command: " ++ keyword
  | missingArgument keyword => keyword ++ " requires an argument"
  | surplusArgument keyword => keyword ++ " takes a single argument"
  | unknownOption option => "Unknown option: " ++ option
  | noOption => "OPTION requires at least one option"
  | noStrings => "CHANGE requires two delimited strings"
  | missingString => "Expected delimited string"
  | otherDelimiter expected found =>
    "Both CHANGE strings must use the delimiter '" ++ expected.toString ++ "', found '" ++
      found.toString ++ "'"
  | openString delimiter => "Unclosed delimiter '" ++ delimiter.toString ++ "'"
  | surplusText text => "Unexpected text after CHANGE: " ++ text
  | stated message => message

end Gedcom
