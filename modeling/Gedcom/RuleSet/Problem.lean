/-!
# What can be wrong with a rule set

A problem names the offending part of a rule set; its wording is given by
`RuleProblem.message` alone.
-/
namespace Gedcom

/-- The ways in which a rule set can be unusable. -/
inductive RuleProblem
  /-- There are no rules at all. -/
  | noRules
  /-- A rule's pattern is not made of tags and wildcards. -/
  | badPattern (pattern : String)
  /-- A search is not a regular expression. -/
  | badSearch (search : String)
  /-- A search is a regular expression, but one that would grow out of bounds. -/
  | hugeSearch (search : String)
  /-- A replacement opens a group reference and does not close it. -/
  | openReference (replacement : String)
  /-- A replacement refers to a group that its search does not define. -/
  | missingGroup (replacement group : String)
  /-- A rule asks for a conversion, but the filter has no hook. -/
  | missingHook (pattern : String)
  /-- A rule uses a macro that is not defined. -/
  | missingMacro (name : String)
  /-- An excluding rule has operations. -/
  | idleOperations (pattern : String)
  /-- A macro has a problem of its own. -/
  | inMacro (name : String) (problem : RuleProblem)
  /-- A problem that a host states in its own words. -/
  | stated (message : String)
deriving DecidableEq, Repr

/-- The wording of a problem found in the rule set of a filter. -/
def RuleProblem.message (filter : String) : RuleProblem → String
  | noRules => "does not contain any filter rules"
  | badPattern pattern => "invalid tag definition: " ++ pattern
  | badSearch search =>
    "invalid regular expression: " ++ search ++ ". regex parse error:\n    " ++ search
  | hugeSearch search =>
    "invalid regular expression: " ++ search ++
      ". Compiled regex exceeds size limit of 10485760 bytes."
  | openReference replacement =>
    "unterminated group reference in '" ++ replacement ++ "'"
  | missingGroup replacement group =>
    "replacement '" ++ replacement ++ "' refers to group " ++ group ++
      ", which the search does not define"
  | missingHook pattern =>
    "rule " ++ pattern ++
      " requests a custom conversion, but the filter does not implement one"
  | missingMacro name =>
    "uses the regular expression macro " ++ name ++ ", which is not defined"
  | idleOperations pattern =>
    "black list rule " ++ pattern ++ " has operations, which will never be executed " ++
      "because the black list rule deletes the matched structure"
  | inMacro name problem =>
    "macro " ++ name ++ ": filter " ++ filter ++ ": " ++ problem.message filter
  | stated message => message

end Gedcom
