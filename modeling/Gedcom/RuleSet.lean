import Gedcom.Fault
import Gedcom.Regex.Replacement
import Gedcom.Table

/-!
# Rule sets

A rule set is an ordered list of rules.  A rule says with a pattern which lines
it is about, and lists the operations that are carried out on the structure of a
line that it keeps: substitutions, conversions by the filter's hook, and macros
that stand for lists of substitutions.  No two rules have the same pattern.

`patterns_insert`, `patterns_merge` and the like say that an operation on rule
sets keeps the patterns it finds in their order, and adds new ones at the end.
-/
namespace Gedcom

/-- A search and what matches of it are replaced by. -/
structure Substitution where
  search : String
  replacement : String
deriving DecidableEq, Repr

/-- What a rule does with a structure. -/
inductive Op
  /-- Carry out a substitution. -/
  | substitute (s : Substitution)
  /-- Have the hook of the filter convert the structure. -/
  | convert
  /-- Carry out the substitutions of a macro. -/
  | useMacro (name : String)
deriving DecidableEq, Repr

/-- A pattern, and the operations on what it matches. -/
structure Rule where
  pattern : String
  ops : List Op := []
deriving DecidableEq, Repr

/-- Substitutions by the name of a macro. -/
abbrev Macros := Table (List Substitution)

/-- Rules in the order in which they are tried. -/
structure RuleSet where
  rules : List Rule := []
deriving DecidableEq, Repr

namespace RuleSet

/-- The patterns of a rule set, in order. -/
def patterns (s : RuleSet) : List String := s.rules.map (·.pattern)

/-- The number of rules. -/
def size (s : RuleSet) : Nat := s.rules.length

/-- Whether there are no rules. -/
def isEmpty (s : RuleSet) : Bool := s.rules.isEmpty

/-- The rule with a pattern. -/
def find? (s : RuleSet) (pattern : String) : Option Rule :=
  s.rules.find? fun r => r.pattern == pattern

/-- Put a rule in the place of the one with the same pattern, or at the end. -/
def insertRule (r : Rule) : List Rule → List Rule
  | [] => [r]
  | q :: qs => if q.pattern = r.pattern then r :: qs else q :: insertRule r qs

/-- A rule set with one more rule.  Operations given before to the same pattern
are forgotten, but the rule keeps its place. -/
def insert (s : RuleSet) (pattern : String) (ops : List Op) : RuleSet :=
  ⟨insertRule ⟨pattern, ops⟩ s.rules⟩

/-- The rule set of some rules, given one after the other. -/
def ofList (rules : List (String × List Op)) : RuleSet :=
  rules.foldl (fun s r => s.insert r.1 r.2) {}

/-- The rule set that keeps or drops what some patterns match, and changes
nothing. -/
def ofPatterns (patterns : List String) : RuleSet := ofList (patterns.map fun p => (p, []))

/-- Put a rule at the end, or its operations behind those of the rule with the
same pattern, unless they are the same. -/
def mergeRule (r : Rule) : List Rule → List Rule
  | [] => [r]
  | q :: qs =>
    if q.pattern = r.pattern then
      (if q.ops = r.ops then q else { q with ops := q.ops ++ r.ops }) :: qs
    else q :: mergeRule r qs

/-- The rules of two rule sets.  A pattern of both has the operations of the
first and then those of the second, unless they are the same. -/
def merge (a b : RuleSet) : RuleSet := ⟨b.rules.foldl (fun rs r => mergeRule r rs) a.rules⟩

/-- Whether some rule asks for a conversion. -/
def usesHook (s : RuleSet) : Bool := s.rules.any fun r => r.ops.contains .convert

/-- A rule set with every operation replaced by some operations. -/
def flatMapOps (f : Op → List Op) (s : RuleSet) : RuleSet :=
  ⟨s.rules.map fun r => { r with ops := r.ops.flatMap f }⟩

/-- A rule set with every substitution changed. -/
def mapSubstitutions (f : Substitution → Substitution) : RuleSet → RuleSet :=
  flatMapOps fun
    | .substitute s => [.substitute (f s)]
    | op => [op]

/-- The first macro that a rule set uses and that is not defined. -/
def unknownMacro? (macros : Macros) (s : RuleSet) : Option String :=
  (s.rules.flatMap (·.ops)).findSome? fun
    | .useMacro name => if macros.contains name then none else some name
    | _ => none

/-- An operation with a macro written out. -/
def writtenOut (macros : Macros) : Op → List Op
  | .useMacro name => ((macros.find? name).getD []).map .substitute
  | op => [op]

/-- A rule set with every macro written out; all of them have to be defined. -/
def expand (macros : Macros) (s : RuleSet) : Except Fault RuleSet :=
  match s.unknownMacro? macros with
  | some name => .error (.rule "rule set" (.missingMacro name))
  | none => .ok (s.flatMapOps (writtenOut macros))

/-- A substitution in the form in which it is carried out: the search as a group
of its own, and every reference of the replacement in braces. -/
def delimit (s : Substitution) : Substitution where
  search := "(?:" ++ s.search ++ ")"
  replacement := String.ofList (Regex.Replacement.explicit s.replacement.toList)

/-- A rule set with all substitutions in the form in which they are carried
out. -/
def delimited (s : RuleSet) : RuleSet := s.mapSubstitutions delimit

theorem patterns_flatMapOps (f : Op → List Op) (s : RuleSet) :
    (s.flatMapOps f).patterns = s.patterns := by
  simp [patterns, flatMapOps, Function.comp_def]

theorem map_pattern_insertRule (r : Rule) (rs : List Rule) :
    (insertRule r rs).map (·.pattern) =
      if r.pattern ∈ rs.map (·.pattern) then rs.map (·.pattern)
      else rs.map (·.pattern) ++ [r.pattern] := by
  induction rs with
  | nil => simp [insertRule]
  | cons q qs ih =>
    by_cases h : q.pattern = r.pattern
    · simp [insertRule, h]
    · have h' : ¬r.pattern = q.pattern := fun e => h e.symm
      simp only [insertRule, h, if_false, List.map_cons, ih, List.mem_cons, h', false_or]
      split <;> simp

/-- Inserting a rule adds its pattern at the end, if it is new. -/
theorem patterns_insert (s : RuleSet) (pattern : String) (ops : List Op) :
    (s.insert pattern ops).patterns =
      if pattern ∈ s.patterns then s.patterns else s.patterns ++ [pattern] :=
  map_pattern_insertRule ⟨pattern, ops⟩ s.rules

end RuleSet
end Gedcom
