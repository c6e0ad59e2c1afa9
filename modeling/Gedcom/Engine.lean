import Gedcom.Filter
import Gedcom.Graph.Prune
import Gedcom.Memo
import Gedcom.Trace

/-!
# Applying filters

A filter is applied to one record after the other.  A record is cut at the
lines of level 1, each of its structures at the lines of level 2, and so on: the
first line of a structure is kept if its path of tags leads to a rule that does
not exclude it, and the structures below it are looked at either way.  When
everything below a line is done, the operations of its rule run over the line
and what is left below it, unless the line above led to the same rule.

A run remembers to which rule a path leads, keeps the reference graph that
hooks look at, and writes down on which paths the operations of a rule are
carried out and every structure that it hands to a hook.

A chain applies filters one after the other, each to the records that the one
before it left; no filter runs unless all of them compile.
-/
namespace Gedcom

/-- A structure that was handed to the hook of a filter. -/
structure Conversion where
  filter : String
  pattern : String
  text : Text
deriving DecidableEq, Repr

/-- The operations of a rule, carried out on a structure. -/
structure Treatment where
  /-- The tags from the record down to the structure. -/
  path : List String
  /-- The position of the rule. -/
  rule : Nat
deriving DecidableEq, Repr

/-- What an application knows while it runs. -/
structure Run where
  graph : Graph := {}
  /-- The rules to which the paths met so far lead.  A path is remembered with
  its length in front, which tells most paths apart at once. -/
  memo : Memo (Nat × List String) (Option Nat) := {}
  /-- The operations carried out so far, in order. -/
  treatments : List Treatment := []
  /-- The structures handed to hooks so far, in order. -/
  conversions : List Conversion := []

/-- Steps of a run, which may fail; what was done before a failure stays done. -/
abbrev RunM := ExceptT Fault (StateM Run)

/-- A filter that is being applied, with its rules and parameters. -/
structure Application where
  filter : Filter
  rules : ReadyRules
  params : Params

namespace Application

/-- The rule to which a path leads. -/
def resolve (a : Application) (path : List String) : RunM (Option Nat) := do
  let s ← get
  let (answer, memo) := s.memo.ask (fun (_, path) => firstMatch a.rules.patterns path)
    (path.length, path)
  set { s with memo }
  return answer

/-- Hand a structure to the hook of the filter. -/
def convert (a : Application) (pattern : String) (t : Text) : RunM Text := do
  match a.filter.hook with
  | none => throw (.conversion a.filter.name pattern "no custom conversion available")
  | some hook =>
    -- written down first: a hook that fails has been called all the same
    modify fun s => { s with conversions := s.conversions ++ [⟨a.filter.name, pattern, t⟩] }
    let s ← get
    match hook pattern t a.params s.graph with
    | .error e => throw e
    | .ok (t, graph) =>
      set { s with graph }
      return t

/-- Carry out operations in order. -/
def runOps (a : Application) (pattern : String) : List ReadyOp → Text → RunM Text
  | [], t => return t
  | .substitute _ regex replacement :: ops, t =>
    a.runOps pattern ops (regex.substitute replacement.toList t)
  | .convert :: ops, t => do
    let t ← a.convert pattern t
    a.runOps pattern ops t

/-- Carry out the operations of the rule to which a path leads, if it has any,
unless the line above leads to the same rule. -/
def finish (a : Application) (path : List String) (parent found : Option Nat) (t : Text) :
    RunM Text :=
  match found with
  | none => return t
  | some i =>
    if found = parent then return t
    else match a.rules.rules[i]? with
      | none => return t
      | some rule =>
        if rule.ops.isEmpty then return t
        else do
          modify fun s => { s with treatments := s.treatments ++ [⟨path, i⟩] }
          a.runOps rule.pattern.text rule.ops t

/-- What is left of a structure whose first line has a level and stands below
lines with the tags `path`, the last of which led to `parent`. -/
def sift (a : Application) (level : Nat) (path : List String) (parent : Option Nat) (t : Text) :
    RunM Text := do
  let line ← MonadExcept.ofExcept (Line.ofTextAt level t)
  let path := path ++ [line.tag]
  let found ← a.resolve path
  -- what is below comes first, so that operations see what is left of it
  let inner ← (substructureBlocks (level + 1) t).attach.mapM fun ⟨b, _⟩ =>
    a.sift (level + 1) path found b
  let own := if found.isSome then Text.firstLine t ++ ['\n'] else []
  a.finish path parent found (own ++ inner.flatten)
termination_by t.length
decreasing_by exact length_lt_of_mem_substructureBlocks ‹_›

/-- The pattern of the rule at a position. -/
def patternAt (a : Application) (i : Nat) : Option String :=
  (a.rules.rules[i]?).map (·.pattern.text)

/-- The paths met so far, with the patterns that decided on them. -/
def matched (a : Application) (s : Run) : Table (Option String) :=
  Table.ofList (s.memo.entries.map fun ((_, path), found) =>
    (":".intercalate path, found.bind a.patternAt))

/-- The reference graph that a filter looks at. -/
def references (a : Application) (ts : List Text) : Except Fault Graph :=
  if a.filter.usesReferences then
    match (Graph.ofTexts ts).prune with
    | (.ok _, g) => .ok g
    | (.error e, _) => .error e
  else .ok {}

/-- Apply a filter to texts, each of which may hold several records.  Records of
which nothing is left are left out. -/
def run (a : Application) (ts : List Text) : RunM (List Text × FilterTrace) := do
  -- every filter starts afresh: its graph is that of the texts it is given
  let graph ← MonadExcept.ofExcept (a.references ts)
  modify fun s => { s with graph, memo := {} }
  let rs := ts.flatMap recordBlocks
  let results ← rs.mapM (a.sift 0 [] none)
  let outputs := results.filter fun t => !t.isEmpty
  let s ← get
  return (outputs,
    { filter := a.filter.name
      inputs := rs.length
      outputs := outputs.length
      matched := a.matched s })

end Application

/-- Apply one filter. -/
def Filter.run (f : Filter) (ps : Params) (ts : List Text) : RunM (List Text × FilterTrace) := do
  let rules ← MonadExcept.ofExcept (f.compile ps)
  Application.run ⟨f, rules, ps⟩ ts

namespace Chain

/-- Compile the filters of a chain that are present. -/
def compile (ps : Params) (fs : List (Option Filter)) : Except Fault (List Application) :=
  (fs.filterMap id).mapM fun f => (fun rules => ⟨f, rules, ps⟩) <$> f.compile ps

/-- Run applications one after the other. -/
def runAll : List Application → ChainTrace → List Text → RunM (List Text × ChainTrace)
  | [], trace, ts => return (ts, trace)
  | a :: as, trace, ts => do
    let (ts, t) ← a.run ts
    runAll as
      { filters := trace.filters ++ [t]
        usesSchema := trace.usesSchema || a.filter.usesSchema
        wrapsTightly := trace.wrapsTightly || a.filter.wrapsTightly } ts

/-- Apply the filters of a chain that are present, and trace what they do. -/
def runTraced (ps : Params) (fs : List (Option Filter)) (ts : List Text) :
    RunM (List Text × ChainTrace) := do
  let as ← MonadExcept.ofExcept (compile ps fs)
  runAll as {} ts

/-- Run applications one after the other, for what they leave. -/
def runEach : List Application → List Text → RunM (List Text)
  | [], ts => return ts
  | a :: as, ts => do
    let (ts, _) ← a.run ts
    runEach as ts

/-- Apply the filters of a chain that are present. -/
def run (ps : Params) (fs : List (Option Filter)) (ts : List Text) : RunM (List Text) := do
  let as ← MonadExcept.ofExcept (compile ps fs)
  runEach as ts

end Chain
end Gedcom
