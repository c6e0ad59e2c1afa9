import Gedcom.Params

/-!
# Options

What the program is asked to do is read off its arguments one after the other.
An option that takes a value has it in the same argument or in the next one,
which must not look like an option itself; flags of one letter may be joined to
each other and to an option.  After `--` no argument is an option.  Options and
flags that make no sense twice are refused the second time.
-/
namespace Gedcom.CommandLine

/-- What the program is asked to do. -/
structure Options where
  /-- The path of the transmission. -/
  input : Option String := none
  /-- The names of the filters to apply. -/
  filters : List String := []
  /-- The paths of further rule files. -/
  ruleFiles : List String := []
  /-- Parameters for the filters. -/
  params : List (String × String) := []
  /-- Where to write, if not to the console. -/
  output : Option String := none
  /-- Whether to tell what is done. -/
  verbose : Bool := false
  /-- Whether to list the filters instead. -/
  list : Bool := false
deriving DecidableEq, Repr

/-- The options that take a value. -/
inductive Key
  | filter
  | rules
  | param
  | output
deriving DecidableEq, Repr

/-- The options that take none. -/
inductive Flag
  | verbose
  | list
deriving DecidableEq, Repr

/-- The option of a name. -/
def ofName? : String → Option (Key ⊕ Flag)
  | "filter" => some (.inl .filter)
  | "rules" => some (.inl .rules)
  | "param" => some (.inl .param)
  | "output" => some (.inl .output)
  | "verbose" => some (.inr .verbose)
  | "list" => some (.inr .list)
  | _ => none

/-- The option of a letter. -/
def ofLetter? : Char → Option (Key ⊕ Flag)
  | 'f' => some (.inl .filter)
  | 'r' => some (.inl .rules)
  | 'o' => some (.inl .output)
  | 'v' => some (.inr .verbose)
  | _ => none

namespace Options

/-- Options with the value of one of them. -/
def give (o : Options) (value : String) : Key → Option Options
  | .filter => some { o with filters := o.filters ++ [value] }
  | .rules => if value.isEmpty then none else some { o with ruleFiles := o.ruleFiles ++ [value] }
  | .param =>
    match Params.assignment value with
    | .ok p => some { o with params := o.params ++ [p] }
    | .error _ => none
  | .output =>
    if value.isEmpty || o.output.isSome then none else some { o with output := some value }

/-- Options with a flag raised. -/
def raise (o : Options) : Flag → Option Options
  | .verbose => if o.verbose then none else some { o with verbose := true }
  | .list => if o.list then none else some { o with list := true }

/-- Options with an argument that is no option. -/
def place (o : Options) (path : String) : Option Options :=
  if path.isEmpty || o.input.isSome then none else some { o with input := some path }

/-- Options after an argument of letters; the last letter may wait for its value. -/
def giveLetters (o : Options) : Text → Option (Options × Option Key)
  | [] => some (o, none)
  | c :: cs =>
    match ofLetter? c with
    | none => none
    | some (.inr flag) => (o.raise flag).bind fun o => o.giveLetters cs
    | some (.inl key) =>
      match cs with
      | [] => some (o, some key)
      | '=' :: value => (o.give (String.ofList value) key).map fun o => (o, none)
      | value => (o.give (String.ofList value) key).map fun o => (o, none)

/-- Options after an argument with the name of an option, which may wait for its
value. -/
def giveName (o : Options) (t : Text) : Option (Options × Option Key) :=
  match Text.cut? (· == '=') t with
  | some (name, value) =>
    match ofName? (String.ofList name) with
    | some (.inl key) => (o.give (String.ofList value) key).map fun o => (o, none)
    | _ => none
  | none =>
    match ofName? (String.ofList t) with
    | some (.inl key) => some (o, some key)
    | some (.inr flag) => (o.raise flag).map fun o => (o, none)
    | none => none

/-- Options when there are no more arguments: there has to be something to do. -/
def complete (o : Options) : Option Options :=
  if o.input.isNone && !o.list then none else some o

/-- Options after some arguments.  `waiting` is an option that still needs its
value. -/
def readFrom (o : Options) (waiting : Option Key) : List String → Option Options
  | [] => if waiting.isSome then none else o.complete
  | a :: as =>
    match a.toList, waiting with
    | ['-', '-'], none => (as.foldlM place o).bind complete
    | '-' :: '-' :: name, none => (o.giveName name).bind fun (o, waiting) => o.readFrom waiting as
    | '-' :: c :: cs, none =>
      (o.giveLetters (c :: cs)).bind fun (o, waiting) => o.readFrom waiting as
    | '-' :: _ :: _, some _ => none
    | _, some key => (o.give a key).bind fun o => o.readFrom none as
    | _, none => (o.place a).bind fun o => o.readFrom none as

/-- The options that some arguments give, if they can be understood. -/
def ofArgs? (args : List String) : Option Options := readFrom {} none args

end Options
end Gedcom.CommandLine
