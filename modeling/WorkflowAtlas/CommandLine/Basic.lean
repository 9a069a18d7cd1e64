import WorkflowAtlas.SourcePath

/-!
# Command lines

What can be asked for on a command line, and how the words of one are read. A word that starts with a
dash is an option: long ones may carry their value behind `=`, short ones may be written together and
carry their value directly. Words behind `--` are operands. Words are read in order, so help that is
asked for before a mistake is given.
-/

namespace WorkflowAtlas

/-- **A command** with what it works on. -/
inductive Command where
  /-- Writes the workflows of a repository. -/
  | analyze (root : SourcePath) (settings hints output : Option SourcePath)
  /-- Writes the facts of a repository. -/
  | facts (root : SourcePath) (settings : Option SourcePath)
  /-- Writes the call graph of a file. -/
  | callGraph (file : SourcePath)
  /-- Writes the changes between two snapshots. -/
  | compare (old new : SourcePath)
  /-- Writes the version of the program. -/
  | version
  deriving DecidableEq, Repr, Inhabited

/-- An option that takes a value. -/
structure CommandOption where
  long : String
  short : Option Char := none
  about : String := ""
  /-- The value when the option is not given. -/
  standard : Option String := none
  deriving DecidableEq, Repr, Inhabited

/-- **The commands by name.** -/
inductive CommandName where
  | analyze
  | facts
  | callGraph
  | compare
  | version
  | help
  deriving DecidableEq, Repr, Inhabited

namespace CommandName

def all : List CommandName := [.analyze, .facts, .callGraph, .compare, .version, .help]

/-- The word for a command. -/
def word : CommandName → String
  | .analyze => "analyze"
  | .facts => "structure"
  | .callGraph => "callgraph"
  | .compare => "diff"
  | .version => "version"
  | .help => "help"

def ofWord? (word : String) : Option CommandName :=
  all.find? (·.word = word)

/-- The options of a command that take a value. -/
def options : CommandName → List CommandOption
  | .analyze =>
    [{ long := "root", short := some 'r', about := "Repository root path", standard := some "." },
      { long := "config", short := some 'c', about := "Analysis config (defaults to codag.toml / codag.yaml in the root)" },
      { long := "hints", about := "JSON file of workflow hints" },
      { long := "output", short := some 'o', about := "Write the snapshot here instead of stdout" }]
  | .facts =>
    [{ long := "root", short := some 'r', standard := some "." }, { long := "config", short := some 'c' }]
  | _ => []

/-- What the operands of a command are called. -/
def operands : CommandName → List String
  | .callGraph => ["FILE"]
  | .compare => ["OLD", "NEW"]
  | _ => []

end CommandName

/-- **What a command line asks for.** -/
inductive Invocation where
  | run (command : Command)
  /-- Help on the program or on a command. -/
  | help (topic : Option CommandName)
  /-- The words make no sense. -/
  | misuse
  deriving DecidableEq, Repr, Inhabited

namespace CommandLine

/-- Why reading the words of a command ends early. -/
inductive Stop where
  | help
  | misuse
  deriving DecidableEq, Repr

/-- What was given so far: values of options by their long names, operands, and whether more is logged. -/
structure Given where
  values : List (String × String) := []
  operands : List String := []
  verbose : Bool := false
  deriving Repr, Inhabited

namespace Given

/-- With the value of an option, which must not be empty and not be given twice. -/
def set (given : Given) (option value : String) : Except Stop Given :=
  if value.isEmpty || (given.values.lookup option).isSome then .error .misuse
  else .ok { given with values := given.values ++ [(option, value)] }

/-- With one more operand, which must not be empty; there are `limit` at most. -/
def add (given : Given) (limit : Nat) (operand : String) : Except Stop Given :=
  if operand.isEmpty || limit ≤ given.operands.length then .error .misuse
  else .ok { given with operands := given.operands ++ [operand] }

/-- With more to be logged, which is asked for once. -/
def raise (given : Given) : Except Stop Given :=
  if given.verbose then .error .misuse else .ok { given with verbose := true }

end Given

/-- Short options written together, with the option that waits for its value. -/
def readShort (options : List CommandOption) : Given → List Char → Except Stop (Given × Option String)
  | given, [] => .ok (given, none)
  | given, 'v' :: rest => do readShort options (← given.raise) rest
  | _, 'h' :: _ => .error .help
  | given, c :: rest =>
    match options.find? (·.short = some c) with
    | none => .error .misuse
    | some option =>
      match rest with
      | [] => .ok (given, some option.long)
      | '=' :: value => do return (← given.set option.long (String.ofList value), none)
      | value => do return (← given.set option.long (String.ofList value), none)

/-- A long option behind its dashes, with the option that waits for its value. -/
def readLong (options : List CommandOption) (given : Given) (cs : List Char) : Except Stop (Given × Option String) :=
  let (name, value) := match Text.cutAt ['='] cs with
    | some (name, value) => (String.ofList name, some (String.ofList value))
    | none => (String.ofList cs, none)
  match name, value with
  | "help", none => .error .help
  | "verbose", none => do return (← given.raise, none)
  | _, _ =>
    match options.find? (·.long = name), value with
    | none, _ => .error .misuse
    | some option, some value => do return (← given.set option.long value, none)
    | some option, none => .ok (given, some option.long)

/-- The words of a command; `waiting` is the option that the next word is the value of. -/
def readWords (options : List CommandOption) (limit : Nat) : Given → (waiting : Option String) → List String →
    Except Stop Given
  | given, none, [] => .ok given
  | _, some _, [] => .error .misuse
  | given, waiting, arg :: rest =>
    match waiting, arg.toList with
    | none, ['-', '-'] => rest.foldlM (·.add limit) given
    | none, '-' :: '-' :: cs => do
      let (given, waiting) ← readLong options given cs
      readWords options limit given waiting rest
    | none, '-' :: c :: cs => do
      let (given, waiting) ← readShort options given (c :: cs)
      readWords options limit given waiting rest
    | none, _ => do readWords options limit (← given.add limit arg) none rest
    | some _, '-' :: _ :: _ => .error .misuse
    | some option, _ => do readWords options limit (← given.set option arg) none rest

/-- The command of a name with what was given for it. -/
def command? (name : CommandName) (given : Given) : Option Command :=
  let path? := fun (option : String) => (given.values.lookup option).map SourcePath.mk
  let root := (path? "root").getD ⟨"."⟩
  match name, given.operands with
  | .analyze, [] => some (.analyze root (path? "config") (path? "hints") (path? "output"))
  | .facts, [] => some (.facts root (path? "config"))
  | .callGraph, [file] => some (.callGraph ⟨file⟩)
  | .compare, [old, new] => some (.compare ⟨old⟩ ⟨new⟩)
  | .version, [] => some .version
  | _, _ => none

/-- What the words behind the name of a command ask for. -/
def readCommand (name : CommandName) (args : List String) : Invocation :=
  match name with
  | .help =>
    match args with
    | [] => .help none
    | [word] =>
      match CommandName.ofWord? word with
      | some topic => .help (some topic)
      | none => .misuse
    | _ => .misuse
  | _ =>
    match readWords name.options name.operands.length {} none args with
    | .error .help => .help (some name)
    | .error .misuse => .misuse
    | .ok given => ((command? name given).map Invocation.run).getD .misuse

/-- What words ask for when the options before the command have been read so far. -/
def readFrom : Given → List String → Invocation
  | _, [] => .misuse
  | given, arg :: rest =>
    let read : Option (Except Stop Given) := match arg.toList with
      | ['-', '-'] => some (.error .misuse)
      | '-' :: '-' :: cs => some ((readLong [] given cs).map (·.1))
      | '-' :: c :: cs => some ((readShort [] given (c :: cs)).map (·.1))
      | _ => none
    match read with
    | some (.ok given) => readFrom given rest
    | some (.error .help) => .help none
    | some (.error .misuse) => .misuse
    | none =>
      match CommandName.ofWord? arg with
      | some name => readCommand name rest
      | none => .misuse

/-- **What a command line asks for.** -/
def read (args : List String) : Invocation :=
  readFrom {} args

end CommandLine

end WorkflowAtlas
