import WorkflowAtlas.Callee
import WorkflowAtlas.Reachability
import WorkflowAtlas.Facts.Basic

/-!
# What reaches a language model

A function reaches a language model when it calls one, when it calls a function of a name that some
function which reaches one has, whatever file it is in, or when it sends a request to a route whose
function reaches one. The **flag** of a function says so; it is found by a search from the functions
that call a language model back to their callers.
-/

namespace WorkflowAtlas

/-- **A function by file and name.** Two writings of one path are one file. -/
structure FunctionKey where
  file : List Component
  name : String
  deriving DecidableEq, Repr

/-- The key of a function in a file. -/
def FunctionKey.of (file : SourcePath) (name : String) : FunctionKey :=
  ⟨file.components, name⟩

/-- **A symbol table**: the functions of a repository by file and name, in order. -/
abbrev SymbolTable := List (SourcePath × String)

namespace SymbolTable

/-- The table with one more function. -/
def insert (table : SymbolTable) (file : SourcePath) (name : String) : SymbolTable :=
  table ++ [(file, name)]

/-- The functions of a name, whatever file they are in. -/
def lookup (table : SymbolTable) (name : String) : SymbolTable :=
  table.filter (·.2 == name)

/-- The functions of some files. -/
def ofFiles (files : List FileFacts) : SymbolTable :=
  files.flatMap fun file => file.functions.map fun function => (file.file, function.name)

end SymbolTable

/-- A step of the search: from a called key to a calling key. -/
structure CallStep where
  callee : FunctionKey
  caller : FunctionKey
  deriving DecidableEq, Repr

/-- The steps that calls make: a callee leads to every function with its simple name. -/
def nameSteps (files : List FileFacts) : List CallStep :=
  let symbols := SymbolTable.ofFiles files
  files.flatMap fun file => file.functions.flatMap fun function => function.calls.flatMap fun callee =>
    (symbols.lookup (Callee.simpleName callee)).map fun (target, name) =>
      ⟨.of target name, .of file.file function.name⟩

/-- The steps that requests make, those of code outside of functions left out. -/
def requestSteps (connections : List Connection) : List CallStep :=
  (connections.filter (·.client.function != moduleScope)).map fun connection =>
    ⟨.of connection.handler.file connection.handler.function, .of connection.client.file connection.client.function⟩

/-- Every step of a repository. -/
def callSteps (files : List FileFacts) (connections : List Connection) : List CallStep :=
  nameSteps files ++ requestSteps connections

/-- The keys that call a key. -/
def callersOf (steps : List CallStep) (key : FunctionKey) : List FunctionKey :=
  (steps.filter (·.callee == key)).map (·.caller)

/-- The keys of the functions that call a language model. -/
def callingKeys (files : List FileFacts) : List FunctionKey :=
  files.flatMap fun file => (file.functions.filter (·.callsLlm)).map fun function => .of file.file function.name

/-- **The keys that reach a language model**, each once. -/
def flaggedKeys (files : List FileFacts) (connections : List Connection) : List FunctionKey :=
  let steps := callSteps files connections
  reachedFrom (callersOf steps) steps.length (callingKeys files)

/-- A file with the flags of its functions set. -/
def FileFacts.withFlags (flagged : List FunctionKey) (facts : FileFacts) : FileFacts :=
  { facts with functions := facts.functions.map fun function =>
      { function with hasLlmCall := FunctionKey.of facts.file function.name ∈ flagged } }

/-- **The files with the flags of their functions set**, whatever the flags were. -/
def propagateFlags (files : List FileFacts) (connections : List Connection) : List FileFacts :=
  files.map (·.withFlags (flaggedKeys files connections))

end WorkflowAtlas
