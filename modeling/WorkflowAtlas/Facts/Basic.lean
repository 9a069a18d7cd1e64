import WorkflowAtlas.Http.Matching
import WorkflowAtlas.Language

/-!
# Facts about source files

What is read off the files of a repository: the **functions** of a file with their calls, its
**imports** and **exports**, the HTTP **requests** it sends and the **routes** it serves; and what is
found by linking files: a request **connected** with a route, a call that leaves its file.
-/

namespace WorkflowAtlas

/-- One occurrence of a call in a function. -/
structure CallSite where
  callee : String
  line : Nat
  deriving DecidableEq, Repr, Inhabited

/-- **A request** that is sent. -/
structure Request where
  file : SourcePath
  line : Nat
  function : String
  method : String
  /-- The endpoint as it is written, and its normal form. -/
  rawPath : String
  path : String
  deriving DecidableEq, Repr, Inhabited

/-- How a route was recognised. -/
inductive RouteSource where
  | decorator
  | routerCall
  | fileConvention
  deriving DecidableEq, Repr, Inhabited

namespace RouteSource

def all : List RouteSource :=
  [.decorator, .routerCall, .fileConvention]

def name : RouteSource → String
  | .decorator => "decorator"
  | .routerCall => "router-call"
  | .fileConvention => "file-convention"

def ofName? (text : String) : Option RouteSource :=
  all.find? (·.name == text)

end RouteSource

/-- **A route**: a function that serves a verb and a path. -/
structure RouteHandler where
  file : SourcePath
  line : Nat
  function : String
  method : String
  rawPath : String
  path : String
  detectedBy : RouteSource
  deriving DecidableEq, Repr, Inhabited

/-- **A function** and what it calls. Its name is the only one of its kind in its file. -/
structure FunctionFacts where
  name : String
  file : SourcePath
  startLine : Nat
  endLine : Nat
  params : List String := []
  isAsync : Bool := false
  isExported : Bool := false
  /-- The callees in the order they are first called, each once. -/
  calls : List String := []
  callSites : List CallSite := []
  /-- The callees that reach a language model directly. -/
  llmCalls : List String := []
  /-- Whether the function or something it calls, at any distance, reaches a language model. -/
  hasLlmCall : Bool := false
  requests : List Request := []
  deriving DecidableEq, Repr, Inhabited

namespace FunctionFacts

/-- Whether the function itself calls a language model. -/
def callsLlm (function : FunctionFacts) : Bool :=
  !function.llmCalls.isEmpty

/-- The first line on which a callee is called, or else the line of the definition. -/
def callLine (function : FunctionFacts) (callee : String) : Nat :=
  ((function.callSites.find? (·.callee == callee)).map (·.line)).getD function.startLine

end FunctionFacts

/-- A name that an import brings in, and the name it is given here. -/
structure ImportedName where
  name : String
  asName : Option String := none
  deriving DecidableEq, Repr, Inhabited

/-- The name that the importing file uses. -/
def ImportedName.localName (imported : ImportedName) : String :=
  imported.asName.getD imported.name

/-- **An import**: its source as it is written, the names it brings in, and the name that the whole
module is bound to. -/
structure Import where
  source : String
  names : List ImportedName := []
  asName : Option String := none
  line : Nat
  deriving DecidableEq, Repr, Inhabited

/-- **Everything read off one file.** -/
structure FileFacts where
  file : SourcePath
  language : Option Language := none
  functions : List FunctionFacts := []
  imports : List Import := []
  exports : List String := []
  routes : List RouteHandler := []
  requests : List Request := []
  deriving DecidableEq, Repr, Inhabited

namespace FileFacts

/-- The function of a name. -/
def function? (facts : FileFacts) (name : String) : Option FunctionFacts :=
  facts.functions.find? (·.name == name)

/-- Whether nothing was read off the file. -/
def isEmpty (facts : FileFacts) : Bool :=
  facts.functions.isEmpty && facts.imports.isEmpty && facts.exports.isEmpty && facts.routes.isEmpty &&
    facts.requests.isEmpty

end FileFacts

/-- **A connection**: a request and the route that serves it. -/
structure Connection where
  client : Request
  handler : RouteHandler
  confidence : Http.Confidence
  deriving DecidableEq, Repr, Inhabited

/-- Where a call leaves its file. -/
structure CallerPlace where
  file : SourcePath
  function : String
  line : Nat
  deriving DecidableEq, Repr, Inhabited

/-- Where a call arrives; `module` is the name under which the file was imported. -/
structure CalleePlace where
  file : SourcePath
  function : String
  module : Option String := none
  deriving DecidableEq, Repr, Inhabited

/-- **A call across files.** -/
structure CrossFileCall where
  caller : CallerPlace
  callee : CalleePlace
  deriving DecidableEq, Repr, Inhabited

/-- The function name for code outside of every function. -/
def moduleScope : String := "<module>"

end WorkflowAtlas
