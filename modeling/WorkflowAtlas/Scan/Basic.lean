import WorkflowAtlas.Recognizer
import WorkflowAtlas.Grammar.Table
import WorkflowAtlas.Http.Convention
import WorkflowAtlas.Scan.Binding
import WorkflowAtlas.Scan.Traffic

/-!
# Scanning a file

A **scan** reads every fact off one parse tree. Definitions and the functions that are written in
place for a route own the bytes they span, and each call that registers no route is **attributed** to
the smallest span around its first byte. What a function calls, which of it reaches a language model
and what it requests are then three readings of one list of attributed calls.
-/

namespace WorkflowAtlas

/-- **What a scan is told**: settings that were read and route conventions. -/
structure Analyzer where
  recognizer : Recognizer
  objects : Http.Objects
  conventions : List Http.Convention := Http.Convention.all
  trackBindings : Bool
  deriving Inhabited

/-- The analyzer of some settings, or the first text that is no pattern. -/
def Analyzer.ofSettings (settings : Settings) (conventions : List Http.Convention) : Except String Analyzer := do
  return {
    recognizer := ← Recognizer.ofPatterns settings.llm
    objects := settings.http
    conventions
    trackBindings := settings.llm.trackBindings }

/-! ## What the queries find -/

/-- A definition: its node and its name. -/
structure Definition where
  name : String
  node : ParseTree
  deriving Inhabited

/-- A call: its node and its callee. -/
structure FoundCall where
  node : ParseTree
  callee : String
  deriving Inhabited

/-- The nodes that a query captures as its subject. -/
def Query.subjects (query : Query) (root : ParseTree) : List ParseTree :=
  (query.run root).filterMap (·.get? .subject)

namespace Grammar

/-- **The definitions** of a tree. -/
def definitions (grammar : Grammar) (root : ParseTree) : List Definition :=
  (grammar.functions.run root).filterMap fun captures => do
    let node ← captures.get? .subject
    return ⟨← grammar.functionName? node (captures.get? .name), node⟩

/-- **The calls** of a tree. -/
def foundCalls (grammar : Grammar) (root : ParseTree) : List FoundCall :=
  (grammar.calls.run root).filterMap fun captures => do
    let node ← captures.get? .subject
    let callee ← grammar.callee? node (captures.get? .callee)
    if callee.isEmpty then none else some ⟨node, callee⟩

/-- The names that a tree declares exported; without a declaration there are none to go by. -/
def declaredExports (grammar : Grammar) (root : ParseTree) : Option (List String) :=
  match grammar.exports.subjects root with
  | [] => none
  | nodes => some (nodes.flatMap grammar.exportsOf)

/-- The bindings of a tree. -/
def foundBindings (grammar : Grammar) (root : ParseTree) : List Binding :=
  (grammar.bindings.run root).filterMap fun captures => do
    let name ← captures.get? .name
    let value ← captures.get? .value
    return .ofText name.calleeText value.unwrapped.calleeText

end Grammar

/-! ## Ownership -/

/-- **A span** of bytes and the function that owns it. -/
structure Span where
  start : Nat
  stop : Nat
  owner : String
  deriving DecidableEq, Repr, Inhabited

namespace Span

/-- The span of a node. -/
def ofNode (owner : String) (node : ParseTree) : Span :=
  ⟨node.label.start, node.label.stop, owner⟩

def contains (span : Span) (byte : Nat) : Bool :=
  span.start ≤ byte && byte < span.stop

def width (span : Span) : Nat :=
  span.stop - span.start

/-- The first narrowest of some spans. -/
def narrowest? : List Span → Option Span
  | [] => none
  | span :: rest =>
    match narrowest? rest with
    | none => some span
    | some other => if span.width ≤ other.width then some span else some other

end Span

/-- **The owner of a byte**: the function of the narrowest span around it, of several the first. -/
def owner? (spans : List Span) (byte : Nat) : Option String :=
  (Span.narrowest? (spans.filter (·.contains byte))).map (·.owner)

/-- **A call and whom it belongs to.** A call outside of every function has no owner. -/
structure AttributedCall where
  callee : String
  line : Nat
  owner : Option String
  isLlm : Bool
  request : Option Request
  deriving DecidableEq, Repr, Inhabited

/-- A call that reaches a language model, with the function around it. -/
structure LlmCallSite where
  function : String
  callee : String
  line : Nat
  deriving DecidableEq, Repr, Inhabited

namespace AttributedCall

/-- The function around a call, or the word for none. -/
def ownerName (call : AttributedCall) : String :=
  call.owner.getD moduleScope

/-- The calls that belong to a function. -/
def ownedBy (function : String) (calls : List AttributedCall) : List AttributedCall :=
  calls.filter (·.owner == some function)

/-- The sites of a function's calls that are not built in. -/
def sites (isBuiltin : String → Bool) (calls : List AttributedCall) : List CallSite :=
  (calls.filter fun call => !isBuiltin call.callee).map fun call => ⟨call.callee, call.line⟩

/-- The callees that reach a language model, each once. -/
def llmCallees (calls : List AttributedCall) : List String :=
  ((calls.filter (·.isLlm)).map (·.callee)).eraseDups

/-- The sites at which a language model is reached. -/
def llmSites (calls : List AttributedCall) : List LlmCallSite :=
  (calls.filter (·.isLlm)).map fun call => ⟨call.ownerName, call.callee, call.line⟩

/-- The requests that calls send. -/
def requests (calls : List AttributedCall) : List Request :=
  calls.filterMap (·.request)

end AttributedCall

/-! ## The scan -/

/-- The function of a definition, its calls not yet filled in. -/
def Definition.facts (grammar : Grammar) (file : SourcePath) (declared : Option (List String)) (definition : Definition) :
    FunctionFacts where
  name := definition.name
  file := file
  startLine := definition.node.line
  endLine := definition.node.lastLine
  params := grammar.params definition.node
  isAsync := Grammar.isAsync definition.node
  isExported := grammar.isExported definition.node definition.name declared

/-- A route that a call registers. -/
structure FoundRoute where
  call : FoundCall
  registration : Registration
  deriving Inhabited

namespace FoundRoute

/-- The name of the function that serves the route; one written in place is named for it. -/
def functionName (route : FoundRoute) : String :=
  match route.registration.server with
  | .named function => function
  | .inline _ => route.registration.method ++ " " ++ route.registration.path

/-- The function that is written in place for the route. -/
def inline? (route : FoundRoute) : Option Definition :=
  match route.registration.server with
  | .named _ => none
  | .inline node => some ⟨route.functionName, node⟩

def handler (file : SourcePath) (route : FoundRoute) : RouteHandler where
  file := file
  line := route.call.node.line
  function := route.functionName
  method := route.registration.method
  rawPath := route.registration.rawPath
  path := route.registration.path
  detectedBy := .routerCall

end FoundRoute

/-- The routes that decorators declare. -/
def decoratorRoutes (grammar : Grammar) (objects : Http.Objects) (file : SourcePath) (root : ParseTree) :
    List RouteHandler :=
  (grammar.decorated.run root).flatMap fun captures =>
    match captures.get? .subject, captures.get? .name with
    | some node, some name =>
      (grammar.decorators node).flatMap fun decorator =>
        match decorator.child? "function" with
        | none => []
        | some callee =>
          (declaredRoutes objects callee.calleeText decorator.arguments).map fun (method, rawPath, path) =>
            { file, line := decorator.line, function := name.text, method, rawPath, path, detectedBy := .decorator }
    | _, _ => []

/-- The routes that the place of a file declares: its exported functions that are named for verbs. -/
def conventionRoutes (conventions : List Http.Convention) (file : SourcePath) (functions : List FunctionFacts) :
    List RouteHandler :=
  match conventions.findSome? (·.route? file) with
  | none => []
  | some route =>
    (functions.filter fun function => function.isExported && function.name ∈ Http.verbs).map fun function =>
      { file, line := function.startLine, function := function.name, method := function.name, rawPath := route,
        path := (Http.endpoint? route).getD route, detectedBy := .fileConvention }

/-- **The result of a scan.** -/
structure Scan where
  facts : FileFacts
  mightContainLlm : Bool
  /-- The variables that hold clients. -/
  llmVariables : List String
  llmSites : List LlmCallSite
  deriving Repr, Inhabited

namespace Analyzer

/-- The routes that calls register. -/
def foundRoutes (analyzer : Analyzer) (calls : List FoundCall) : List FoundRoute :=
  calls.filterMap fun call =>
    (registration? analyzer.objects call.callee call.node.arguments).map fun registration => ⟨call, registration⟩

/-- Whether a callee reaches a language model, by its text or through a variable. -/
def isLlmCallee (analyzer : Analyzer) (variableNames : List String) (callee : String) : Bool :=
  analyzer.recognizer.isCall callee || variableNames.any (Callee.isMemberOf callee)

/-- The request that a call sends. -/
def request? (analyzer : Analyzer) (file : SourcePath) (function : String) (call : FoundCall) : Option Request := do
  let (method, rawPath) ← sentRequest? analyzer.objects call.callee call.node.arguments
  let path ← Http.endpoint? rawPath
  return { file, line := call.node.line, function, method, rawPath, path }

/-- A call with its owner. -/
def attributeCall (analyzer : Analyzer) (file : SourcePath) (spans : List Span) (variableNames : List String)
    (call : FoundCall) : AttributedCall :=
  let owner := owner? spans call.node.label.start
  { callee := call.callee
    line := call.node.line
    owner
    isLlm := analyzer.isLlmCallee variableNames call.callee
    request := analyzer.request? file (owner.getD moduleScope) call }

/-- A function with its share of the attributed calls. -/
def fill (grammar : Grammar) (calls : List AttributedCall) (function : FunctionFacts) : FunctionFacts :=
  let own := AttributedCall.ownedBy function.name calls
  let sites := AttributedCall.sites grammar.isBuiltin own
  let llmCalls := AttributedCall.llmCallees own
  { function with
    calls := (sites.map (·.callee)).eraseDups
    callSites := sites
    llmCalls
    hasLlmCall := !llmCalls.isEmpty
    requests := AttributedCall.requests own }

/-- **The scan of a file.** -/
def scan (analyzer : Analyzer) (language : Language) (file : SourcePath) (code : String) (root : ParseTree) : Scan :=
  let grammar := language.grammar
  let definitions := grammar.definitions root
  let declared := grammar.declaredExports root
  let calls := grammar.foundCalls root
  let routes := analyzer.foundRoutes calls
  let inlined := routes.filterMap (·.inline?)
  let defined := definitions.map (·.facts grammar file declared)
  let written := inlined.map fun definition =>
    { name := definition.name, file, startLine := definition.node.line, endLine := definition.node.lastLine }
  let functions := (defined ++ written).eraseDupsBy fun a b => a.name == b.name
  let spans := (definitions ++ inlined).map fun definition => Span.ofNode definition.name definition.node
  let mightContainLlm := analyzer.recognizer.isHint code
  let llmVariables :=
    if analyzer.trackBindings && mightContainLlm then
      Binding.clientNames analyzer.recognizer.isIdentifier (grammar.foundBindings root)
    else []
  let registering := routes.map (·.call.node.place)
  let attributed := (calls.filter fun call => call.node.place ∉ registering).map
    (analyzer.attributeCall file spans llmVariables)
  { facts :=
      { file
        language := some language
        functions := functions.map (fill grammar attributed)
        imports := (grammar.imports.subjects root).flatMap (grammar.importsOf root)
        exports := sortedTexts (declared.getD [] ++ (functions.filter (·.isExported)).map (·.name))
        routes := routes.map (·.handler file) ++ decoratorRoutes grammar analyzer.objects file root
          ++ conventionRoutes analyzer.conventions file functions
        requests := AttributedCall.requests attributed }
    mightContainLlm
    llmVariables
    llmSites := AttributedCall.llmSites attributed }

/-- **The scan of a file that is read**: it has a language by its name, a text that is not blank and a
parse tree. -/
def scan? (analyzer : Analyzer) (file : SourcePath) (code : String) (tree : Option ParseTree) : Option Scan := do
  let language ← Language.ofPath? file
  if Text.isAllBlank code then none
  return analyzer.scan language file code (← tree)

theorem scan?_eq_some {analyzer : Analyzer} {file : SourcePath} {code : String} {tree : Option ParseTree} {scan : Scan} :
    analyzer.scan? file code tree = some scan ↔ ∃ language, Language.ofPath? file = some language ∧
      Text.isAllBlank code = false ∧ ∃ root, tree = some root ∧ analyzer.scan language file code root = scan := by
  unfold scan?
  cases Language.ofPath? file with
  | none => simp
  | some language =>
    cases Text.isAllBlank code with
    | true => simp
    | false => cases tree <;> simp

end Analyzer

end WorkflowAtlas
