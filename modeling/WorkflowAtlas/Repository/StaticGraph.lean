import WorkflowAtlas.Repository.Basic
import WorkflowAtlas.Workflow.Basic

/-!
# The workflow graph of a repository

One node for each function that reaches a language model, edges for the calls between them, and
labelled edges for the requests. A call goes to the function of its name in the same file, else to
where it was followed across files, else to every function of its name.
-/

namespace WorkflowAtlas

/-- **The id of a function's node**: its file and its name. -/
def nodeId (file : SourcePath) (function : String) : String :=
  file.slashed ++ "::" ++ function

/-- A function that has a node, with the node's id. -/
structure RelatedFunction where
  id : String
  facts : FunctionFacts
  deriving Repr, Inhabited

namespace Repository

/-- The functions that reach a language model, in order. -/
def related (repository : Repository) : List RelatedFunction :=
  repository.files.flatMap fun file =>
    (file.functions.filter (·.hasLlmCall)).map fun function => ⟨nodeId file.file function.name, function⟩

/-- The node where a call of a name from a node arrives across files; of several the last. -/
def crossTarget? (repository : Repository) (source name : String) : Option String :=
  (repository.crossFileCalls.reverse.find? fun call =>
    nodeId call.caller.file call.caller.function == source && call.callee.function == name).map fun call =>
      nodeId call.callee.file call.callee.function

/-- The nodes that a callee of a function leads to, `related` being the functions that have nodes. -/
def callTargets (repository : Repository) (related : List RelatedFunction) (function : RelatedFunction)
    (callee : String) : List String :=
  let name := Callee.simpleName callee
  let sameFile := nodeId function.facts.file name
  let isRelated := fun (id : String) => related.any (·.id == id)
  let targets :=
    if isRelated sameFile then [sameFile]
    else
      match repository.crossTarget? function.id name with
      | some target => [target]
      | none => (related.filter (·.facts.name == name)).map (·.id)
  targets.filter isRelated

/-- The edges of calls, as they come. -/
def callEdges (repository : Repository) : List FlowEdge :=
  let related := repository.related
  related.flatMap fun function => function.facts.calls.flatMap fun callee =>
    (repository.callTargets related function callee).map fun target => { source := function.id, target }

/-- The verb and path of a route, as an edge or a description has them. -/
def routeLabel (route : RouteHandler) : String :=
  route.method ++ " " ++ route.path

/-- The edges of requests, as they come; those of code outside of functions are left out. -/
def requestEdges (repository : Repository) : List FlowEdge :=
  let related := repository.related
  repository.connections.filterMap fun connection =>
    if connection.client.function = moduleScope then none
    else
      let source := nodeId connection.client.file connection.client.function
      let target := nodeId connection.handler.file connection.handler.function
      if related.any (·.id == source) && related.any (·.id == target) then
        some { source, target, label := some (routeLabel connection.handler) }
      else none

/-- **The edges of the graph**: no loops, and of edges with one key the first. -/
def flowEdges (repository : Repository) : List FlowEdge :=
  ((repository.callEdges ++ repository.requestEdges).filter fun edge => edge.source != edge.target).eraseDupsBy
    fun a b => a.key == b.key

/-- The label of the route that a node serves; of several the last. -/
def routeOf? (repository : Repository) (id : String) : Option String :=
  (repository.routes.reverse.find? fun route => nodeId route.file route.function == id).map routeLabel

/-- The node of a function. -/
def flowNode (repository : Repository) (edges : List FlowEdge) (function : RelatedFunction) : FlowNode :=
  let route := repository.routeOf? function.id
  let kind : NodeKind :=
    if function.facts.callsLlm then .llm none
    else if route.isSome || !edges.any (·.target == function.id) then .trigger
    else .tool
  { id := function.id
    label := function.facts.name
    kind
    description := route
    source := some ⟨function.facts.file.slashed, function.facts.startLine, function.facts.name⟩
    isEntryPoint := kind == .trigger
    isExitPoint := !edges.any (·.source == function.id) }

/-- **The workflow graph of a repository.** -/
def flowGraph (repository : Repository) : List FlowNode × List FlowEdge :=
  let edges := repository.flowEdges
  (repository.related.map (repository.flowNode edges), edges)

end Repository

end WorkflowAtlas
