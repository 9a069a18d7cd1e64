import WorkflowAtlas.Grammar.Basic
import WorkflowAtlas.Http.Endpoint
import WorkflowAtlas.Http.Verb
import WorkflowAtlas.Http.Objects

/-!
# Routes and requests in calls

A call on a router object whose name is a verb **registers a route** when a function comes behind the
path; a decorator on a definition declares routes; a call on a client object whose name is a verb,
or a call of `fetch`, **sends a request**.
-/

namespace WorkflowAtlas

open WorkflowAtlas.Http

/-- **What serves a route**: a function by its name, or one that is written in place. -/
inductive Server where
  | named (function : String)
  | inline (function : ParseTree)
  deriving Inhabited

/-- **A route as it is registered.** -/
structure Registration where
  method : String
  rawPath : String
  path : String
  server : Server
  deriving Inhabited

/-- The function that a registration hands over: the last argument behind the path that is a function
literal or, where references count, refers to a function. -/
def server? (references : Bool) (arguments : List ParseTree) : Option Server := do
  let argument ← arguments.reverse.find? fun argument =>
    argument.isFunctionLiteral || (references && argument.isFunctionReference)
  if argument.isFunctionLiteral then some (.inline argument)
  else some (.named (Callee.simpleName argument.calleeText))

/-- **The route that a call registers.** On an object that is a client as well, only a function literal
tells a route from a request. -/
def registration? (objects : Objects) (callee : String) (arguments : List ParseTree) : Option Registration := do
  let object ← Callee.receiver? callee
  if !objects.isRouter object then none
  let method ← verb? (Callee.simpleName callee)
  let (rawPath, behind) ← ParseTree.firstString? arguments
  let path ← endpoint? rawPath
  let server ← server? (!objects.isClient object) behind
  some { method, rawPath, path, server }

/-- The strings in a keyword argument: `methods=["GET", "POST"]`. -/
def keywordStrings (keyword : String) (arguments : List ParseTree) : List String :=
  arguments.flatMap fun argument =>
    if argument.kind = "keyword_argument" && (argument.child? "name").any (·.text == keyword) then
      match argument.child? "value" with
      | some value => value.parts.filterMap ParseTree.stringValue?
      | none => []
    else []

/-- The verbs that a decorator declares: its own name, or those in a list, `GET` when it has none. -/
def declaredVerbs (name : String) (arguments : List ParseTree) : List String :=
  if name = "route" || name = "api_route" then
    match (keywordStrings "methods" arguments).filterMap verb? with
    | [] => ["GET"]
    | verbs => verbs
  else (verb? name).toList

/-- **The routes that a decorator declares**: verb, path as written, path. -/
def declaredRoutes (objects : Objects) (callee : String) (arguments : List ParseTree) :
    List (String × String × String) :=
  let route? : Option (String × String) := do
    let object ← Callee.receiver? callee
    if !objects.isRouter object then none
    let (rawPath, _) ← ParseTree.firstString? arguments
    some (rawPath, ← endpoint? rawPath)
  match route? with
  | none => []
  | some (rawPath, path) =>
    (declaredVerbs (Callee.simpleName callee) arguments).map fun verb => (verb, rawPath, path)

/-- The verb in the options of a `fetch`: `{ method: 'POST' }`. -/
def optionsVerb? (options : ParseTree) : Option String := do
  let pair ← options.parts.find? fun pair =>
    pair.kind == "pair" && (pair.child? "key").any fun key => Literal.content key.text == "method"
  verb? (← (← pair.child? "value").stringValue?)

/-- Whether a callee is the global `fetch`. -/
def isFetch (callee : String) : Bool :=
  Callee.simpleName callee == "fetch" &&
    (Callee.receiver? callee).all fun object => object ∈ ["window", "globalThis", "self"]

/-- **The request that a call sends**: verb and path as written. -/
def sentRequest? (objects : Objects) (callee : String) (arguments : List ParseTree) : Option (String × String) :=
  if isFetch callee then do
    let (rawPath, behind) ← ParseTree.firstString? arguments
    some ((behind.head?.bind optionsVerb?).getD "GET", rawPath)
  else do
    let object ← Callee.receiver? callee
    if !objects.isClient object then none
    let method ← verb? (Callee.simpleName callee)
    let (rawPath, _) ← ParseTree.firstString? arguments
    some (method, rawPath)

end WorkflowAtlas
