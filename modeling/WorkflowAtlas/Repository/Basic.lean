import WorkflowAtlas.Repository.CrossFile
import WorkflowAtlas.Repository.Flags
import WorkflowAtlas.Scan.Views

/-!
# Repositories

A **repository** is the facts of its files, linked: requests are connected with the routes that match
them, the flags of functions are set, and calls are followed across files.
-/

namespace WorkflowAtlas

/-- **Every request with every route that it matches.** -/
def connect (requests : List Request) (routes : List RouteHandler) : List Connection :=
  requests.flatMap fun client => routes.filterMap fun handler =>
    (Http.matchPaths handler.path client.path handler.method client.method).map fun confidence =>
      { client, handler, confidence }

/-- **The linked facts of a repository.** -/
structure Repository where
  files : List FileFacts
  requests : List Request
  routes : List RouteHandler
  connections : List Connection
  crossFileCalls : List CrossFileCall
  deriving Repr, Inhabited

/-- A file of a repository before it is scanned. -/
structure SourceFile where
  path : SourcePath
  content : String
  tree : Option ParseTree
  deriving Inhabited

namespace Repository

/-- The repository of some files' facts, with their imports resolved against an index. -/
def linkWith (index : ModuleIndex) (files : List FileFacts) : Repository :=
  let requests := files.flatMap (·.requests)
  let routes := files.flatMap (·.routes)
  let connections := connect requests routes
  let files := propagateFlags files connections
  { files, requests, routes, connections, crossFileCalls := WorkflowAtlas.crossFileCalls index files }

/-- **The repository of some files' facts.** -/
def link (files : List FileFacts) : Repository :=
  linkWith (.ofPaths (files.map (·.file))) files

/-- The facts of the file at a path. -/
def file? (repository : Repository) (path : SourcePath) : Option FileFacts :=
  repository.files.find? fun facts => facts.file.components = path.normalize.components

/-- The function of a name in the file at a path. -/
def function? (repository : Repository) (path : SourcePath) (name : String) : Option FunctionFacts :=
  (repository.file? path).bind (·.function? name)

def toJson (repository : Repository) : Json :=
  .obj [("files", .arr (repository.files.map FileFacts.toJson)),
    ("httpClientCalls", .arr (repository.requests.map Request.toJson)),
    ("httpRouteHandlers", .arr (repository.routes.map RouteHandler.toJson)),
    ("httpConnections", .arr (repository.connections.map Connection.toJson)),
    ("crossFileCalls", .arr (repository.crossFileCalls.map CrossFileCall.toJson))]

end Repository

/-- The facts of a file in a repository, under its normal path; a file that is not scanned keeps its
language. -/
def Analyzer.repositoryFile? (analyzer : Analyzer) (file : SourceFile) : Option FileFacts :=
  (Language.ofPath? file.path).map fun _ =>
    let path := file.path.normalize.toPath
    let facts := analyzer.fileFacts path file.content file.tree
    { facts with language := facts.language.or (Language.ofPath? path) }

/-- **The repository of some files.** Files of no known language are left out. -/
def Analyzer.repository (analyzer : Analyzer) (files : List SourceFile) : Repository :=
  .link (files.filterMap analyzer.repositoryFile?)

end WorkflowAtlas
