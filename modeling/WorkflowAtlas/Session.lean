import WorkflowAtlas.Repository.Basic

/-!
# Editor sessions

A **session** keeps the last parse tree of each path that is parsed under its name and hands trees out.
It counts the trees it hands out and takes back, and those it stores and evicts. Parsing itself is done
outside: a step is given its outcome, a tree or none.

The counters and what they count are kept apart: the trees that are out, the paths that have a tree.

A host works with a session one **action** at a time. Extracting from files is such an action: it parses
and takes the trees back by itself.
-/

namespace WorkflowAtlas

/-- **A session.** -/
structure Session where
  /-- Whether the parsers are loaded. -/
  ready : Bool := false
  /-- The paths that have a stored tree. -/
  stored : List (List Component) := []
  /-- The trees that are out, the oldest first. -/
  out : List ParseTree := []
  acquisitions : Nat := 0
  releases : Nat := 0
  stores : Nat := 0
  evictions : Nat := 0
  deriving Inhabited

namespace Session

/-- Whether as many trees came back as went out, and as many were evicted as were stored. -/
def isBalanced (session : Session) : Bool :=
  session.acquisitions = session.releases && session.stores = session.evictions

/-- Loads the parsers. -/
def init (session : Session) : Session :=
  { session with ready := true }

/-- Whether a path has a stored tree. -/
def hasTree (session : Session) (path : SourcePath) : Bool :=
  path.components ∈ session.stored

/-- A tree is stored under a path; one that was there is evicted. -/
def store (session : Session) (path : SourcePath) : Session :=
  { session with
    stored := session.stored.filter (· != path.components) ++ [path.components]
    stores := session.stores + 1
    evictions := session.evictions + if session.hasTree path then 1 else 0 }

/-- **A parse**: its tree is stored when it has a path, and goes out. A parse without a tree loads the
parsers and changes nothing else. -/
def parse (session : Session) (path : Option SourcePath) (outcome : Option ParseTree) : Session :=
  let session := session.init
  match outcome with
  | none => session
  | some tree =>
    let session := match path with
      | some path => session.store path
      | none => session
    { session with out := session.out ++ [tree], acquisitions := session.acquisitions + 1 }

/-- A tree that is out comes back, by its place among them; whether there was one. -/
def release (session : Session) (place : Nat) : Session × Bool :=
  if place < session.out.length then
    ({ session with out := session.out.eraseIdx place, releases := session.releases + 1 }, true)
  else (session, false)

/-- Tells the stored tree of a path of an edit; whether there is one. Only its next parse shows the edit. -/
def edit (session : Session) (path : SourcePath) : Session × Bool :=
  (session, session.hasTree path)

/-- Forgets the tree of a path; whether it had one. -/
def invalidate (session : Session) (path : SourcePath) : Session × Bool :=
  if session.hasTree path then
    ({ session with
        stored := session.stored.filter (· != path.components)
        evictions := session.evictions + 1 }, true)
  else (session, false)

/-- Forgets every stored tree and unloads the parsers. Trees that are out stay out. -/
def dispose (session : Session) : Session :=
  { session with
    ready := false
    stored := []
    evictions := session.evictions + session.stored.length }

/-- **A scan in a session**: the file is parsed, under its path when `keep` says so, and the tree comes
back at once. A file without a language or with a blank text is not parsed. -/
def scan (session : Session) (analyzer : Analyzer) (keep : Bool) (file : SourcePath) (code : String)
    (tree : Option ParseTree) : Session × Option Scan :=
  if (Language.ofPath? file).isNone || Text.isAllBlank code then (session, none)
  else
    let session := session.parse (if keep then some file else none) tree
    match tree with
    | none => (session, none)
    | some _ => ((session.release (session.out.length - 1)).1, analyzer.scan? file code tree)

/-! ## Extraction -/

/-- **One reading of a file**, scanned in a session; `blank` is that of a file that is not scanned. -/
def extract {α : Type} (session : Session) (analyzer : Analyzer) (keep : Bool) (read : Scan → α) (blank : α)
    (file : SourcePath) (code : String) (tree : Option ParseTree) : Session × α :=
  let (session, scan) := session.scan analyzer keep file code tree
  (session, (scan.map read).getD blank)

def fileFacts (session : Session) (analyzer : Analyzer) (file : SourcePath) (code : String)
    (tree : Option ParseTree) : Session × FileFacts :=
  session.extract analyzer false (·.facts) { file } file code tree

def fileAnalysis (session : Session) (analyzer : Analyzer) (file : SourcePath) (code : String)
    (tree : Option ParseTree) : Session × FileAnalysis :=
  session.extract analyzer false Scan.analysis { file } file code tree

/-- The call graph of a file, whose tree is kept for the next one. -/
def fileCallGraph (session : Session) (analyzer : Analyzer) (file : SourcePath) (code : String)
    (tree : Option ParseTree) : Session × FileCallGraph :=
  session.extract analyzer true Scan.callGraph { file } file code tree

/-- The facts of a file in a repository, under its normal path. -/
def repositoryFile? (session : Session) (analyzer : Analyzer) (file : SourceFile) : Session × Option FileFacts :=
  match Language.ofPath? file.path with
  | none => (session, none)
  | some _ =>
    let path := file.path.normalize.toPath
    let (session, facts) := session.fileFacts analyzer path file.content file.tree
    (session, some { facts with language := facts.language.or (Language.ofPath? path) })

/-- The facts of the files of a repository, one after another. -/
def repositoryFiles (session : Session) (analyzer : Analyzer) : List SourceFile → Session × List FileFacts
  | [] => (session, [])
  | file :: rest =>
    let (session, facts) := session.repositoryFile? analyzer file
    let (session, others) := session.repositoryFiles analyzer rest
    (session, facts.toList ++ others)

/-- **The repository of some files.** -/
def repository (session : Session) (analyzer : Analyzer) (files : List SourceFile) : Session × Repository :=
  let (session, facts) := session.repositoryFiles analyzer files
  (session, .link facts)

/-! ## Actions -/

/-- **What a host does with a session.** Parsing may find a tree or none, whatever was parsed before. -/
inductive Action where
  | init
  | parse (path : Option SourcePath) (outcome : Option ParseTree)
  | release (place : Nat)
  | edit (path : SourcePath)
  | invalidate (path : SourcePath)
  | dispose
  | fileFacts (analyzer : Analyzer) (file : SourcePath) (code : String) (tree : Option ParseTree)
  | fileAnalysis (analyzer : Analyzer) (file : SourcePath) (code : String) (tree : Option ParseTree)
  | fileCallGraph (analyzer : Analyzer) (file : SourcePath) (code : String) (tree : Option ParseTree)
  | repository (analyzer : Analyzer) (files : List SourceFile)

/-- The session after an action. -/
def perform (session : Session) : Action → Session
  | .init => session.init
  | .parse path outcome => session.parse path outcome
  | .release place => (session.release place).1
  | .edit path => (session.edit path).1
  | .invalidate path => (session.invalidate path).1
  | .dispose => session.dispose
  | .fileFacts analyzer file code tree => (session.fileFacts analyzer file code tree).1
  | .fileAnalysis analyzer file code tree => (session.fileAnalysis analyzer file code tree).1
  | .fileCallGraph analyzer file code tree => (session.fileCallGraph analyzer file code tree).1
  | .repository analyzer files => (session.repository analyzer files).1

/-- **The session after some actions**, from a new one. -/
def run (actions : List Action) : Session :=
  actions.foldl perform {}

def toJson (session : Session) : Json :=
  .obj [("available", .bool session.ready), ("cached", .nat session.stored.length),
    ("balanced", .bool session.isBalanced), ("acquired", .nat session.acquisitions),
    ("released", .nat session.releases), ("stored", .nat session.stores), ("evicted", .nat session.evictions)]

end Session

end WorkflowAtlas
