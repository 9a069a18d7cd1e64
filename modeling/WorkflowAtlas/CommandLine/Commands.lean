import WorkflowAtlas.CommandLine.Help
import WorkflowAtlas.FileSet.Walk
import WorkflowAtlas.Settings.File
import WorkflowAtlas.Repository.StaticGraph
import WorkflowAtlas.Workflow.Changes
import WorkflowAtlas.Workflow.Detection
import WorkflowAtlas.Workflow.Hints

/-!
# Commands

What a command does to the files below the working directory: it reads settings, source files, hints and
snapshots, and gives what is to be printed with the files as they are afterwards. A command either does
all of its work or fails with the first cause and prints nothing.
-/

namespace WorkflowAtlas

/-- The version of the program. -/
def programVersion : String := "0.1.0"

/-- **Why a command fails.** -/
inductive CommandFault where
  | settings (fault : SettingsFault)
  /-- An exclude glob cannot be read. -/
  | exclusion
  /-- A pattern cannot be read. -/
  | pattern (text : String)
  /-- A file cannot be read. -/
  | unreadable (path : SourcePath)
  /-- The text of a file is not of the right kind. -/
  | malformed (path : SourcePath) (fault : Fault)
  /-- A file cannot be written. -/
  | unwritable (path : SourcePath)
  deriving Repr

/-- The words for a cause. -/
def CommandFault.message : CommandFault → String
  | .settings .unreadable => "the settings file cannot be read"
  | .settings (.invalid file) => "invalid settings in " ++ file
  | .exclusion => "invalid settings in scan.exclude"
  | .pattern text => "invalid pattern " ++ text
  | .unreadable path => "reading " ++ path.text
  | .malformed path _ => "parsing " ++ path.text
  | .unwritable path => "writing " ++ path.text

/-- What a command prints: lines, or a value. -/
inductive Printed where
  | nothing
  | line (content : String)
  | json (value : Json)
  deriving Repr, Inhabited

/-- The text that is printed. -/
def Printed.render : Printed → String
  | .nothing => ""
  | .line content => content ++ "\n"
  | .json value => value.pretty ++ "\n"

/-- **What comes of a command line**: the exit status, what is printed, and the files afterwards. -/
structure Outcome where
  status : Nat
  printed : Printed := .nothing
  files : FileSet
  /-- Why a command failed. -/
  fault : Option CommandFault := none
  deriving Inhabited

namespace Command

/-- The settings of a file, or else of the first settings file of a directory. -/
def settings (files : FileSet) (directory : SourcePath) (path : Option SourcePath) : Except CommandFault Settings :=
  let found : Except SettingsFault Settings := match path with
    | some path => Settings.load files path
    | none => (Settings.discover files directory).map fun found => found.getD {}
  found.mapError .settings

def analyzer (settings : Settings) : Except CommandFault Analyzer :=
  (Analyzer.ofSettings settings Http.Convention.all).mapError .pattern

/-- **The repository below a root.** -/
def repository (files : FileSet) (root : SourcePath) (settings : Settings) : Except CommandFault Repository := do
  match settings.scan.globs? with
  | none => .error .exclusion
  | some globs =>
    let sources := files.sources root globs settings.scan.maxFileSize
    return (← analyzer settings).repository sources

/-- What a file holds, as a decoder reads it. -/
def decodeFile {α : Type} (files : FileSet) (path : SourcePath) (decode : Decoder α) : Except CommandFault α :=
  match files.read? path with
  | none => .error (.unreadable path)
  | some text => (decode.run text).mapError (.malformed path)

/-- **The workflows of a repository** with the graph that they are found in. -/
def snapshot (repository : Repository) (hints : List WorkflowHint) (time : Option String) : Snapshot :=
  let (nodes, edges) := repository.flowGraph
  let (hints, _) := repairHints (nodes.map (·.id)) hints
  let found := detect standardPasses nodes edges hints
  { generatedAt := time, nodes := found.nodes, edges := found.edges, workflows := found.workflows }

/-- **Runs a command** at a time: the exit status, what is printed, and the files afterwards. -/
def run (files : FileSet) (time : Option String) : Command → Except CommandFault (Nat × Printed × FileSet)
  | .analyze root path hints output => do
    let repository ← repository files root (← settings files root path)
    let hints ← match hints with
      | none => .ok []
      | some path => decodeFile files path (.list WorkflowHint.record.decoder)
    let snapshot := snapshot repository hints time
    match output with
    | none => return (0, .json snapshot.toJson, files)
    | some path =>
      match files.write? path snapshot.render with
      | some files => return (0, .nothing, files)
      | none => .error (.unwritable path)
  | .facts root path => do
    let repository ← repository files root (← settings files root path)
    return (0, .json repository.toJson, files)
  | .callGraph path => do
    match files.open? path with
    | none => .error (.unreadable path)
    | some file =>
      let analyzer ← analyzer (← settings files path.parent.toPath none)
      return (0, .json (analyzer.fileCallGraph path file.content file.tree).toJson, files)
  | .compare old new => do
    let old ← decodeFile files old Snapshot.record.decoder
    let new ← decodeFile files new Snapshot.record.decoder
    let changes := SnapshotChanges.between old new
    return (if changes.isEmpty then 0 else 1, .json changes.toJson, files)
  | .version => return (0, .line ("Codag v" ++ programVersion), files)

end Command

/-- **What comes of a command line** on the files below the working directory. -/
def CommandLine.execute (files : FileSet) (time : Option String) (args : List String) : Outcome :=
  match CommandLine.read args with
  | .misuse => { status := 2, files }
  | .help topic => { status := 0, printed := .line (Help.text topic), files }
  | .run command =>
    match command.run files time with
    | .ok (status, printed, files) => { status, printed, files }
    | .error fault => { status := 1, files, fault := some fault }

end WorkflowAtlas
