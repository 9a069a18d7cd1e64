import WorkflowAtlas.Callee
import WorkflowAtlas.Facts.Basic
import WorkflowAtlas.Repository.ModuleIndex

/-!
# Calls across files

The imports of a file make a **scope**: modules by their local name, names that were brought in, and
whole modules. A call is looked up in the scope of its file, and the first file it leads to that
defines or exports the name is where the call arrives.
-/

namespace WorkflowAtlas

open WorkflowAtlas.Text

/-- Where an import leads: files, and the source that names them. -/
structure Target where
  files : List NormalPath
  source : String
  deriving DecidableEq, Repr, Inhabited

/-- **The names that a file's imports bind.** The latest binding of a name stands first. -/
structure ImportScope where
  /-- Modules by local name. -/
  modules : List (String × Target) := []
  /-- Names by local name, with the name in the module they come from. -/
  names : List (String × (Target × String)) := []
  /-- Modules all of whose names are brought in. -/
  wholes : List Target := []
  deriving Repr, Inhabited

/-- The source of a module inside a source, in the notation of the latter. -/
def submodule (source name : String) : String :=
  let cs := source.toList
  if source.isEmpty then name
  else if hasMark [':', ':'] cs || source ∈ ["crate", "super", "self"] then source ++ "::" ++ name
  else if '/' ∈ cs then source ++ "/" ++ name
  else if endsWith source "." then source ++ name
  else source ++ "." ++ name

namespace ImportScope

/-- The scope with a module bound, when it leads somewhere. -/
def bindModule (scope : ImportScope) (name : String) (target : Target) : ImportScope :=
  if target.files.isEmpty then scope else { scope with modules := (name, target) :: scope.modules }

/-- The scope with one imported name: the name itself, and a module of that name unless one is bound. -/
def bindName (index : ModuleIndex) (file : SourcePath) (target : Target) (scope : ImportScope)
    (imported : ImportedName) : ImportScope :=
  if imported.name = "*" then
    if target.files.isEmpty then scope else { scope with wholes := scope.wholes ++ [target] }
  else
    let scope :=
      if target.files.isEmpty then scope
      else { scope with names := (imported.localName, (target, imported.name)) :: scope.names }
    if (scope.modules.lookup imported.localName).isSome then scope
    else
      let nested := submodule target.source imported.name
      scope.bindModule imported.localName ⟨index.resolve file nested, nested⟩

/-- The scope with one import. -/
def bind (index : ModuleIndex) (file : SourcePath) (scope : ImportScope) (imported : Import) : ImportScope :=
  let target : Target := ⟨index.resolve file imported.source, imported.source⟩
  let scope := match imported.asName with
    | some asName => scope.bindModule asName target
    | none => scope
  imported.names.foldl (bindName index file target) scope

/-- **The scope of a file.** -/
def ofFile (index : ModuleIndex) (facts : FileFacts) : ImportScope :=
  facts.imports.foldl (bind index facts.file) {}

/-- **Where a callee may lead**: targets, and the name to look for there. -/
def lookup (scope : ImportScope) (callee : String) : List (Target × String) :=
  let name := Callee.simpleName callee
  match Callee.receiver? callee with
  | some object => ((scope.modules.lookup object).map (·, name)).toList
  | none =>
    match scope.names.lookup callee with
    | some bound => [bound]
    | none => scope.wholes.map (·, name)

end ImportScope

/-- The facts of the file at a path; of several the last. -/
def factsAt? (files : List FileFacts) (path : NormalPath) : Option FileFacts :=
  files.reverse.find? fun facts => facts.file.components = path.components

/-- Whether a file defines or exports a name. -/
def provides (files : List FileFacts) (path : NormalPath) (name : String) : Bool :=
  (factsAt? files path).any fun facts => (facts.function? name).isSome || name ∈ facts.exports

/-- The file where a lookup arrives: the first other file that provides the name. -/
def arrival? (files : List FileFacts) (caller : SourcePath) (found : Target × String) : Option CalleePlace :=
  let (target, name) := found
  (target.files.find? fun path => path.components != caller.components && provides files path name).map fun path =>
    { file := path.toPath, function := name, module := some target.source }

/-- The call across files that a callee of a function makes. -/
def crossCall? (files : List FileFacts) (scope : ImportScope) (file : SourcePath) (function : FunctionFacts)
    (callee : String) : Option CrossFileCall :=
  ((scope.lookup callee).findSome? (arrival? files file)).map fun place =>
    { caller := { file, function := function.name, line := function.callLine callee }, callee := place }

/-- **The calls across files** of a repository. -/
def crossFileCalls (index : ModuleIndex) (files : List FileFacts) : List CrossFileCall :=
  files.flatMap fun facts =>
    let scope := ImportScope.ofFile index facts
    facts.functions.flatMap fun function => function.calls.filterMap (crossCall? files scope facts.file function)

end WorkflowAtlas
