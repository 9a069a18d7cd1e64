import WorkflowAtlas.FileSet
import WorkflowAtlas.Settings.TomlFormat
import WorkflowAtlas.Settings.YamlFormat

/-!
# Settings files

Settings are kept in a file whose extension names its format. Without a path to one, the first settings
file in a directory counts.
-/

namespace WorkflowAtlas

/-- **Why settings cannot be loaded.** -/
inductive SettingsFault where
  /-- There is no such file. -/
  | unreadable
  /-- The file is in no known format, or its text is refused. -/
  | invalid (file : String)
  deriving DecidableEq, Repr, Inhabited

namespace Settings

/-- The settings in a text, in the format that an extension names. -/
def ofText? (extension : Option String) (text : String) : Option Settings :=
  match extension with
  | some "toml" => ofToml? text
  | some "yaml" => ofYaml? text
  | some "yml" => ofYaml? text
  | _ => none

/-- **The settings in a file.** -/
def load (files : FileSet) (path : SourcePath) : Except SettingsFault Settings :=
  match files.read? path with
  | none => .error .unreadable
  | some text =>
    match ofText? path.extension? text with
    | some settings => .ok settings
    | none => .error (.invalid (path.fileName?.getD ""))

/-- The names of settings files, in the order in which they are looked for. -/
def fileNames : List String :=
  ["codag.toml", "codag.yaml", "codag.yml"]

/-- **The settings in the first settings file of a directory**, if it has one. -/
def discover (files : FileSet) (directory : SourcePath) : Except SettingsFault (Option Settings) :=
  match (fileNames.map fun name => directory.join ⟨name⟩).find? fun path => (files.open? path).isSome with
  | some path => (load files path).map some
  | none => .ok none

end Settings

end WorkflowAtlas
