import WorkflowAtlas.Text.Blank
import WorkflowAtlas.Text.Cut

/-!
# Source paths

A **source path** is the text of a slash separated path. Two paths are the same when they have the
same **components**: doubled and trailing slashes and `.` inside a path do not count, a `.` in front
does. `normalize` resolves `.` and `..` lexically to a **normal path**, a root mark and names; a `..`
at the top is dropped, so a normal path never leaves its start.
-/

namespace WorkflowAtlas

open WorkflowAtlas.Text

/-- **The text of a path**, as it is written. -/
structure SourcePath where
  text : String
  deriving DecidableEq, Inhabited, Repr

/-- One step of a path. -/
inductive Component where
  | root
  | here
  | up
  | name (text : String)
  deriving DecidableEq, Repr

namespace Component

/-- The place of a kind of component in the order of components. -/
def rank : Component → Nat
  | .root => 0
  | .here => 1
  | .up => 2
  | .name _ => 3

/-- The order of components: the root, `.`, `..`, then names by their text. -/
def lt (a b : Component) : Bool :=
  match a, b with
  | .name s, .name t => s < t
  | _, _ => a.rank < b.rank

/-- The name of a component that has one. -/
def name? : Component → Option String
  | .name s => some s
  | _ => none

end Component

/-- Component lists in dictionary order. -/
def componentsLe : List Component → List Component → Bool
  | [], _ => true
  | _ :: _, [] => false
  | a :: as, b :: bs => if a = b then componentsLe as bs else a.lt b

/-- The name of a file split at its last dot: stem and extension. A dot in front belongs to the stem. -/
def splitExtension (file : String) : String × Option String :=
  match cutAtLast (· == '.') file.toList with
  | none => (file, none)
  | some ([], _) => (file, none)
  | some (stem, extension) => (String.ofList stem, some (String.ofList extension))

/-- The name of a file with another ending in place of its extension. The stem `.` and the dot after it
are the way up, which takes no ending. -/
def changeEnding (file ending : String) : String :=
  let stem := (splitExtension file).1
  if stem = "." then ".." else stem ++ ending

namespace SourcePath

/-- The component of one piece between slashes. -/
def component? (piece : List Char) : Option Component :=
  if piece = [] ∨ piece = ['.'] then none
  else if piece = ['.', '.'] then some .up
  else some (.name (String.ofList piece))

/-- **The components of a path.** -/
def components (path : SourcePath) : List Component :=
  let all := pieces (· == '/') path.text.toList
  let front :=
    match path.text.toList with
    | '/' :: _ => [.root]
    | _ => if all.head? = some ['.'] then [.here] else []
  front ++ all.filterMap component?

/-- Whether two texts write the same path. -/
def same (a b : SourcePath) : Bool :=
  a.components = b.components

/-- The last name of a path; a path that ends in `..`, `.` or the root has none. -/
def fileName? (path : SourcePath) : Option String :=
  path.components.getLast?.bind Component.name?

/-- The extension of the file's name. -/
def extension? (path : SourcePath) : Option String :=
  path.fileName?.bind fun file => (splitExtension file).2

/-- The file's name without its extension. -/
def stem? (path : SourcePath) : Option String :=
  path.fileName?.map fun file => (splitExtension file).1

/-- The directory of a path, as components. -/
def parentComponents (path : SourcePath) : List Component :=
  path.components.dropLast

/-- One path after another; an absolute second path stands alone. -/
def join (a b : SourcePath) : SourcePath :=
  match b.text.toList with
  | '/' :: _ => b
  | _ =>
    if a.text.isEmpty ∨ a.text.toList.getLast? = some '/' then ⟨a.text ++ b.text⟩
    else ⟨a.text ++ "/" ++ b.text⟩

/-- **The path in names with slashes between them**, used in ids: the root writes a leading slash, and
`.` and `..` are left out. -/
def slashed (path : SourcePath) : String :=
  "/".intercalate <| path.components.filterMap fun
    | .root => some ""
    | .name s => some s
    | _ => none

end SourcePath

/-! ## Normal paths -/

/-- **A normal path**: whether it starts at the root, and its names. -/
structure NormalPath where
  rooted : Bool
  names : List String
  deriving DecidableEq, Inhabited, Repr

namespace NormalPath

def empty : NormalPath := ⟨false, []⟩

/-- One component further: `.` stays, `..` drops the last name, the root starts again. -/
def step (path : NormalPath) : Component → NormalPath
  | .here => path
  | .up => { path with names := path.names.dropLast }
  | .root => ⟨true, []⟩
  | .name s => { path with names := path.names ++ [s] }

def isEmpty (path : NormalPath) : Bool :=
  !path.rooted && path.names.isEmpty

/-- The text of a normal path. -/
def text (path : NormalPath) : String :=
  (if path.rooted then "/" else "") ++ "/".intercalate path.names

def toPath (path : NormalPath) : SourcePath :=
  ⟨path.text⟩

/-- The components of a normal path. -/
def components (path : NormalPath) : List Component :=
  (if path.rooted then [.root] else []) ++ path.names.map .name

def le (a b : NormalPath) : Bool :=
  componentsLe a.components b.components

/-- The path without its last name, if it has one. -/
def parent? (path : NormalPath) : Option NormalPath :=
  if path.names.isEmpty then none else some { path with names := path.names.dropLast }

/-- The directory of a path; the empty path when there is none. -/
def directory (path : NormalPath) : NormalPath :=
  path.parent?.getD empty

def fileName? (path : NormalPath) : Option String :=
  path.names.getLast?

def extension? (path : NormalPath) : Option String :=
  path.fileName?.bind fun file => (splitExtension file).2

def stem? (path : NormalPath) : Option String :=
  path.fileName?.map fun file => (splitExtension file).1

/-- The path with its last name changed. -/
def mapFileName (path : NormalPath) (f : String → String) : NormalPath :=
  match path.names.getLast? with
  | none => path
  | some file => { path with names := path.names.dropLast ++ [f file] }

/-- The path without the extension of its last name. -/
def dropExtension (path : NormalPath) : NormalPath :=
  path.mapFileName (changeEnding · "")

/-- The path with another extension in place of the one its last name has. -/
def withExtension (path : NormalPath) (extension : String) : NormalPath :=
  path.mapFileName (changeEnding · ("." ++ extension))

/-- The path with an extension added to its text. -/
def addExtension (path : NormalPath) (extension : String) : NormalPath :=
  if path.names.isEmpty then { path with names := ["." ++ extension] }
  else path.mapFileName fun file => file ++ "." ++ extension

/-- The path with one more name. -/
def child (path : NormalPath) (name : String) : NormalPath :=
  { path with names := path.names ++ [name] }

end NormalPath

/-- **The normal form of a path.** -/
def SourcePath.normalize (path : SourcePath) : NormalPath :=
  path.components.foldl NormalPath.step NormalPath.empty

/-- The directory of a path in normal form; the empty path when there is none. -/
def SourcePath.parent (path : SourcePath) : NormalPath :=
  path.parentComponents.foldl NormalPath.step NormalPath.empty

end WorkflowAtlas
