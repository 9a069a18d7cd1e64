import WorkflowAtlas.Repository.Basic

/-!
# File sets

A **file set** is what lies below a working directory. A file has a **place**, the names on the way to
it; a directory is there when some file lies below it. A path is followed from the working directory
name by name: every step but the last must lead to a directory, and a path that leaves the working
directory leads nowhere.
-/

namespace WorkflowAtlas

/-- A file at its place. -/
structure StoredFile where
  place : List String
  content : String
  tree : Option ParseTree := none
  deriving Inhabited

/-- **The files below a working directory.** -/
structure FileSet where
  files : List StoredFile := []
  deriving Inhabited

namespace FileSet

/-- The file at a place. -/
def file? (set : FileSet) (place : List String) : Option StoredFile :=
  set.files.find? (·.place = place)

/-- Whether a file lies somewhere below a place. The working directory is always there. -/
def hasDirectory (set : FileSet) (place : List String) : Bool :=
  place.isEmpty || set.files.any fun file => place.isPrefixOf file.place && place.length < file.place.length

/-- Whether anything is at a place. -/
def has (set : FileSet) (place : List String) : Bool :=
  (set.file? place).isSome || set.hasDirectory place

/-- The set with a file at its place, instead of one that was there. -/
def put (set : FileSet) (file : StoredFile) : FileSet :=
  ⟨set.files.filter (·.place ≠ file.place) ++ [file]⟩

/-- **The set of some files**; of two files at one place the later stays. -/
def ofFiles (files : List SourceFile) : FileSet :=
  files.foldl (fun set file => set.put ⟨file.path.normalize.names, file.content, file.tree⟩) {}

/-- One step further along a path. -/
def step? (set : FileSet) (place : List String) (component : Component) : Option (List String) :=
  if set.hasDirectory place then
    match component with
    | .name name => some (place ++ [name])
    | .here => some place
    | .up => if place.isEmpty then none else some place.dropLast
    | .root => none
  else none

/-- The place that a path leads to; nothing needs to be there yet. -/
def place? (set : FileSet) (path : SourcePath) : Option (List String) :=
  if path.text.isEmpty then none else path.components.foldlM set.step? []

/-- Whether a path is written as the path of a directory. -/
def namesDirectory (path : SourcePath) : Bool :=
  Text.endsWith path.text "/" || Text.endsWith path.text "/."

/-- **The file that a path leads to.** -/
def open? (set : FileSet) (path : SourcePath) : Option StoredFile :=
  if namesDirectory path then none else (set.place? path).bind set.file?

/-- **The content of the file that a path leads to.** -/
def read? (set : FileSet) (path : SourcePath) : Option String :=
  (set.open? path).map (·.content)

/-- **Writes a file**; its directory must be there, and no directory may be in its place. -/
def write? (set : FileSet) (path : SourcePath) (content : String) : Option FileSet := do
  let place ← set.place? path
  if namesDirectory path || set.hasDirectory place then none else some (set.put { place, content })

/-- The files of a set whose content is not that of an earlier set. -/
def changedSince (set earlier : FileSet) : List StoredFile :=
  set.files.filter fun file => (earlier.file? file.place).map (·.content) ≠ some file.content

end FileSet

end WorkflowAtlas
