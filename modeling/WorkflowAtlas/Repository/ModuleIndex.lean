import WorkflowAtlas.Language

/-!
# Resolving imports to files

A **module index** is the set of a repository's files by normal path. `resolve` says which of them the
source of an import refers to, by the notation of the source: a relative path, leading dots, a path of
modules, an alias for the source directory, or a bare name that is tried against several roots. A
source that names nothing in the repository resolves to no file.
-/

namespace WorkflowAtlas

open WorkflowAtlas.Text

/-- **The files of a repository**, in the order of their paths, each once. -/
structure ModuleIndex where
  files : List NormalPath
  deriving DecidableEq, Repr, Inhabited

namespace ModuleIndex

/-- The index of some paths. -/
def ofPaths (paths : List SourcePath) : ModuleIndex :=
  ⟨(paths.map (·.normalize)).eraseDups.mergeSort NormalPath.le⟩

/-- Whether a file is in the repository. -/
def has (index : ModuleIndex) (path : NormalPath) : Bool :=
  path ∈ index.files

/-- Whether a path, in any writing, is a file of the repository. -/
def contains (index : ModuleIndex) (path : SourcePath) : Bool :=
  index.has path.normalize

/-- The directories that hold files, in order, each once; the top itself is not among them. -/
def directories (index : ModuleIndex) : List NormalPath :=
  ((index.files.filterMap (·.parent?)).filter fun directory => !directory.isEmpty).eraseDups.mergeSort NormalPath.le

/-- The extensions that are tried, in order, for a module without one. -/
def candidateExtensions : List String :=
  ["ts", "tsx", "js", "jsx", "mjs", "cjs", "py", "go", "rs", "java", "swift", "lua", "c", "h", "cpp", "cc", "hpp"]

/-- The files that stand for their directory. -/
def indexFiles : List String :=
  ["index.ts", "index.tsx", "index.js", "index.jsx", "__init__.py", "mod.rs"]

/-- The roots that bare names are tried against, besides the importer's directory. -/
def sourceRoots : List String :=
  ["", "src", "lib", "app", "src/main/java"]

/-- The path without the extension that a script import may carry for a file of another one. -/
def scriptStem (path : NormalPath) : NormalPath :=
  match path.extension? with
  | some extension => if extension ∈ ["js", "jsx", "mjs", "cjs"] then path.dropExtension else path
  | none => path

/-- The paths that a module path may stand for, in the order they are tried: itself, with an extension,
an index file below it. -/
def candidates (path : NormalPath) : List NormalPath :=
  path :: candidateExtensions.map (scriptStem path).addExtension ++ indexFiles.map path.child

/-- **The file that a module path stands for**, if there is one. -/
def locate (index : ModuleIndex) (path : SourcePath) : List NormalPath :=
  let path := path.normalize
  if path.isEmpty then [] else ((candidates path).find? index.has).toList

/-- A module path with slashes for its joints. -/
def slashPath (path : List Char) : List Char :=
  replacePair ':' ':' ['/'] path

/-- What follows `::` in front, as often as it stands there. -/
def dropJoints : List Char → List Char
  | ':' :: ':' :: rest => dropJoints rest
  | cs => cs

/-- A path below a directory. -/
def below (directory : NormalPath) (path : List Char) : SourcePath :=
  directory.toPath.join ⟨String.ofList path⟩

/-- A directory so many levels up; the top stays the top. -/
def climb (directory : NormalPath) (levels : Nat) : NormalPath :=
  { directory with names := directory.names.take (directory.names.length - levels) }

/-- `.x`, `..pkg.y` and `.` from a directory: one dot is the directory itself, each further one a level
up. -/
def dottedRelative (index : ModuleIndex) (directory : NormalPath) (source : List Char) : List NormalPath :=
  let dots := (source.takeWhile (· == '.')).length
  let rest := source.drop dots
  let base := climb directory (dots - 1)
  if rest.isEmpty then index.locate base.toPath
  else index.locate (below base (rest.map fun c => if c = '.' then '/' else c))

/-- The directory of the crate of a file: its path up to the first `src`, or `src` when it has none. -/
def crateRoot (importer : NormalPath) : NormalPath :=
  if "src" ∈ importer.names then
    { importer with names := importer.names.takeWhile (· != "src") ++ ["src"] }
  else ⟨false, ["src"]⟩

/-- The file at the root of the crate of a file. -/
def crateFile (index : ModuleIndex) (importer : NormalPath) : List NormalPath :=
  ((["lib.rs", "main.rs"].map (crateRoot importer).child).find? index.has).toList

/-- The directory of the modules below the module that a file is. -/
def moduleDirectory (importer : NormalPath) : SourcePath :=
  match importer.stem? with
  | none => importer.directory.toPath
  | some stem =>
    if stem ∈ ["mod", "lib", "main"] then importer.directory.toPath
    else importer.directory.toPath.join ⟨stem⟩

/-- Whether a source is the name of a file rather than a dotted name. -/
def looksLikeFile (source : String) : Bool :=
  (SourcePath.extension? ⟨source⟩).any (· ∈ candidateExtensions)

/-- The forms of a bare source: itself, and a dotted or joined name with slashes. -/
def bareForms (source : String) : List (List Char) :=
  let cs := source.toList
  if hasMark [':', ':'] cs then [cs, slashPath cs]
  else if '/' ∉ cs && '.' ∈ cs && !looksLikeFile source then [cs, cs.map fun c => if c = '.' then '/' else c]
  else [cs]

/-- The longest directory that a package path ends in, of several the last. -/
def longestDirectory? : List NormalPath → Option NormalPath
  | [] => none
  | directory :: rest =>
    match longestDirectory? rest with
    | none => some directory
    | some other =>
      if directory.components.length ≤ other.components.length then some other else some directory

/-- **The files of a package** that a path names by its directory. -/
def packageFiles (index : ModuleIndex) (source : String) : List NormalPath :=
  let named := index.directories.filter fun directory =>
    let text := directory.toPath.slashed
    source == text || endsWith source ("/" ++ text)
  match longestDirectory? named with
  | none => []
  | some package =>
    index.files.filter fun file => file.parent? = some package && file.extension? = some "go"

/-- The files of a bare source: its forms in the importer's directory, then below the roots; a Go source
may also name a package. -/
def bare (index : ModuleIndex) (directory : NormalPath) (source : String) (language : Option Language) :
    List NormalPath :=
  let places := (bareForms source).flatMap fun form =>
    below directory form :: sourceRoots.map fun root => SourcePath.join ⟨root⟩ ⟨String.ofList form⟩
  match (places.map index.locate).find? fun found => !found.isEmpty with
  | some found => found
  | none => if language = some .go then index.packageFiles source else []

/-- The files that implement a header. -/
def implementations (index : ModuleIndex) (found : List NormalPath) (header : NormalPath) : List NormalPath :=
  if header.extension? ∈ [some "h", some "hpp"] then
    (["c", "cc", "cpp"].map header.withExtension).filter fun file => index.has file && file ∉ found
  else []

/-- Files with the implementations of the headers among them. -/
def withImplementations (index : ModuleIndex) (found : List NormalPath) : List NormalPath :=
  found.foldl (fun all file => all ++ index.implementations all file) found

/-- The files that a source refers to, headers without their implementations. -/
def named (index : ModuleIndex) (importer : NormalPath) (source : String) : List NormalPath :=
  let directory := importer.directory
  let language := Language.ofPath? importer.toPath
  let cs := source.toList
  if startsWith source "./" || startsWith source "../" then index.locate (below directory cs)
  else if language = some .python && startsWith source "." then index.dottedRelative directory cs
  else
    match after? "crate::".toList cs with
    | some rest => index.locate (below (crateRoot importer) (slashPath rest))
    | none =>
      if source = "crate" then index.crateFile importer
      else if source = "super" || startsWith source "super::" then
        index.locate (below (moduleDirectory importer).parent (slashPath (dropJoints (cs.drop 5))))
      else
        match after? "self::".toList cs with
        | some rest => index.locate (below (moduleDirectory importer).normalize (slashPath rest))
        | none =>
          match (after? "@/".toList cs).or (after? "~/".toList cs) with
          | some rest => index.locate (SourcePath.join ⟨"src"⟩ ⟨String.ofList rest⟩)
          | none => index.bare directory source language

/-- **The files that an import refers to.** A header brings in its implementations. -/
def resolve (index : ModuleIndex) (importer : SourcePath) (source : String) : List NormalPath :=
  index.withImplementations (index.named importer.normalize source)

end ModuleIndex

end WorkflowAtlas
