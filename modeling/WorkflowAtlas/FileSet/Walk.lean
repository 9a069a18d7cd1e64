import WorkflowAtlas.FileSet.IgnoreRules
import WorkflowAtlas.Settings.Exclusion

/-!
# Walks

A walk goes from a root down to all files that nothing on the way says to leave out. Rules are read from
the ignore files of every directory above an entry, up to the working directory; those of version control
count only inside a repository, and not beyond the innermost one. A rule to keep an entry shows it even
if its name starts with a dot, which otherwise hides it.
-/

namespace WorkflowAtlas

/-- **What the ignore files of a directory say.** -/
structure DirectoryRules where
  /-- The rules for all tools. -/
  general : List IgnoreRule
  /-- The rules for version control. -/
  shared : List IgnoreRule
  /-- The rules of the repository itself, which are not shared. -/
  own : List IgnoreRule
  /-- Whether a repository starts here. -/
  isRepository : Bool

namespace FileSet

/-- The text of the file at a place, empty when there is none. -/
def textAt (set : FileSet) (place : List String) : String :=
  ((set.file? place).map (·.content)).getD ""

/-- The rules of the directory at a place. -/
def rulesOf (set : FileSet) (place : List String) : DirectoryRules where
  general := IgnoreRule.ofText (set.textAt (place ++ [".ignore"]))
  shared := IgnoreRule.ofText (set.textAt (place ++ [".gitignore"]))
  own := IgnoreRule.ofText (set.textAt (place ++ [".git", "info", "exclude"]))
  isRepository := set.has (place ++ [".git"])

/-- The directories above a place with the path from each of them, the innermost first. -/
def above (place : List String) : List (List String × String) :=
  (List.range place.length).reverse.map fun depth => (place.take depth, "/".intercalate (place.drop depth))

/-- The items of a list up to the first with a property, that one included. -/
def upTo {α : Type} (p : α → Bool) : List α → List α
  | [] => []
  | a :: rest => if p a then [a] else a :: upTo p rest

/-- **What all rules say of the entry at a place.** -/
def verdict? (set : FileSet) (place : List String) (isDirectory : Bool) : Option Verdict :=
  let outward := (above place).map fun (directory, path) => (set.rulesOf directory, path)
  let tracked := if outward.any (·.1.isRepository) then upTo (·.1.isRepository) outward else []
  let decide := fun (rules : DirectoryRules → List IgnoreRule) (entry : DirectoryRules × String) =>
    IgnoreRule.decide? (rules entry.1) entry.2 isDirectory
  (outward.findSome? (decide (·.general))).or
    ((tracked.findSome? (decide (·.shared))).or (tracked.findSome? (decide (·.own))))

/-- Whether an entry is left out: rules say so, or they say nothing and its name starts with a dot. -/
def isLeftOut (set : FileSet) (place : List String) (isDirectory : Bool) : Bool :=
  match set.verdict? place isDirectory with
  | some .ignore => true
  | some .keep => false
  | none => place.getLast?.any fun name => Text.startsWith name "."

/-- **Whether a walk from a root comes to a file**: the file lies below the root, and neither it nor a
directory between is left out. -/
def isReached (set : FileSet) (root : List String) (file : StoredFile) : Bool :=
  root.isPrefixOf file.place && root.length < file.place.length &&
    (List.range (file.place.length - root.length)).all fun step =>
      let depth := root.length + step + 1
      !set.isLeftOut (file.place.take depth) (depth < file.place.length)

/-- The files that a walk from a root comes to, under their paths from the root. The path `-` stands for
no directory. -/
def walk (set : FileSet) (root : SourcePath) : List SourceFile :=
  if root.text = "-" then []
  else
    match set.place? root with
    | none => []
    | some place => (set.files.filter (set.isReached place)).map fun file =>
      ⟨⟨"/".intercalate (file.place.drop place.length)⟩, file.content, file.tree⟩

/-- **The source files below a root**, by path: those of a known language that no glob excludes and that
are not too large. -/
def sources (set : FileSet) (root : SourcePath) (excluded : List Glob) (maxSize : Nat) : List SourceFile :=
  let chosen := (set.walk root).filter fun file =>
    (Language.ofPath? file.path).isSome && !Glob.anyMatch excluded file.path.text && file.content.utf8ByteSize ≤ maxSize
  chosen.mergeSort fun a b => componentsLe a.path.components b.path.components

end FileSet

end WorkflowAtlas
