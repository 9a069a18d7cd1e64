import WorkflowAtlas.SourcePath

/-!
# Routes by file location

A **convention** of a framework derives a route from where a file lives; the file's exported
functions named for verbs serve it. The route is made of the directories between the last directory
with the framework's name for its root and the file.
-/

namespace WorkflowAtlas.Http

open WorkflowAtlas.Text

/-- **A convention** of a framework. -/
inductive Convention where
  | nextAppRouter
  | svelteKit
  deriving DecidableEq, Repr, Inhabited

namespace Convention

/-- Every convention, in the order they are tried. -/
def all : List Convention :=
  [.nextAppRouter, .svelteKit]

def name : Convention → String
  | .nextAppRouter => "next-app-router"
  | .svelteKit => "sveltekit"

/-- The convention of a written name. -/
def ofName? (text : String) : Option Convention :=
  all.find? (·.name == text)

/-- The stem of a route file. -/
def stem : Convention → String
  | .nextAppRouter => "route"
  | .svelteKit => "+server"

/-- The extensions of a route file. -/
def extensions : Convention → List String
  | .nextAppRouter => ["ts", "js", "tsx", "jsx"]
  | .svelteKit => ["ts", "js"]

/-- The directory under which routes begin. -/
def root : Convention → String
  | .nextAppRouter => "app"
  | .svelteKit => "routes"

end Convention

/-- A text without the dots `...` in front, as often as they stand there. -/
def dropDots : List Char → List Char
  | '.' :: '.' :: '.' :: rest => dropDots rest
  | cs => cs

/-- The segment of a directory: `(group)` and `@slot` have none, and `[id]`, `[...slug]` and
`[[...slug]]` are parameters. -/
def routeSegment? (directory : String) : Option String :=
  let cs := directory.toList
  let encloses := fun (first last : Char) => cs.head? == some first && cs.getLast? == some last
  if encloses '(' ')' || cs.head? == some '@' then none
  else if encloses '[' ']' then
    let isBracket := fun (c : Char) => c == '[' || c == ']'
    some (String.ofList (':' :: dropDots (dropEndWhile isBracket (cs.dropWhile isBracket))))
  else some directory

/-- What follows the last item equal to `mark`, if there is one. -/
def afterLast? (mark : String) (items : List String) : Option (List String) :=
  if mark ∈ items then some (items.reverse.takeWhile (· != mark)).reverse else none

/-- **The route that a file serves** under a convention. -/
def Convention.route? (convention : Convention) (file : SourcePath) : Option String := do
  let stem ← file.stem?
  let extension ← file.extension?
  if stem != convention.stem || extension ∉ convention.extensions then none
  let directories := file.parentComponents.filterMap Component.name?
  let below ← afterLast? convention.root directories
  some ("/" ++ "/".intercalate (below.filterMap routeSegment?))

end WorkflowAtlas.Http
