import WorkflowAtlas.SourcePath

/-!
# Languages

The languages whose parse trees the library reads, told by a file's extension.
-/

namespace WorkflowAtlas

/-- **A language** whose parse trees are read. -/
inductive Language where
  | python
  | typescript
  | tsx
  | javascript
  | go
  | rust
  | c
  | cpp
  | swift
  | java
  | lua
  deriving DecidableEq, Inhabited, Repr

namespace Language

/-- Every language, in the order of its declaration. -/
def all : List Language :=
  [.python, .typescript, .tsx, .javascript, .go, .rust, .c, .cpp, .swift, .java, .lua]

/-- The name that is written. -/
def name : Language → String
  | .python => "python"
  | .typescript => "typescript"
  | .tsx => "tsx"
  | .javascript => "javascript"
  | .go => "go"
  | .rust => "rust"
  | .c => "c"
  | .cpp => "cpp"
  | .swift => "swift"
  | .java => "java"
  | .lua => "lua"

/-- The language of a written name. -/
def ofName? (text : String) : Option Language :=
  all.find? (·.name == text)

/-- The extensions of a language's files. -/
def extensions : Language → List String
  | .python => ["py"]
  | .typescript => ["ts"]
  | .tsx => ["tsx"]
  | .javascript => ["js", "jsx"]
  | .go => ["go"]
  | .rust => ["rs"]
  | .c => ["c", "h"]
  | .cpp => ["cpp", "cc", "cxx", "hpp"]
  | .swift => ["swift"]
  | .java => ["java"]
  | .lua => ["lua"]

/-- The language of an extension. -/
def ofExtension? (extension : String) : Option Language :=
  all.find? fun language => extension ∈ language.extensions

/-- **The language of a file**, by the extension of its path. -/
def ofPath? (path : SourcePath) : Option Language :=
  path.extension?.bind ofExtension?

/-- Whether the language shares the patterns and conventions of JavaScript. -/
def isScript : Language → Bool
  | .javascript | .typescript | .tsx => true
  | _ => false

end Language

end WorkflowAtlas
