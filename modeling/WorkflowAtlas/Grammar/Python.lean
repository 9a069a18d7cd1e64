import WorkflowAtlas.Grammar.Basic

/-!
# Python

A definition is exported unless its name starts with `_`; a list bound to `__all__` overrides that.
Routes are declared by decorators.
-/

namespace WorkflowAtlas.Grammar

open WorkflowAtlas.Text

/-- The name and alias of one imported name. -/
def pythonImported? (node : ParseTree) : Option ImportedName :=
  match node.kind with
  | "dotted_name" => some ⟨node.text, none⟩
  | "identifier" => some ⟨node.text, none⟩
  | "aliased_import" => (node.child? "name").map fun name => ⟨name.text, (node.child? "alias").map (·.text)⟩
  | _ => none

/-- `import a.b` binds `a.b` and `import a.b as c` binds `c`; `from m import …` brings in names. -/
def pythonImports (_root node : ParseTree) : List Import :=
  let names := (node.childrenAt "name").filterMap pythonImported?
  match node.kind with
  | "import_statement" =>
    names.map fun imported => { source := imported.name, asName := some imported.localName, line := node.line }
  | "import_from_statement" =>
    match node.child? "module_name" with
    | none => []
    | some module =>
      let every := if node.hasChildOfKind "wildcard_import" then [⟨"*", none⟩] else []
      [{ source := module.text, names := names ++ every, line := node.line }]
  | _ => []

/-- The decorators of a definition that are calls. -/
def pythonDecorators (node : ParseTree) : List ParseTree :=
  ((node.children.filter (·.kind == "decorator")).filterMap ParseTree.firstNamed?).filter (·.kind == "call")

/-- **Python.** -/
def python : Grammar where
  functions := [Pattern.as .subject <| .kind "function_definition"
    [.as .name <| .inField "name" <| .kind "identifier"]]
  calls := [Pattern.as .subject <| .kind "call" [.as .callee <| .inField "function" .any]]
  imports := [Pattern.as .subject <| .kinds ["import_statement", "import_from_statement"]]
  exports := [Pattern.as .subject <| .kind "assignment"
    [.as .name <| .withText "__all__" <| .inField "left" <| .kind "identifier",
      .as .value <| .inField "right" <| .kind "list"]]
  decorated := [Pattern.as .subject <| .kind "decorated_definition"
    [.inField "definition" <| .kind "function_definition" [.as .name <| .inField "name" <| .kind "identifier"]]]
  bindings := [Pattern.as .subject <| .kind "assignment"
    [.as .name <| .inField "left" .any, .as .value <| .inField "right" .any]]
  builtins :=
    ["print", "len", "str", "int", "float", "bool", "list", "dict", "set", "tuple", "range",
      "enumerate", "zip", "map", "filter", "sorted", "reversed", "isinstance", "issubclass",
      "hasattr", "getattr", "setattr", "super", "open", "type", "repr", "min", "max", "sum", "any",
      "all", "abs", "round", "iter", "next", "id", "hash", "vars", "dir", "input", "format",
      "append", "extend", "items", "keys", "values", "join", "split", "strip", "replace",
      "startswith", "endswith", "lower", "upper", "encode", "decode", "pop", "copy",
      "logging.*", "logger.*", "log.*", "json.*", "os.path.*", "os.environ.*", "time.*"]
  params := plainParams
  importsOf := pythonImports
  exportsOf node := (((node.child? "right").map ParseTree.parts).getD []).filterMap ParseTree.stringValue?
  isExported _ name declared :=
    match declared with
    | some names => name ∈ names
    | none => !startsWith name "_"
  decorators := pythonDecorators

end WorkflowAtlas.Grammar
