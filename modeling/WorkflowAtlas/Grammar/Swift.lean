import WorkflowAtlas.Grammar.Basic

/-!
# Swift

The callee of a call is its first named part. An import binds the module to its name.
-/

namespace WorkflowAtlas.Grammar

open WorkflowAtlas.Text

/-- The import of the module that is named behind the word `import`. -/
def swiftImports (_root node : ParseTree) : List Import :=
  match (words node.text).dropWhile (· != "import") with
  | _ :: module :: _ => [{ source := module, asName := some module, line := node.line }]
  | _ => []

/-- **Swift.** -/
def swift : Grammar where
  functions := [Pattern.as .subject <| .kind "function_declaration"
    [.as .name <| .inField "name" <| .kind "simple_identifier"]]
  calls := [Pattern.as .subject <| .kind "call_expression"]
  imports := [Pattern.as .subject <| .kind "import_declaration"]
  builtins :=
    ["print", "debugPrint", "fatalError", "precondition", "assert", "String", "Int", "Double",
      "Array", "Dictionary", "min", "max", "append", "map", "filter", "reduce", "forEach"]
  params definition := (definition.parts.filter (·.kind == "parameter")).map fun part => collapse part.text
  callee? call _ := do
    let head ← call.firstNamed?
    if head.kind = "call_suffix" || head.calleeText.isEmpty then none else some head.calleeText
  importsOf := swiftImports

end WorkflowAtlas.Grammar
