import WorkflowAtlas.Grammar.Basic
import WorkflowAtlas.Text.Casing

/-!
# Go

A definition is exported when its name starts with an upper case letter. A package is referred to by
the last segment of its path unless it is renamed.
-/

namespace WorkflowAtlas.Grammar

open WorkflowAtlas.Text

/-- The import of one package. -/
def goImports (_root node : ParseTree) : List Import :=
  match (node.child? "path").bind ParseTree.stringValue? with
  | none => []
  | some path =>
    let asName := match node.child? "name" with
      | some name => name.text
      | none => String.ofList (lastPiece (· == '/') path.toList)
    [{ source := path, asName := some asName, line := node.line }]

/-- **Go.** -/
def go : Grammar where
  functions :=
    [Pattern.as .subject <| .kind "function_declaration" [.as .name <| .inField "name" <| .kind "identifier"],
      Pattern.as .subject <| .kind "method_declaration"
        [.as .name <| .inField "name" <| .kind "field_identifier"]]
  calls := [Pattern.as .subject <| .kind "call_expression" [.as .callee <| .inField "function" .any]]
  imports := [Pattern.as .subject <| .kind "import_spec"]
  bindings := [Pattern.as .subject <| .kind "short_var_declaration"
    [.inField "left" <| .kind "expression_list" [.next <| .as .name <| .kind "identifier"],
      .inField "right" <| .kind "expression_list" [.next <| .as .value .any]]]
  builtins :=
    ["len", "cap", "append", "make", "new", "panic", "recover", "copy", "delete", "close",
      "print", "println", "fmt.*", "log.*", "errors.*", "strings.*", "strconv.*", "json.*"]
  params := plainParams
  importsOf := goImports
  isExported _ name _ := name.toList.head?.any isUpper

end WorkflowAtlas.Grammar
