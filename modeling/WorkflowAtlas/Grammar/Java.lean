import WorkflowAtlas.Grammar.Basic

/-!
# Java

A call on an object is recorded with the object's text in front. An import names a class of a package
or all of its classes.
-/

namespace WorkflowAtlas.Grammar

open WorkflowAtlas.Text

/-- The import of a class or of a whole package. -/
def javaImports (_root node : ParseTree) : List Import :=
  match node.firstNamed? with
  | none => []
  | some path =>
    if node.hasChildOfKind "asterisk" then [{ source := path.text, names := [⟨"*", none⟩], line := node.line }]
    else
      let (package, name) := match cutAtLast (· == '.') path.text.toList with
        | some (package, name) => (String.ofList package, String.ofList name)
        | none => ("", path.text)
      [{ source := package, names := [⟨name, none⟩], line := node.line }]

/-- **Java.** -/
def java : Grammar where
  functions :=
    [Pattern.as .subject <| .kind "method_declaration" [.as .name <| .inField "name" <| .kind "identifier"],
      Pattern.as .subject <| .kind "constructor_declaration"
        [.as .name <| .inField "name" <| .kind "identifier"]]
  calls :=
    [Pattern.as .subject <| .kind "method_invocation" [.as .callee <| .inField "name" <| .kind "identifier"],
      Pattern.as .subject <| .kind "object_creation_expression" [.as .callee <| .inField "type" .any]]
  imports := [Pattern.as .subject <| .kind "import_declaration"
    [.as .aside <| .kinds ["scoped_identifier", "identifier"]]]
  bindings := [Pattern.as .subject <| .kind "variable_declarator"
    [.as .name <| .inField "name" <| .kind "identifier", .as .value <| .inField "value" .any]]
  builtins :=
    ["System.out.println", "System.out.print", "System.out.printf", "System.err.println",
      "String.format", "String.valueOf", "Integer.parseInt", "equals", "toString", "hashCode",
      "getClass", "size", "isEmpty", "List.of", "Map.of", "Objects.*", "Arrays.*", "Collections.*",
      "Math.*", "log.*", "logger.*", "LOG.*", "LOGGER.*"]
  params := plainParams
  callee? call callee := callee.map fun callee =>
    match call.child? "object" with
    | some object => object.calleeText ++ "." ++ callee.calleeText
    | none => callee.calleeText
  importsOf := javaImports

end WorkflowAtlas.Grammar
