import WorkflowAtlas.Grammar.Basic

/-!
# JavaScript, TypeScript and TSX

One grammar for the three: a function is a declaration, a method, or a variable that holds a function.
A definition is exported when an export statement names it.
-/

namespace WorkflowAtlas.Grammar

/-- What one part of an import clause adds: a default or whole import names the module. -/
def scriptClausePart (imported : Import) (part : ParseTree) : Import :=
  match part.kind with
  | "identifier" => { imported with asName := some part.text }
  | "namespace_import" =>
    match part.childOfKind? ["identifier"] with
    | some name => { imported with asName := some name.text }
    | none => imported
  | "named_imports" =>
    let names := part.parts.filterMap fun specifier =>
      (specifier.child? "name").map fun name => ⟨name.text, (specifier.child? "alias").map (·.text)⟩
    { imported with names := imported.names ++ names }
  | _ => imported

/-- `import a, { b as c } from './x'`, `import * as ns from 'y'`, `import './z'`. -/
def scriptImport? (node : ParseTree) : Option Import := do
  let source ← node.child? "source"
  let imported := { source := ← source.stringValue?, line := node.line }
  match node.childOfKind? ["import_clause"] with
  | some clause => some (clause.parts.foldl scriptClausePart imported)
  | none => some imported

/-- The name that a property of a destructuring pattern brings in. -/
def scriptProperty? (property : ParseTree) : Option ImportedName :=
  match property.kind with
  | "shorthand_property_identifier_pattern" => some ⟨property.text, none⟩
  | "pair_pattern" => do return ⟨(← property.child? "key").text, some (← property.child? "value").text⟩
  | _ => none

/-- `const x = require('./x')` or `const { a, b: c } = require('./x')`. -/
def scriptRequire? (node : ParseTree) : Option Import := do
  let call ← node.child? "value"
  let arguments ← call.child? "arguments"
  let source ← arguments.parts.findSome? ParseTree.stringValue?
  let binding ← node.child? "name"
  match binding.kind with
  | "identifier" => some { source, asName := some binding.text, line := node.line }
  | "object_pattern" => some { source, names := binding.parts.filterMap scriptProperty?, line := node.line }
  | _ => some { source, line := node.line }

/-- The imports of a statement or of a variable that holds a required module. -/
def scriptImports (_root node : ParseTree) : List Import :=
  match node.kind with
  | "import_statement" => (scriptImport? node).toList
  | "variable_declarator" => (scriptRequire? node).toList
  | _ => []

/-- The text of a node's name. -/
def nameText (node : ParseTree) : List String :=
  ((node.child? "name").map (·.text)).toList

/-- The names that an export statement declares: of its declaration, of its default value and of its
clause. -/
def scriptExports (node : ParseTree) : List String :=
  let declared := match node.child? "declaration" with
    | none => []
    | some declaration =>
      if declaration.kind ∈ ["lexical_declaration", "variable_declaration"] then declaration.parts.flatMap nameText
      else nameText declaration
  let value := match node.child? "value" with
    | none => []
    | some value => if value.kind = "identifier" then [value.text] else nameText value
  let clause := match node.childOfKind? ["export_clause"] with
    | none => []
    | some clause => clause.parts.flatMap nameText
  declared ++ value ++ clause ++ (if node.hasChildOfKind "default" then ["default"] else [])

/-- **JavaScript, TypeScript and TSX.** -/
def script : Grammar where
  functions :=
    [Pattern.as .subject <| .kind "function_declaration" [.as .name <| .inField "name" <| .kind "identifier"],
      Pattern.as .subject <| .kind "generator_function_declaration"
        [.as .name <| .inField "name" <| .kind "identifier"],
      Pattern.as .subject <| .kind "method_definition" [.as .name <| .inField "name" .any],
      Pattern.as .subject <| .kind "variable_declarator"
        [.as .name <| .inField "name" <| .kind "identifier",
          .inField "value" <| .kinds ["arrow_function", "function_expression"]]]
  calls :=
    [Pattern.as .subject <| .kind "call_expression" [.as .callee <| .inField "function" .any],
      Pattern.as .subject <| .kind "new_expression" [.as .callee <| .inField "constructor" .any]]
  imports :=
    [Pattern.as .subject <| .kind "import_statement" [.inField "source" <| .kind "string"],
      Pattern.as .subject <| .kind "variable_declarator"
        [.inField "value" <| .kind "call_expression"
          [.as .aside <| .withText "require" <| .inField "function" <| .kind "identifier",
            .inField "arguments" <| .kind "arguments" [.kind "string"]]]]
  exports := [Pattern.as .subject <| .kind "export_statement"]
  bindings :=
    [Pattern.as .subject <| .kind "variable_declarator"
        [.as .name <| .inField "name" <| .kind "identifier", .as .value <| .inField "value" .any],
      Pattern.as .subject <| .kind "assignment_expression"
        [.as .name <| .inField "left" .any, .as .value <| .inField "right" .any]]
  builtins :=
    ["console.*", "JSON.*", "Object.*", "Array.*", "Math.*", "Promise.*", "Number.*", "String.*",
      "Date.*", "require", "parseInt", "parseFloat", "String", "Number", "Boolean", "Error",
      "setTimeout", "setInterval", "clearTimeout", "clearInterval", "push", "forEach", "map",
      "filter", "reduce", "join", "split", "slice", "includes", "then", "catch", "finally",
      "toString", "res.*", "useState", "useEffect", "useMemo", "useCallback", "useRef"]
  params := plainParams
  importsOf := scriptImports
  exportsOf := scriptExports
  isExported _ name declared := declared.any (name ∈ ·)

end WorkflowAtlas.Grammar
