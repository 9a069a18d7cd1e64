import WorkflowAtlas.Grammar.Basic

/-!
# Rust

A definition is exported when it has a visibility modifier. A use declaration is a **use tree**: its
leaves are the imports, each with the path of the braces that enclose it in front.
-/

namespace WorkflowAtlas

open WorkflowAtlas.Text

/-- **A use tree.** -/
inductive UseTree where
  /-- `path::name`; the path may be empty. -/
  | scoped (path name : String)
  /-- A name alone; `self` stands for the module in front. -/
  | leaf (text : String)
  /-- `path::name as alias`, or without a path `name as alias`. -/
  | renamed (path : Option String) (name asName : String)
  /-- `path::{…}`; the path may be empty. -/
  | under (path : String) (items : List UseTree)
  /-- `{…}`. -/
  | braces (items : List UseTree)
  /-- `path::*`. -/
  | every (path : String)
  deriving Inhabited, Repr

namespace UseTree

/-- The text of a field, empty when it is missing. -/
def fieldText (node : ParseTree) (field : String) : String :=
  ((node.child? field).map (·.text)).getD ""

mutual

/-- **The use tree of a node**; nodes of other kinds are none. -/
def ofNode? : ParseTree → Option UseTree
  | .node label children =>
    let node := ParseTree.node label children
    match label.kind with
    | "scoped_identifier" => (node.child? "name").map fun name => .scoped (fieldText node "path") name.text
    | "identifier" => some (.leaf label.text)
    | "crate" => some (.leaf label.text)
    | "super" => some (.leaf label.text)
    | "self" => some (.leaf label.text)
    | "use_as_clause" => do
      let path ← node.child? "path"
      let asName ← node.child? "alias"
      if path.kind = "scoped_identifier" then
        some (.renamed (some (fieldText path "path")) (fieldText path "name") asName.text)
      else some (.renamed none path.text asName.text)
    | "scoped_use_list" => some (.under (fieldText node "path") (listItems children))
    | "use_list" => some (.braces (ofNodes children))
    | "use_wildcard" => some (.every ((node.parts.head?.map (·.text)).getD ""))
    | _ => none

/-- The use trees of the first list among some nodes. -/
def listItems : List ParseTree → List UseTree
  | [] => []
  | .node label children :: rest => if label.field = "list" then ofNodes children else listItems rest

/-- The use trees of the parts among some nodes. -/
def ofNodes : List ParseTree → List UseTree
  | [] => []
  | tree :: rest =>
    if tree.named && !ParseTree.isCommentKind tree.kind then (ofNode? tree).toList ++ ofNodes rest
    else ofNodes rest

end

/-- A path after the path of the braces around it. -/
def joinPath (base : Option String) (path : String) : String :=
  match base with
  | some base => if base.isEmpty then path else base ++ "::" ++ path
  | none => path

/-- The last segment of a path. -/
def lastSegment (path : String) : String :=
  String.ofList (afterLastMark [':', ':'] path.toList)

mutual

/-- **The imports of a use tree** under the path of the braces around it, one for each leaf. -/
def imports (line : Nat) (base : Option String) : UseTree → List Import
  | .scoped path name => [{ source := joinPath base path, names := [⟨name, none⟩], line }]
  | .leaf text =>
    match base with
    | none => [{ source := text, asName := some text, line }]
    | some base =>
      if text = "self" then [{ source := base, asName := some (lastSegment base), line }]
      else [{ source := base, names := [⟨text, none⟩], line }]
  | .renamed path name asName =>
    let source := match path with
      | some path => joinPath base path
      | none => base.getD ""
    [{ source, names := [⟨name, some asName⟩], line }]
  | .under path items => importsOf line (some (joinPath base path)) items
  | .braces items => importsOf line base items
  | .every path => [{ source := joinPath base path, names := [⟨"*", none⟩], line }]

/-- The imports of several use trees under one path. -/
def importsOf (line : Nat) (base : Option String) : List UseTree → List Import
  | [] => []
  | tree :: rest => imports line base tree ++ importsOf line base rest

end

end UseTree

namespace Grammar

/-- The imports of a use declaration. -/
def rustImports (_root node : ParseTree) : List Import :=
  match (node.child? "argument").bind UseTree.ofNode? with
  | some tree => tree.imports node.line none
  | none => []

/-- **Rust.** -/
def rust : Grammar where
  functions := [Pattern.as .subject <| .kind "function_item" [.as .name <| .inField "name" <| .kind "identifier"]]
  calls :=
    [Pattern.as .subject <| .kind "call_expression" [.as .callee <| .inField "function" .any],
      Pattern.as .subject <| .kind "macro_invocation" [.as .callee <| .inField "macro" .any]]
  imports := [Pattern.as .subject <| .kind "use_declaration" [.inField "argument" .any]]
  bindings := [Pattern.as .subject <| .kind "let_declaration"
    [.as .name <| .inField "pattern" <| .kind "identifier", .as .value <| .inField "value" .any]]
  builtins :=
    ["println!", "print!", "eprintln!", "eprint!", "format!", "vec!", "write!", "writeln!",
      "assert!", "assert_eq!", "assert_ne!", "debug_assert!", "panic!", "todo!", "unimplemented!",
      "unreachable!", "matches!", "trace!", "debug!", "info!", "warn!", "error!", "Some", "Ok",
      "Err", "Box::new", "String::from", "Vec::new", "clone", "to_string", "to_owned", "unwrap",
      "expect", "into", "iter", "collect", "as_str", "len", "push", "is_empty"]
  params := plainParams
  callee? call callee := callee.map fun callee =>
    if call.kind = "macro_invocation" then callee.calleeText ++ "!" else callee.calleeText
  importsOf := rustImports
  isExported definition _ _ := definition.hasChildOfKind "visibility_modifier"

end Grammar

end WorkflowAtlas
