import WorkflowAtlas.Callee
import WorkflowAtlas.Literal
import WorkflowAtlas.Facts.Basic
import WorkflowAtlas.ParseTree.Query

/-!
# Reading a language's parse trees

A **grammar** holds what the library knows of one language's parse trees: queries for definitions,
calls, imports, exports, decorated definitions and bindings, and how to read a function, a call, an
imported or an exported name off the nodes that they capture. Most languages share most readers; this
module has the shared ones, and one module for each language says where it differs.
-/

namespace WorkflowAtlas

open WorkflowAtlas.Text

/-! ## Shared readers -/

/-- The kinds of string literals. -/
def stringKinds : List String :=
  ["string", "string_literal", "template_string", "interpreted_string_literal", "raw_string_literal",
    "line_string_literal", "multi_line_string_literal"]

/-- The kinds of function literals. -/
def functionLiteralKinds : List String :=
  ["arrow_function", "function_expression", "function", "lambda", "func_literal", "closure_expression",
    "lambda_expression", "lambda_literal", "function_definition"]

/-- The kinds of expressions that refer to a function. -/
def functionReferenceKinds : List String :=
  ["identifier", "simple_identifier", "member_expression", "attribute", "selector_expression",
    "field_expression", "scoped_identifier", "navigation_expression", "dot_index_expression",
    "method_reference"]

namespace ParseTree

/-- The content of a string literal. -/
def stringValue? (tree : ParseTree) : Option String :=
  if tree.kind ∈ stringKinds then some (Literal.content tree.text) else none

def isFunctionLiteral (tree : ParseTree) : Bool :=
  tree.kind ∈ functionLiteralKinds

def isFunctionReference (tree : ParseTree) : Bool :=
  tree.kind ∈ functionReferenceKinds

/-- The text of a node as a callee. -/
def calleeText (tree : ParseTree) : String :=
  Callee.normalize tree.text

/-- The arguments in the suffix of a call: each labelled value, and a closure behind them. -/
def suffixArguments (suffix : ParseTree) : List ParseTree :=
  suffix.parts.flatMap fun part =>
    if part.kind = "value_arguments" then
      part.parts.map fun argument => argument.parts.getLast?.getD argument
    else [part]

/-- **The arguments of a call** in order. A string may be the whole argument list. -/
def arguments (call : ParseTree) : List ParseTree :=
  match (call.child? "arguments").or (call.childOfKind? ["argument_list", "arguments", "value_arguments"]) with
  | some list => if list.kind = "string" then [list] else list.parts
  | none => ((call.childOfKind? ["call_suffix"]).map suffixArguments).getD []

/-- The first argument that is a string literal: its content, and the arguments behind it. -/
def firstString? : List ParseTree → Option (String × List ParseTree)
  | [] => none
  | argument :: rest =>
    match argument.stringValue? with
    | some value => some (value, rest)
    | none => firstString? rest

/-- Whether one of a node's children marks it as asynchronous. -/
def hasAsyncMark (tree : ParseTree) : Bool :=
  tree.children.any fun child =>
    child.kind == "async" || (child.kind == "function_modifiers" && hasMark "async".toList child.text.toList)

/-- The kinds that wrap the expression which produces a value. -/
def wrapperKinds : List String :=
  ["await", "await_expression", "new_expression", "parenthesized_expression", "expression_list"]

mutual

/-- **The expression that produces a value**, through waiting, construction and parentheses. -/
def unwrapped : ParseTree → ParseTree
  | .node label children =>
    if label.kind ∈ wrapperKinds then (firstUnwrapped? children).getD (.node label children)
    else .node label children

/-- The expression that the first named node of a list produces. -/
def firstUnwrapped? : List ParseTree → Option ParseTree
  | [] => none
  | tree :: rest => if tree.named then some (unwrapped tree) else firstUnwrapped? rest

end

end ParseTree

/-! ## Grammars -/

/-- **What is known of a language's parse trees.** -/
structure Grammar where
  functions : Query
  calls : Query
  imports : Query
  exports : Query := []
  decorated : Query := []
  bindings : Query := []
  /-- Callees that are left out of call lists: a name, a whole callee, or a start followed by `*`. -/
  builtins : List String
  /-- The name of a definition. -/
  functionName? : (definition : ParseTree) → (name : Option ParseTree) → Option String :=
    fun _ name => name.map fun name => collapse name.text
  params : (definition : ParseTree) → List String
  /-- The callee of a call. -/
  callee? : (call : ParseTree) → (callee : Option ParseTree) → Option String :=
    fun _ callee => callee.map ParseTree.calleeText
  /-- The imports that a node of the tree below `root` makes. -/
  importsOf : (root node : ParseTree) → List Import
  /-- The names that a node declares exported. -/
  exportsOf : (node : ParseTree) → List String := fun _ => []
  /-- Whether a definition is exported; `declared` has the names that the file declares so, if it
  declares any. -/
  isExported : (definition : ParseTree) → (name : String) → (declared : Option (List String)) → Bool :=
    fun _ _ _ => true
  /-- The decorator calls on a definition. -/
  decorators : (node : ParseTree) → List ParseTree := fun _ => []

namespace Grammar

/-- The parameters of a definition, or of the function that it names. -/
def plainParams (definition : ParseTree) : List String :=
  let list := (definition.child? "parameters").or do
    let value ← definition.child? "value"
    (value.child? "parameters").or (value.child? "parameter")
  match list with
  | some list => if list.kind = "identifier" then [list.text] else list.parts.map fun part => collapse part.text
  | none => []

/-- Whether a definition, or the function that it names, is asynchronous. -/
def isAsync (definition : ParseTree) : Bool :=
  definition.hasAsyncMark || (definition.child? "value").any ParseTree.hasAsyncMark

/-- Whether one entry of a list of builtins covers a callee. An entry with a dot or colon is a whole
callee; another is a simple name as well. -/
def covers (callee entry : String) : Bool :=
  match before? ['*'] entry.toList with
  | some start => start.isPrefixOf callee.toList
  | none =>
    if entry.toList.any fun c => c == '.' || c == ':' then callee == entry
    else Callee.simpleName callee == entry || callee == entry

/-- **Whether a callee is built in**, and so no call of interest. -/
def isBuiltin (grammar : Grammar) (callee : String) : Bool :=
  grammar.builtins.any (covers callee)

/-- Whether the language has queries for definitions and calls. -/
def isComplete (grammar : Grammar) : Bool :=
  !grammar.functions.isEmpty && !grammar.calls.isEmpty

end Grammar

end WorkflowAtlas
