import WorkflowAtlas.Grammar.Basic

/-!
# Lua

A definition counts by the last segment of its name and is exported unless it is local. A module is
imported by a call of `require` and bound to the variable that the call is assigned to.
-/

namespace WorkflowAtlas.Grammar

open WorkflowAtlas.Text

/-- The first variable of an assignment. -/
def assignedName? (statement : ParseTree) : Option String := do
  let variableNames ← statement.parts.head?
  return (variableNames.parts.head?.getD variableNames).text

/-- The variable that the nearest assignment among the three nodes above a call assigns to. -/
def luaBinding? (above : List ParseTree) : Option String := do
  let node ← (above.take 3).find? fun node => node.kind ∈ ["assignment_statement", "variable_declaration"]
  if node.kind = "variable_declaration" then assignedName? ((node.childOfKind? ["assignment_statement"]).getD node)
  else assignedName? node

/-- The import that a call of `require` makes. -/
def luaImports (root node : ParseTree) : List Import :=
  match node.arguments.findSome? ParseTree.stringValue? with
  | none => []
  | some source => [{ source, asName := (root.ancestors? node.place).bind luaBinding?, line := node.line }]

/-- **Lua.** -/
def lua : Grammar where
  functions := [Pattern.as .subject <| .kind "function_declaration"]
  calls := [Pattern.as .subject <| .kind "function_call" [.as .callee <| .inField "name" .any]]
  imports := [Pattern.as .subject <| .kind "function_call"
    [.as .aside <| .withText "require" <| .inField "name" <| .kind "identifier"]]
  builtins :=
    ["print", "pairs", "ipairs", "tostring", "tonumber", "type", "error", "assert", "pcall",
      "xpcall", "require", "setmetatable", "getmetatable", "select", "unpack", "string.*",
      "table.*", "math.*", "os.*", "io.*"]
  functionName? definition _ := do
    let name ← (definition.child? "name").or (definition.childOfKind? ["identifier"])
    let last := Callee.simpleName name.calleeText
    if last.isEmpty then none else some last
  params := plainParams
  importsOf := luaImports
  isExported definition _ _ := definition.children.head?.all (·.kind != "local")

end WorkflowAtlas.Grammar
