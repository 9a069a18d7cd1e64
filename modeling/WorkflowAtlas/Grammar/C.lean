import WorkflowAtlas.Grammar.Basic

/-!
# C and C++

A function's name and parameters stand in its declarator, behind pointers. An include brings in every
name of the header; system headers are no part of a repository. In C++ a qualified name counts by its
last segment.
-/

namespace WorkflowAtlas.Grammar

open WorkflowAtlas.Text

mutual

/-- The parameters of a declarator: its own, or those of the declarator inside it. -/
def declaratorParams : ParseTree → List String
  | .node label children =>
    if label.kind = "function_declarator" then
      match (ParseTree.node label children).child? "parameters" with
      | some list => list.parts.map fun part => collapse part.text
      | none => []
    else nextDeclaratorParams children

/-- The parameters of the first declarator among some nodes. -/
def nextDeclaratorParams : List ParseTree → List String
  | [] => []
  | tree :: rest => if tree.label.field = "declarator" then declaratorParams tree else nextDeclaratorParams rest

end

/-- The parameters of a definition. -/
def declaredParams (definition : ParseTree) : List String :=
  nextDeclaratorParams definition.children

/-- An include of a header by its quoted path. -/
def includes (_root node : ParseTree) : List Import :=
  match (node.child? "path").bind ParseTree.stringValue? with
  | some source => [{ source, names := [⟨"*", none⟩], line := node.line }]
  | none => []

/-- The patterns of a definition whose name is met by a pattern. -/
def declaredFunctions (name : Pattern) : Query :=
  let declarator := Pattern.inField "declarator" <| .kind "function_declarator"
    [.as .name <| .inField "declarator" name]
  [Pattern.as .subject <| .kind "function_definition" [declarator],
    Pattern.as .subject <| .kind "function_definition"
      [.inField "declarator" <| .kind "pointer_declarator" [declarator]]]

/-- **C.** -/
def c : Grammar where
  functions := declaredFunctions (.kind "identifier")
  calls := [Pattern.as .subject <| .kind "call_expression" [.as .callee <| .inField "function" .any]]
  imports := [Pattern.as .subject <| .kind "preproc_include" [.inField "path" .any]]
  builtins :=
    ["printf", "fprintf", "sprintf", "snprintf", "puts", "putchar", "malloc", "calloc", "realloc",
      "free", "memcpy", "memset", "memmove", "strlen", "strcpy", "strncpy", "strcmp", "strncmp",
      "strcat", "exit", "assert", "sizeof", "fopen", "fclose", "fread", "fwrite"]
  params := declaredParams
  importsOf := includes

/-- **C++.** -/
def cpp : Grammar where
  functions := declaredFunctions .any
  calls := [Pattern.as .subject <| .kind "call_expression" [.as .callee <| .inField "function" .any]]
  imports := [Pattern.as .subject <| .kind "preproc_include" [.inField "path" .any]]
  builtins :=
    ["std::*", "printf", "fprintf", "snprintf", "puts", "malloc", "free", "memcpy", "memset",
      "strlen", "assert", "size", "begin", "end", "push_back", "emplace_back", "c_str"]
  functionName? _ name := do
    let last := trimChars (afterLastMark [':', ':'] (← name).text.toList)
    if last.isEmpty then none else some (String.ofList last)
  params := declaredParams
  importsOf := includes

end WorkflowAtlas.Grammar
