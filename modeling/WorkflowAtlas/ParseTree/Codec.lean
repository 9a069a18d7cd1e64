import WorkflowAtlas.ParseTree.Basic
import WorkflowAtlas.Json.Decoder

/-!
# Parse trees in JSON

A parse tree is the list of its rows. A row is an array: the kind, the flags, the field, the first byte
and the byte after the last, the first and last line, and the number of children. An odd flag marks a
named node.
-/

namespace WorkflowAtlas.ParseTree

/-- **A row of a parse tree.** -/
def Row.decode : Decoder Row
  | .arr [kind, flags, field, start, stop, firstRow, lastRow, children] _ => do
    return {
      kind := ← Decoder.string kind
      named := (← Decoder.nat64 flags) % 2 = 1
      field := ← Decoder.string field
      start := ← Decoder.nat64 start
      stop := ← Decoder.nat64 stop
      firstRow := ← Decoder.nat64 firstRow
      lastRow := ← Decoder.nat64 lastRow
      children := ← Decoder.nat64 children }
  | _ => .error .mismatch

/-- **The tree of a text**, from its rows or from nothing. -/
def decode (code : String) : Decoder (Option ParseTree) := fun doc => do
  let rows ← Decoder.nullable (.list Row.decode) doc
  return ofRows? code (rows.getD [])

end WorkflowAtlas.ParseTree
