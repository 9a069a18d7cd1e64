import WorkflowAtlas.SortedMap
import WorkflowAtlas.Json.Basic

/-!
# Call tables

A **call table** lists the callees of each function of a file. Two tables have the same structure when
they name the same functions with the same sets of callees, whatever the order and repetition of
callees; `changes` lists what differs.
-/

namespace WorkflowAtlas

/-- **A call table**: function names in order, each with its callees. -/
abbrev CallTable := SortedMap (List String)

namespace CallTable

/-- A call written with an arrow. -/
def arrow (caller callee : String) : String :=
  caller ++ "->" ++ callee

/-- The calls of a table as arrows in order, each once. -/
def arrows (table : CallTable) : List String :=
  sortedTexts (table.entries.flatMap fun (caller, callees) => callees.map (arrow caller))

/-- Whether two lists of callees are the same set. -/
def sameCallees (a b : List String) : Bool :=
  a.all (· ∈ b) && b.all (· ∈ a)

def toJson (table : CallTable) : Json :=
  .obj (table.entries.map fun (name, callees) => (name, .strings callees))

end CallTable

/-- **What differs between two call tables.** -/
@[ext]
structure CallChanges where
  addedFunctions : List String := []
  removedFunctions : List String := []
  /-- Functions of both tables whose sets of callees differ. -/
  modifiedFunctions : List String := []
  addedCalls : List String := []
  removedCalls : List String := []
  deriving DecidableEq, Repr, Inhabited

namespace CallChanges

/-- Whether anything differs. -/
def isChange (changes : CallChanges) : Bool :=
  !(changes.addedFunctions.isEmpty && changes.removedFunctions.isEmpty && changes.modifiedFunctions.isEmpty &&
    changes.addedCalls.isEmpty && changes.removedCalls.isEmpty)

def toJson (changes : CallChanges) : Json :=
  .obj [("addedFunctions", .strings changes.addedFunctions), ("removedFunctions", .strings changes.removedFunctions),
    ("modifiedFunctions", .strings changes.modifiedFunctions), ("addedEdges", .strings changes.addedCalls),
    ("removedEdges", .strings changes.removedCalls)]

end CallChanges

/-- **The changes from one call table to another.** -/
def CallTable.changes (old new : CallTable) : CallChanges where
  addedFunctions := new.keys.filter fun name => !old.contains name
  removedFunctions := old.keys.filter fun name => !new.contains name
  modifiedFunctions := (new.entries.filter fun (name, callees) =>
    (old.get? name).any fun before => !sameCallees before callees).map (·.1)
  addedCalls := new.arrows.filter (· ∉ old.arrows)
  removedCalls := old.arrows.filter (· ∉ new.arrows)

end WorkflowAtlas
