import WorkflowAtlas.SortedMap
import WorkflowAtlas.Text.Cut
import WorkflowAtlas.Workflow.Basic

/-!
# Hints

Hints that share an id are **merged** into the first of them. A hint that names a node under a path
which the analysis did not see is **repaired**: its id gives way to a known one with the same function
whose file matches, by path suffix before file name.
-/

namespace WorkflowAtlas

open WorkflowAtlas.Text

namespace WorkflowHint

/-- A hint with another of its id merged in: node ids that are not there yet are added in order, and a
description fills a missing one. -/
def absorb (hint other : WorkflowHint) : WorkflowHint :=
  { hint with
    nodeIds := (hint.nodeIds ++ other.nodeIds).eraseDups
    description := hint.description.or other.description }

/-- Merged hints with one more: into the one that has its id, or at the end. -/
def insertInto (merged : List WorkflowHint) (hint : WorkflowHint) : List WorkflowHint :=
  if merged.any (·.id == hint.id) then
    merged.map fun first => if first.id = hint.id then first.absorb hint else first
  else merged ++ [{ hint with nodeIds := hint.nodeIds.eraseDups }]

/-- **Hints merged by id.** -/
def merge (hints : List WorkflowHint) : List WorkflowHint :=
  hints.foldl insertInto []

end WorkflowHint

/-! ## Repair -/

/-- The file and the name of the function in the id of a node. -/
def splitNodeId? (id : String) : Option (List Char × List Char) :=
  cutAt [':', ':'] id.toList

/-- The id of a file and the name of a function. -/
def joinNodeId (file function : List Char) : String :=
  String.ofList (file ++ ':' :: ':' :: function)

/-- The files in which a function is known, in the order of its ids. -/
def filesOf (known : List String) (function : List Char) : List (List Char) :=
  (((sortedTexts known).filterMap splitNodeId?).filter (·.2 = function)).map (·.1)

/-- The last segment of a path. -/
def lastName (file : List Char) : List Char :=
  lastPiece (· == '/') file

/-- Whether one of two paths ends in the other, a slash in front. -/
def suffixMatch (a b : List Char) : Bool :=
  ('/' :: b).isSuffixOf a || ('/' :: a).isSuffixOf b

/-- **The known id that an unknown one stands for**: the same function in a file with a matching path,
or else with the same name; of several the smallest. -/
def repairedId? (known : List String) (id : String) : Option String := do
  let (file, function) ← splitNodeId? id
  let files := filesOf known function
  let found ← (files.find? (suffixMatch · file)).or (files.find? (lastName · = lastName file))
  return joinNodeId found function

/-- An id with its repair, if it needs one and has one. -/
def repairId (known : List String) (id : String) : String × Bool :=
  if id ∈ known then (id, false)
  else
    match repairedId? known id with
    | some repaired => (repaired, true)
    | none => (id, false)

/-- A hint with its ids repaired, and how many were. -/
def WorkflowHint.repair (known : List String) (hint : WorkflowHint) : WorkflowHint × Nat :=
  let ids := hint.nodeIds.map (repairId known)
  ({ hint with nodeIds := ids.map (·.1) }, ids.countP (·.2))

/-- **Hints with their ids repaired**, and how many were. -/
def repairHints (known : List String) (hints : List WorkflowHint) : List WorkflowHint × Nat :=
  let repaired := hints.map (·.repair known)
  (repaired.map (·.1), (repaired.map (·.2)).foldl (· + ·) 0)

end WorkflowAtlas
