import WorkflowAtlas.Workflow.Graph

/-!
# Membership

A **membership** says which workflow, by its number, a node belongs to. It starts from hints and grows
by **adoption**: a pass gives each node without a workflow the one of a neighbour that had one before
the pass, the first edge deciding. So a pass reaches one step further from where membership started.
-/

namespace WorkflowAtlas

/-- **A membership**: ids, each once, with the number of their workflow. -/
abbrev Membership := List (String × Nat)

namespace Membership

/-- The workflow of an id. -/
def get? (membership : Membership) (id : String) : Option Nat :=
  membership.lookup id

/-- The node without a workflow at one end of an edge, with the workflow at the other end. -/
def orphan? (membership : Membership) (edge : FlowEdge) : Option (String × Nat) :=
  match membership.get? edge.source, membership.get? edge.target with
  | some workflow, none => some (edge.target, workflow)
  | none, some workflow => some (edge.source, workflow)
  | _, _ => none

/-- What one pass adopts: each node without a workflow at most once. -/
def adoptable (graph : FlowGraph) (edges : List FlowEdge) (membership : Membership) : Membership :=
  let known := edges.filter fun edge => graph.contains edge.source && graph.contains edge.target
  (known.filterMap membership.orphan?).eraseDupsBy fun a b => a.1 == b.1

/-- **Adoption** in at most `passes` passes: the membership afterwards, and how many passes adopted
something. -/
def adopt (graph : FlowGraph) (edges : List FlowEdge) : (passes : Nat) → Membership → Membership × Nat
  | 0, membership => (membership, 0)
  | passes + 1, membership =>
    let adopted := adoptable graph edges membership
    if adopted.isEmpty then (membership, 0)
    else
      let (after, used) := adopt graph edges passes (membership ++ adopted)
      (after, used + 1)

/-- **The membership that hints propose**: a known node belongs to the first hint that names it. -/
def ofHints (graph : FlowGraph) (hints : List WorkflowHint) : Membership :=
  let named := hints.zipIdx.flatMap fun (hint, index) => hint.nodeIds.map (·, index)
  (named.filter fun (id, _) => graph.contains id).eraseDupsBy fun a b => a.1 == b.1

end Membership

/-! ## Merging -/

/-- Labels with two of them joined: the larger gives way to the smaller. -/
def joinLabels (labels : List Nat) (a b : Nat) : List Nat :=
  match labels[a]?, labels[b]? with
  | some x, some y => labels.map fun label => if label = max x y then min x y else label
  | _, _ => labels

/-- The label of each index below `count`: the smallest index that it is linked with. -/
def linkLabels (count : Nat) (links : List (Nat × Nat)) : List Nat :=
  links.foldl (fun labels (a, b) => joinLabels labels a b) (List.range count)

/-- **The groups of linked indices**, each in order, ordered by their smallest index. A link to an index
out of range does not count. -/
def mergeLinked (count : Nat) (links : List (Nat × Nat)) : List (List Nat) :=
  let labels := linkLabels count links
  let roots := labels.eraseDups
  roots.map fun root => ((labels.zipIdx).filter fun (label, _) => label = root).map (·.2)

end WorkflowAtlas
