import WorkflowAtlas.Http.Verb
import WorkflowAtlas.Workflow.Hints
import WorkflowAtlas.Workflow.Membership

/-!
# Detecting workflows

With hints, membership starts from them, grows by adoption, and workflows joined by an HTTP edge are
merged. A workflow in several pieces gets a title over each of them. An edge from one workflow into
another is turned to a **reference** in the first, and workflows without a language model node are
dropped with the titles they own.

Without hints, every node of a language model gathers what is connected with it; such clusters of
three nodes or more are the workflows.
-/

namespace WorkflowAtlas

/-- Graphs with fewer nodes are not clustered. -/
def minNodes : Nat := 5

/-- The number of adoption passes when nothing else is said. -/
def standardPasses : Nat := 10

/-- The least number of nodes of a workflow that no hint proposed. -/
def minCluster : Nat := 3

/-- **What detection finds**: the workflows, and the graph with what was added to it. -/
structure Detection where
  workflows : List Workflow
  nodes : List FlowNode
  edges : List FlowEdge
  deriving DecidableEq, Repr, Inhabited

/-- The workflow that a node is in. -/
def Detection.workflowOf? (detection : Detection) (id : String) : Option Workflow :=
  detection.workflows.find? (id ∈ ·.nodeIds)

/-! ## Groups -/

/-- **A group of merged hints**: the hint that leads it, its description, its members in order and
their connected pieces. -/
structure HintGroup where
  lead : WorkflowHint
  description : Option String
  members : List String
  pieces : List (List String)
  deriving Repr, Inhabited

namespace HintGroup

/-- The id of the title over a piece. -/
def titleId (group : HintGroup) (part : Nat) : String :=
  group.lead.id ++ "__title_" ++ toString part

/-- The numbered pieces of a group that has several. -/
def parts (group : HintGroup) : List (List String × Nat) :=
  if 1 < group.pieces.length then group.pieces.zipIdx else []

/-- The titles of a group in several pieces. -/
def titles (group : HintGroup) : List FlowNode :=
  group.parts.map fun (_, part) =>
    { id := group.titleId part
      label := group.lead.name ++ " (" ++ toString (part + 1) ++ "/" ++ toString group.pieces.length ++ ")"
      kind := .workflowTitle group.lead.id
      isEntryPoint := true }

/-- The members that a title points to: the entries of its piece, or its smallest member. -/
def heads (graph : FlowGraph) (piece : List String) : List String :=
  match graph.entries piece with
  | [] => piece.head?.toList
  | entries => entries

/-- The edges from the titles of a group. -/
def titleEdges (graph : FlowGraph) (group : HintGroup) : List FlowEdge :=
  group.parts.flatMap fun (piece, part) =>
    (heads graph piece).map fun head => { source := group.titleId part, target := head }

/-- The workflow of a group, without what detection adds to it. -/
def workflow (group : HintGroup) : Workflow where
  id := group.lead.id
  name := group.lead.name
  description := group.description
  nodeIds := group.members
  parts := group.parts.map fun (piece, part) =>
    { id := group.lead.id ++ "__part_" ++ toString part, titleNodeId := group.titleId part, nodeIds := piece }

/-- Whether the group has a language model node. -/
def isKept (graph : FlowGraph) (group : HintGroup) : Bool :=
  group.members.any graph.isLlm

end HintGroup

/-- The links between hints: pairs of different hints that an HTTP edge joins. -/
def httpLinks (membership : Membership) (edges : List FlowEdge) : List (Nat × Nat) :=
  (edges.filter fun edge => edge.label.any Http.isLabel).filterMap fun edge => do
    let a ← membership.get? edge.source
    let b ← membership.get? edge.target
    if a = b then none else some (a, b)

/-- The group of some indices of merged hints, the first of which leads. -/
def hintGroup? (graph : FlowGraph) (hints : List WorkflowHint) (membership : Membership) (indices : List Nat) :
    Option HintGroup := do
  let lead ← hints[← indices.head?]?
  let members := sortedTexts ((membership.filter fun (_, index) => index ∈ indices).map (·.1))
  return {
    lead
    description := indices.findSome? fun index => (hints[index]?).bind (·.description)
    members
    pieces := graph.pieces members }

/-- **The groups that hints make of a graph**, merged along HTTP edges. -/
def hintGroups (graph : FlowGraph) (edges : List FlowEdge) (passes : Nat) (hints : List WorkflowHint) :
    List HintGroup :=
  let hints := WorkflowHint.merge hints
  let (membership, _) := (Membership.ofHints graph hints).adopt graph edges passes
  (mergeLinked hints.length (httpLinks membership edges)).filterMap (hintGroup? graph hints membership)

/-! ## References -/

/-- A node that detection adds, with the number of the group that owns it. -/
structure Addition where
  group : Nat
  node : FlowNode
  deriving DecidableEq, Repr, Inhabited

/-- The group that owns an added id: that of the last addition with it. -/
def additionOwner? (additions : List Addition) (id : String) : Option Nat :=
  (additions.reverse.find? (·.node.id == id)).map (·.group)

/-- The number of the group that a node is a member of. -/
def groupOf? (groups : List HintGroup) (id : String) : Option Nat :=
  groups.findIdx? (id ∈ ·.members)

/-- **A crossing**: an edge from a member of one kept group to a member of another. It gives the two
groups' numbers and the groups. -/
def crossing? (graph : FlowGraph) (groups : List HintGroup) (edge : FlowEdge) :
    Option (Nat × HintGroup × HintGroup) := do
  let source ← groupOf? groups edge.source
  let target ← groupOf? groups edge.target
  let sourceGroup ← groups[source]?
  let targetGroup ← groups[target]?
  if source ≠ target && sourceGroup.isKept graph && targetGroup.isKept graph then
    some (source, sourceGroup, targetGroup)
  else none

/-- The id of the reference in a group to a node of another. -/
def referenceId (group : HintGroup) (target : String) : String :=
  group.lead.id ++ "__ref__" ++ target

/-- The reference in a group to the target of a crossing. -/
def referenceNode (graph : FlowGraph) (sourceGroup targetGroup : HintGroup) (target : String) : FlowNode where
  id := referenceId sourceGroup target
  label := ((graph.node? target).map (·.label)).getD target
  kind := .reference targetGroup.lead.id target

/-- The graph while edges are gone through: what was added, and the edges so far. -/
structure Draft where
  additions : List Addition
  edges : List FlowEdge
  deriving Repr, Inhabited

/-- One edge more: a crossing is turned to a reference, which is added unless its id is there. -/
def Draft.add (graph : FlowGraph) (groups : List HintGroup) (draft : Draft) (edge : FlowEdge) : Draft :=
  match crossing? graph groups edge with
  | none => { draft with edges := draft.edges ++ [edge] }
  | some (number, sourceGroup, targetGroup) =>
    let reference := referenceNode graph sourceGroup targetGroup edge.target
    let additions :=
      if (additionOwner? draft.additions reference.id).isSome then draft.additions
      else draft.additions ++ [⟨number, reference⟩]
    { additions, edges := draft.edges ++ [{ edge with target := reference.id }] }

/-- The titles of all groups. -/
def titleAdditions (groups : List HintGroup) : List Addition :=
  groups.zipIdx.flatMap fun (group, number) => group.titles.map (⟨number, ·⟩)

/-- The draft that all edges leave, from the titles of all groups on. -/
def drafted (graph : FlowGraph) (groups : List HintGroup) (edges : List FlowEdge) : Draft :=
  edges.foldl (Draft.add graph groups) ⟨titleAdditions groups, []⟩

/-! ## Keeping and dropping -/

/-- Whether the group with a number is kept. -/
def isKeptNumber (graph : FlowGraph) (groups : List HintGroup) (number : Nat) : Bool :=
  (groups[number]?).any (·.isKept graph)

/-- Whether an id was added to a group that is dropped. -/
def isRemoved (graph : FlowGraph) (groups : List HintGroup) (additions : List Addition) (id : String) : Bool :=
  (additionOwner? additions id).any fun number => !isKeptNumber graph groups number

/-- The workflow of a numbered group, with what was added to it. -/
def emitted (additions : List Addition) (group : HintGroup) (number : Nat) : Workflow :=
  { group.workflow with nodeIds := group.members ++ (additions.filter (·.group == number)).map (·.node.id) }

/-- **A graph rewritten along groups**: the workflows of the kept groups, and the graph with what was
added to it for them. -/
def rewritten (graph : FlowGraph) (groups : List HintGroup) (nodes : List FlowNode) (edges : List FlowEdge) :
    Detection :=
  let draft := drafted graph groups edges
  let isRemoved := isRemoved graph groups draft.additions
  { workflows := (groups.zipIdx.filter fun (group, _) => group.isKept graph).map fun (group, number) =>
      emitted draft.additions group number
    nodes := (nodes ++ draft.additions.map (·.node)).filter fun node => !isRemoved node.id
    edges := (draft.edges ++ groups.flatMap (·.titleEdges graph)).filter fun edge =>
      !isRemoved edge.source && !isRemoved edge.target }

/-- **Detection along hints.** -/
def detectByHints (passes : Nat) (nodes : List FlowNode) (edges : List FlowEdge) (hints : List WorkflowHint) :
    Detection :=
  let graph := FlowGraph.of nodes edges
  rewritten graph (hintGroups graph edges passes hints) nodes edges

/-! ## Clusters -/

/-- The clusters around the ids of language model nodes that are in no earlier one, with the id each was
found from. -/
def clustersFrom (graph : FlowGraph) : (visited : List String) → List String → List (String × List String)
  | _, [] => []
  | visited, id :: rest =>
    if id ∈ visited || !graph.isLlm id then clustersFrom graph visited rest
    else
      let cluster := graph.cluster id
      (id, cluster) :: clustersFrom graph (visited ++ cluster) rest

/-- **Detection without hints.** -/
def detectByClusters (nodes : List FlowNode) (edges : List FlowEdge) : Detection :=
  let graph := FlowGraph.of nodes edges
  let clusters := (clustersFrom graph [] graph.ids).filter fun (_, cluster) => minCluster ≤ cluster.length
  { workflows := clusters.zipIdx.map fun ((id, cluster), index) =>
      { id := "workflow_" ++ toString (index + 1)
        name := ((graph.node? id).map (·.label)).getD "" ++ " workflow"
        nodeIds := sortedTexts cluster }
    nodes
    edges }

/-! ## Detection -/

/-- Workflows by name, then by id. -/
def Workflow.le (a b : Workflow) : Bool :=
  a.name < b.name || (a.name == b.name && a.id ≤ b.id)

/-- What was found, with its workflows in order. -/
def Detection.ordered (found : Detection) : Detection :=
  { found with workflows := found.workflows.mergeSort Workflow.le }

/-- **Detection of workflows.** -/
def detect (passes : Nat) (nodes : List FlowNode) (edges : List FlowEdge) (hints : List WorkflowHint) : Detection :=
  if nodes.length < minNodes then { workflows := [], nodes, edges }
  else
    let found := if hints.isEmpty then detectByClusters nodes edges else detectByHints passes nodes edges hints
    found.ordered

end WorkflowAtlas
