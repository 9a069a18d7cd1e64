import WorkflowAtlas.Proofs.WorkflowInvariants

/-!
# What detection keeps of a graph

Detection takes back the titles of workflows that it drops, and knows them by their ids. Where an id
that was given, or that of a reference, is that of such a title, something of the graph goes with it:
`loses_given` has a node and an edge that are lost.

**The law** (`detect_retains`), for every graph, all hints and any number of passes, whatever their ids:
this is all that is lost. A node stays as often as it was given exactly if its id is no dropped title,
and every edge has an image with its source, label and flag, which stays exactly if it has no dropped
title at an end.
-/

namespace WorkflowAtlas

variable {graph : FlowGraph} {groups : List HintGroup} {nodes : List FlowNode} {edges : List FlowEdge}

/-- The ids of the titles over groups that are dropped. -/
def removedTitles (graph : FlowGraph) (groups : List HintGroup) : List String :=
  (groups.filter fun group => !group.isKept graph).flatMap (·.titleIds)

/-- **The dropped titles**: the ids that detection makes for titles and takes back. -/
def droppedTitles (passes : Nat) (nodes : List FlowNode) (edges : List FlowEdge) (hints : List WorkflowHint) :
    List String :=
  if nodes.length < minNodes || hints.isEmpty then []
  else removedTitles (FlowGraph.of nodes edges) (hintGroups (FlowGraph.of nodes edges) edges passes hints)

/-- **An image of an edge**: it has the edge's source, label and flag, and ends where the edge does or at
a reference there. -/
structure FlowEdge.Images (hints : List WorkflowHint) (edge image : FlowEdge) : Prop where
  source : image.source = edge.source
  label : image.label = edge.label
  isCriticalPath : image.isCriticalPath = edge.isCriticalPath
  target : image.target = edge.target ∨ ∃ hint ∈ hints, image.target = hint.id ++ "__ref__" ++ edge.target

/-- **All but what meets a dropped title is kept.** -/
structure Detection.Retains (dropped : List String) (nodes : List FlowNode) (edges : List FlowEdge)
    (hints : List WorkflowHint) (found : Detection) : Prop where
  /-- Dropped titles are named after hints that no workflow is named after. -/
  titles : ∀ id ∈ dropped, ∃ hint ∈ hints, (∃ part : Nat, id = hint.id ++ "__title_" ++ toString part) ∧
    ∀ workflow ∈ found.workflows, workflow.id ≠ hint.id
  /-- A node stays as often as it was given exactly if its id is no dropped title. -/
  kept : ∀ node ∈ nodes, nodes.count node ≤ found.nodes.count node ↔ node.id ∉ dropped
  /-- An edge has an image, which stays exactly if no end of it is a dropped title. -/
  images : ∃ image : FlowEdge → FlowEdge, ∀ edge ∈ edges, edge.Images hints (image edge) ∧
    (image edge ∈ found.edges ↔ edge.source ∉ dropped ∧ (image edge).target ∉ dropped)

/-- A graph that comes out as it is given is kept. -/
theorem Detection.retains_of_unchanged (hints : List WorkflowHint) {found : Detection} (sameNodes : found.nodes = nodes)
    (sameEdges : found.edges = edges) : found.Retains [] nodes edges hints where
  titles := fun id isDropped => absurd isDropped List.not_mem_nil
  kept := fun node _ => by simp [sameNodes]
  images := ⟨id, fun edge isEdge => ⟨⟨rfl, rfl, rfl, .inl rfl⟩, by simp [sameEdges, isEdge]⟩⟩

theorem Detection.Retains.ordered {dropped : List String} {hints : List WorkflowHint} {found : Detection}
    (retains : found.Retains dropped nodes edges hints) : found.ordered.Retains dropped nodes edges hints where
  titles := by
    simp only [mem_workflows_ordered]
    exact retains.titles
  kept := retains.kept
  images := retains.images

/-! ## Rewriting -/

section Apart

variable (apart : Apart graph groups)

include apart

theorem isRemoved_iff_mem (edges : List FlowEdge) {id : String} :
    isRemoved graph groups (drafted graph groups edges).additions id = true ↔ id ∈ removedTitles graph groups := by
  rw [isRemoved_iff apart, removedTitles, List.mem_flatMap]
  simp only [List.mem_filter, Bool.not_eq_true', and_assoc]

/-- No node of a rewritten graph has the id of a dropped title. -/
theorem id_notMem_of_mem_nodes {node : FlowNode} (isNode : node ∈ (rewritten graph groups nodes edges).nodes) :
    node.id ∉ removedTitles graph groups := by
  rw [← isRemoved_iff_mem apart edges]
  simpa using (List.mem_filter.mp isNode).2

theorem count_nodes_rewritten {node : FlowNode} (isNode : node ∈ nodes) :
    nodes.count node ≤ (rewritten graph groups nodes edges).nodes.count node ↔ node.id ∉ removedTitles graph groups := by
  constructor
  · intro enough
    have isThere : node ∈ (rewritten graph groups nodes edges).nodes :=
      List.count_pos_iff.mp (Nat.lt_of_lt_of_le (List.count_pos_iff.mpr isNode) enough)
    exact id_notMem_of_mem_nodes apart isThere
  · intro stays
    rw [← isRemoved_iff_mem apart edges, Bool.not_eq_true] at stays
    rw [nodes_rewritten_of_apart apart nodes, List.count_append, List.count_filter (by simp [stays])]
    exact Nat.le_add_right _ _

/-- **A turned edge stays exactly if no end of it is a dropped title.** -/
theorem turned_mem_edges_rewritten {edge : FlowEdge} (isEdge : edge ∈ edges) :
    turned graph groups edge ∈ (rewritten graph groups nodes edges).edges ↔
      edge.source ∉ removedTitles graph groups ∧ (turned graph groups edge).target ∉ removedTitles graph groups := by
  have isDrafted : turned graph groups edge ∈ (drafted graph groups edges).edges := by
    rw [(drafted_spec apart edges).edges]
    exact List.mem_map_of_mem isEdge
  have isThere : turned graph groups edge ∈ (rewritten graph groups nodes edges).edges ↔
      isRemoved graph groups (drafted graph groups edges).additions edge.source = false ∧
        isRemoved graph groups (drafted graph groups edges).additions (turned graph groups edge).target = false := by
    rw [rewritten, List.mem_filter, List.mem_append, turned_source]
    simp [isDrafted]
  rw [isThere, ← isRemoved_iff_mem apart edges, ← isRemoved_iff_mem apart edges,
    Bool.not_eq_true, Bool.not_eq_true]

/-- A turned edge is an image, where leading hints have ids of hints. -/
theorem turned_images {hints : List WorkflowHint} (leads : ∀ group ∈ groups, ∃ hint ∈ hints, hint.id = group.lead.id)
    (edge : FlowEdge) : edge.Images hints (turned graph groups edge) := by
  unfold turned
  cases calls : reference? graph groups edge with
  | none => exact ⟨rfl, rfl, rfl, .inl rfl⟩
  | some reference =>
    obtain ⟨⟨number, a, b⟩, crosses, rfl⟩ := Option.map_eq_some_iff.mp calls
    obtain ⟨_, _, atNumber, _⟩ := (crossing?_eq_some apart).mp crosses
    obtain ⟨hint, isHint, same⟩ := leads a (List.mem_of_getElem? atNumber)
    exact ⟨rfl, rfl, rfl, .inr ⟨hint, isHint, by rw [same]; rfl⟩⟩

/-- The lead of a dropped group names no workflow. -/
theorem id_ne_of_dropped {group : HintGroup} (isGroup : group ∈ groups) (dropped : group.isKept graph = false)
    {workflow : Workflow} (isWorkflow : workflow ∈ (rewritten graph groups nodes edges).workflows) :
    workflow.id ≠ group.lead.id := by
  obtain ⟨number, other, atNumber, kept, rfl⟩ := mem_workflows_rewritten.mp isWorkflow
  intro same
  obtain rfl := List.inj_on_of_nodup_map apart.leads (List.mem_of_getElem? atNumber) isGroup same
  rw [dropped] at kept
  cases kept

theorem rewritten_retains {hints : List WorkflowHint}
    (leads : ∀ group ∈ groups, ∃ hint ∈ hints, hint.id = group.lead.id) :
    (rewritten graph groups nodes edges).Retains (removedTitles graph groups) nodes edges hints where
  titles := by
    intro id isDropped
    obtain ⟨group, isDropped, isTitle⟩ := List.mem_flatMap.mp isDropped
    obtain ⟨isGroup, dropped⟩ := List.mem_filter.mp isDropped
    obtain ⟨hint, isHint, same⟩ := leads group isGroup
    obtain ⟨part, isPart⟩ := HintGroup.exists_of_mem_titleIds isTitle
    refine ⟨hint, isHint, ⟨part, by rw [same]; exact isPart⟩, fun workflow isWorkflow => ?_⟩
    rw [same]
    exact id_ne_of_dropped apart isGroup (by simpa using dropped) isWorkflow
  kept := fun node isNode => count_nodes_rewritten apart isNode
  images := ⟨turned graph groups, fun edge isEdge =>
    ⟨turned_images apart leads edge, turned_mem_edges_rewritten apart isEdge⟩⟩

end Apart

/-! ## Detection -/

/-- **Detection keeps all but what meets a dropped title.** -/
theorem detect_retains (passes : Nat) (nodes : List FlowNode) (edges : List FlowEdge) (hints : List WorkflowHint) :
    (detect passes nodes edges hints).Retains (droppedTitles passes nodes edges hints) nodes edges hints := by
  unfold droppedTitles
  split
  · next unchanged =>
    have isEither : nodes.length < minNodes ∨ hints = [] := by simpa using unchanged
    rcases isEither with small | rfl
    · rw [detect, if_pos small]
      exact Detection.retains_of_unchanged hints rfl rfl
    · unfold detect
      split
      · exact Detection.retains_of_unchanged [] rfl rfl
      · exact Detection.retains_of_unchanged [] rfl rfl
  · next hinted =>
    have ⟨enough, nonEmpty⟩ : minNodes ≤ nodes.length ∧ hints ≠ [] := by simpa using hinted
    rw [detect_hinted passes edges enough nonEmpty]
    exact (rewritten_retains (hintGroups_apart _ edges passes hints) fun _ => exists_hint_of_lead).ordered

/-- A node that has the id of a title over the tools, which are dropped. -/
def lostNodes : List FlowNode :=
  [{ id := "plan", label := "Plan", kind := .llm none }, { id := "open", label := "Open", kind := .tool },
    { id := "close", label := "Close", kind := .tool }, { id := "log", label := "Log", kind := .tool },
    { id := "tools__title_0", label := "Heading", kind := .tool }]

def lostHints : List WorkflowHint :=
  [{ id := "tools", name := "Tools", nodeIds := ["open", "close"] }]

/-- Two language model nodes, the second of which is called like a title. -/
def crossedNodes : List FlowNode :=
  [{ id := "plan", label := "Plan", kind := .llm none }, { id := "q__title_0", label := "Q", kind := .llm none },
    { id := "open", label := "Open", kind := .tool }, { id := "close", label := "Close", kind := .tool },
    { id := "log", label := "Log", kind := .tool }]

def crossedEdges : List FlowEdge :=
  [{ source := "plan", target := "q__title_0" }]

def crossedHints : List WorkflowHint :=
  [{ id := "w", name := "W", nodeIds := ["plan"] }, { id := "v", name := "V", nodeIds := ["q__title_0"] },
    { id := "w__ref__q", name := "Tools", nodeIds := ["open", "close"] }]

/-- **Detection may lose a node that was given**, and an edge between nodes that it keeps: the reference that
the edge is turned to has the id of a dropped title. -/
theorem loses_given :
    (∃ node ∈ lostNodes, (detect standardPasses lostNodes [] lostHints).nodes.count node < lostNodes.count node) ∧
    (detect standardPasses crossedNodes crossedEdges crossedHints).nodes = crossedNodes ∧
    ∃ edge ∈ crossedEdges, ∀ image ∈ (detect standardPasses crossedNodes crossedEdges crossedHints).edges,
      image.source ≠ edge.source := by
  decide +kernel

end WorkflowAtlas
