import WorkflowAtlas.Proofs.WorkflowInvariants

/-!
# Which workflows there are

**The law** (`detect_classifies`): along hints, the workflows are the classes of ids under chains of HTTP
edges between ids that belong to hints, as far as a class has a language model node. A workflow has the
id and the name of the smallest hint of its class and the first description that a hint of it has, and
lists the ids of the class before what was added to it.

Nothing is asked of added ids here. So an id that was added may be that of a given node too, and then a
workflow lists an id of the graph that is not of its class; and of several nodes with one id the last
says what the id is. `lists_beyond_class` has a graph for each.
-/

namespace WorkflowAtlas

variable {graph : FlowGraph} {groups : List HintGroup} {passes : Nat} {nodes : List FlowNode} {edges : List FlowEdge}
  {hints : List WorkflowHint}

/-- **A node made for a workflow**: a title of it, or a reference in it, with the id that such a node gets. -/
def Workflow.Owns (workflow : Workflow) (node : FlowNode) : Prop :=
  (node.kind = .workflowTitle workflow.id ∧ ∃ part : Nat, node.id = workflow.id ++ "__title_" ++ toString part) ∨
    ∃ other target, node.kind = .reference other target ∧ node.id = workflow.id ++ "__ref__" ++ target

/-- **A workflow is the class of a hint**, where `created` are the nodes that were added. -/
structure Workflow.IsClass (hintOf : String → Option Nat) (edges : List FlowEdge) (hints : List WorkflowHint)
    (created : List FlowNode) (workflow : Workflow) (root : Nat) : Prop where
  /-- The hint is the smallest of the class. -/
  least : ∀ i, HttpLinked hintOf edges root i → root ≤ i
  lead : ∃ hint, hints[root]? = some hint ∧ workflow.id = hint.id ∧ workflow.name = hint.name
  /-- The description is that of the smallest hint of the class that has one. -/
  description : ∀ text, workflow.description = some text ↔ ∃ i, HttpLinked hintOf edges root i ∧
    (hints[i]?).bind (·.description) = some text ∧
    ∀ j, HttpLinked hintOf edges root j → j < i → (hints[j]?).bind (·.description) = none
  /-- The ids of the class are listed, each once, and then what was added. -/
  nodeIds : ∃ (members : List String) (added : List FlowNode), workflow.nodeIds = members ++ added.map (·.id) ∧ members.Nodup ∧
    (∀ id, id ∈ members ↔ InClass hintOf edges root id) ∧ ∀ node ∈ added, node ∈ created ∧ workflow.Owns node

/-- **The workflows are the classes with a language model node.** -/
structure Detection.Classifies (graph : FlowGraph) (hintOf : String → Option Nat) (nodes : List FlowNode)
    (edges : List FlowEdge) (hints : List WorkflowHint) (created : List FlowNode) (found : Detection) : Prop where
  extended : ∃ given, given.Sublist nodes ∧ found.nodes = given ++ created
  synthetic : ∀ node ∈ created, node.kind.isSynthetic
  sound : ∀ workflow ∈ found.workflows, ∃ root, workflow.IsClass hintOf edges hints created root ∧
    ∃ id, InClass hintOf edges root id ∧ graph.isLlm id
  complete : ∀ i id, InClass hintOf edges i id → graph.isLlm id → ∃ workflow ∈ found.workflows, ∃ root,
    HttpLinked hintOf edges root i ∧ workflow.IsClass hintOf edges hints created root
  /-- No class has two workflows. -/
  once : (found.workflows.map (·.id)).Nodup

theorem Detection.Classifies.ordered {hintOf : String → Option Nat} {created : List FlowNode} {found : Detection}
    (classifies : found.Classifies graph hintOf nodes edges hints created) :
    found.ordered.Classifies graph hintOf nodes edges hints created := by
  have perm : found.ordered.workflows.Perm found.workflows := List.mergeSort_perm _ _
  refine ⟨classifies.extended, classifies.synthetic, ?_, ?_, (perm.map _).nodup_iff.mpr classifies.once⟩ <;>
    simp only [mem_workflows_ordered]
  · exact classifies.sound
  · exact classifies.complete

/-- What was added to the workflow of a kept group was created for it. -/
theorem owns_of_addition (apart : Apart graph groups) {number : Nat} {group : HintGroup}
    (atNumber : groups[number]? = some group) (kept : group.isKept graph) {addition : Addition}
    (added : addition ∈ (drafted graph groups edges).additions) (owned : addition.group = number) :
    addition.node ∈ created graph groups edges ∧
      (emitted (drafted graph groups edges).additions group number).Owns addition.node := by
  subst owned
  refine ⟨List.mem_map.mpr ⟨addition, List.mem_filter.mpr ⟨added, ?_⟩, rfl⟩, ?_⟩
  · rw [isKeptNumber, atNumber]
    exact kept
  · rcases (drafted_spec apart edges).sound addition added with isTitle | called
    · obtain ⟨owner, isOwner, listed⟩ := mem_titleAdditions.mp isTitle
      rw [atNumber] at isOwner
      cases isOwner
      obtain ⟨part, isPart⟩ := HintGroup.exists_of_mem_titleIds (List.mem_map_of_mem listed)
      exact .inl ⟨kind_of_mem_titles listed, part, isPart⟩
    · obtain ⟨edge, _, m, a, b, crosses, rfl⟩ := mem_calledFor.mp called
      obtain ⟨_, _, atM, _⟩ := (crossing?_eq_some apart).mp crosses
      rw [atM] at atNumber
      cases atNumber
      exact .inr ⟨b.lead.id, edge.target, rfl, rfl⟩

/-- **The workflow of a kept group is the class that the group stands for.** -/
theorem isClass_emitted (apart : Apart graph groups) {number : Nat} {group : HintGroup}
    (atNumber : groups[number]? = some group) (kept : group.isKept graph) {hintOf : String → Option Nat} {root : Nat}
    (stands : group.StandsFor hintOf edges hints root) :
    (emitted (drafted graph groups edges).additions group number).IsClass hintOf edges hints
      (created graph groups edges) root where
  least := stands.least
  lead := ⟨group.lead, stands.lead, rfl, rfl⟩
  description := stands.description
  nodeIds := by
    have isGroup := List.mem_of_getElem? atNumber
    refine ⟨group.members, ((drafted graph groups edges).additions.filter (·.group == number)).map (·.node), ?_,
      (List.nodup_flatMap.mp apart.members).1 group isGroup, stands.members, ?_⟩
    · rw [List.map_map]
      rfl
    · intro node isAdded
      obtain ⟨addition, chosen, rfl⟩ := List.mem_map.mp isAdded
      obtain ⟨added, owned⟩ := List.mem_filter.mp chosen
      exact owns_of_addition apart atNumber kept added (beq_iff_eq.mp owned)

/-- **Rewriting along the groups of hints gives the classes that have a language model node.** -/
theorem rewritten_classifies (graph : FlowGraph) (passes : Nat) (nodes : List FlowNode) (edges : List FlowEdge)
    (hints : List WorkflowHint) :
    (rewritten graph (hintGroups graph edges passes hints) nodes edges).Classifies graph
      (Membership.hintOf? graph edges (WorkflowHint.merge hints) passes) nodes edges (WorkflowHint.merge hints)
      (created graph (hintGroups graph edges passes hints) edges) := by
  have apart := hintGroups_apart graph edges passes hints
  refine ⟨?_, ?_, ?_, ?_, ?_⟩
  · exact ⟨_, List.filter_sublist, nodes_rewritten_of_apart apart nodes⟩
  · exact fun node isCreated => isSynthetic_created apart isCreated
  · intro workflow isWorkflow
    obtain ⟨number, group, atNumber, kept, rfl⟩ := mem_workflows_rewritten.mp isWorkflow
    obtain ⟨root, stands⟩ := hintGroup_standsFor (List.mem_of_getElem? atNumber)
    obtain ⟨id, member, isLlm⟩ := List.any_eq_true.mp kept
    exact ⟨root, isClass_emitted apart atNumber kept stands, id, (stands.members id).mp member, isLlm⟩
  · rintro i id ⟨own, isOwn, related⟩ isLlm
    obtain ⟨group, isGroup, root, stands, linked⟩ := exists_hintGroup (Membership.hintOf?_spec isOwn).2
    have member : id ∈ group.members := (stands.members id).mpr ⟨own, isOwn, linked⟩
    have kept : group.isKept graph := List.any_eq_true.mpr ⟨id, member, isLlm⟩
    obtain ⟨number, atNumber⟩ := List.mem_iff_getElem?.mp isGroup
    exact ⟨_, emitted_mem_workflows nodes edges atNumber kept, root, .trans _ _ _ linked (.symm _ _ related),
      isClass_emitted apart atNumber kept stands⟩
  · exact nodup_ids_rewritten apart

/-- **Detection along hints finds the classes of ids that have a language model node**, for every graph that
is not too small, all hints and any number of passes. -/
theorem detect_classifies (passes : Nat) (nodes : List FlowNode) (edges : List FlowEdge) (hints : List WorkflowHint)
    (enough : minNodes ≤ nodes.length) (hinted : hints ≠ []) :
    ∃ created, (detect passes nodes edges hints).Classifies (FlowGraph.of nodes edges)
      (Membership.hintOf? (FlowGraph.of nodes edges) edges (WorkflowHint.merge hints) passes) nodes edges
      (WorkflowHint.merge hints) created := by
  rw [detect_hinted passes edges enough hinted]
  exact ⟨_, (rewritten_classifies (FlowGraph.of nodes edges) passes nodes edges hints).ordered⟩

theorem detect_classifies_sample : minNodes ≤ sampleNodes.length ∧ sampleHints ≠ [] ∧
    ∃ created, (detect standardPasses sampleNodes sampleEdges sampleHints).Classifies
      (FlowGraph.of sampleNodes sampleEdges)
      (Membership.hintOf? (FlowGraph.of sampleNodes sampleEdges) sampleEdges (WorkflowHint.merge sampleHints)
        standardPasses) sampleNodes sampleEdges (WorkflowHint.merge sampleHints) created :=
  ⟨by decide, by decide, detect_classifies standardPasses _ _ _ (by decide) (by decide)⟩

/-- A graph with a node that has the id of a title. -/
def clashingNodes : List FlowNode :=
  [{ id := "a", label := "a", kind := .llm none }, { id := "b", label := "b", kind := .tool },
    { id := "c", label := "c", kind := .tool }, { id := "d", label := "d", kind := .tool },
    { id := "w__title_0", label := "t", kind := .tool }]

def clashingHints : List WorkflowHint :=
  [{ id := "w", name := "W", nodeIds := ["a", "b"] }]

/-- A graph with two nodes of one id, the first of them a language model. -/
def repeatedNodes : List FlowNode :=
  [{ id := "a", label := "a", kind := .llm none }, { id := "a", label := "a", kind := .tool },
    { id := "b", label := "b", kind := .tool }, { id := "c", label := "c", kind := .tool },
    { id := "d", label := "d", kind := .tool }]

def repeatedHints : List WorkflowHint :=
  [{ id := "w", name := "W", nodeIds := ["a"] }]

/-- A workflow may list the id of a given node that belongs to no hint, and there may be no workflow for a
class with the id of a language model node. -/
theorem lists_beyond_class :
    (∃ workflow ∈ (detect standardPasses clashingNodes [] clashingHints).workflows,
      ∃ id ∈ clashingNodes.map (·.id), id ∈ workflow.nodeIds ∧
        Membership.hintOf? (FlowGraph.of clashingNodes []) [] (WorkflowHint.merge clashingHints) standardPasses id = none) ∧
    (∃ node ∈ repeatedNodes, node.kind.isLlm ∧
      (Membership.hintOf? (FlowGraph.of repeatedNodes []) [] (WorkflowHint.merge repeatedHints) standardPasses
        node.id).isSome ∧
      (detect standardPasses repeatedNodes [] repeatedHints).workflows = []) := by
  decide +kernel

end WorkflowAtlas
