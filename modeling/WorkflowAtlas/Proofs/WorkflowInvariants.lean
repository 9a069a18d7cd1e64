import WorkflowAtlas.Proofs.Pieces
import WorkflowAtlas.Proofs.Rewriting

/-!
# Invariants of detected workflows

**The law** (`detect_wellFormed`): along hints, whatever the graph, the hints and the number of passes,
as long as added ids do not clash, workflows have different ids, no id is listed twice, every workflow
lists a language model node, and every reference stands in one workflow and points into another one
that is there too.

It is put together from what rewriting leaves for groups that are apart; that the groups of hints are
apart is the only fact about hints in it. It does not say which workflows there are.
-/

namespace WorkflowAtlas

variable {graph : FlowGraph} {groups : List HintGroup} {passes : Nat} {nodes : List FlowNode} {edges : List FlowEdge}
  {hints : List WorkflowHint}

/-! ## The graph of nodes and edges -/

/-- An id of a language model is that of a given node of such a kind. -/
theorem FlowGraph.exists_of_isLlm {id : String} (isLlm : (FlowGraph.of nodes edges).isLlm id) :
    ∃ node ∈ nodes, node.id = id ∧ node.kind.isLlm := by
  obtain ⟨node, found, kind⟩ := (Option.any_eq_true _ _).mp isLlm
  have isNode := List.mem_reverse.mp (List.mem_of_find?_eq_some found)
  exact ⟨node, isNode, by simpa using List.find?_some found, kind⟩

/-- **Detection along hints** rewrites along their groups and puts the workflows in order. -/
theorem detect_hinted (passes : Nat) (edges : List FlowEdge) (enough : minNodes ≤ nodes.length) (hinted : hints ≠ []) :
    detect passes nodes edges hints = (rewritten (FlowGraph.of nodes edges)
      (hintGroups (FlowGraph.of nodes edges) edges passes hints) nodes edges).ordered := by
  unfold detect
  rw [if_neg (Nat.not_lt.mpr enough)]
  cases hints with
  | nil => exact absurd rfl hinted
  | cons hint rest => rfl

theorem mem_workflows_ordered {found : Detection} {workflow : Workflow} :
    workflow ∈ found.ordered.workflows ↔ workflow ∈ found.workflows :=
  List.mem_mergeSort

/-! ## Rewriting -/

theorem nodup_ids_rewritten (apart : Apart graph groups) :
    ((rewritten graph groups nodes edges).workflows.map (·.id)).Nodup := by
  have leads : groups.zipIdx.map (·.1.lead.id) = groups.map (·.lead.id) := by
    rw [← List.zipIdx_map_fst 0 groups, List.map_map, List.zipIdx_map_fst]
    rfl
  have sub : ((rewritten graph groups nodes edges).workflows.map (·.id)).Sublist (groups.map (·.lead.id)) := by
    rw [← leads]
    show ((groups.zipIdx.filter _).map _ |>.map _).Sublist _
    rw [List.map_map]
    exact List.filter_sublist.map _
  exact apart.leads.sublist sub

section NoClash

variable (apart : Apart graph groups) (noClash : NoClash graph groups nodes edges)
  (ofNodes : ∀ id, graph.contains id → id ∈ nodes.map (·.id))

include apart noClash ofNodes

/-- A workflow lists its members and what was added to it, each once. -/
theorem nodup_nodeIds_emitted {number : Nat} {group : HintGroup} (atNumber : groups[number]? = some group) :
    (emitted (drafted graph groups edges).additions group number).nodeIds.Nodup := by
  have isGroup := List.mem_of_getElem? atNumber
  show (group.members ++ _).Nodup
  rw [List.nodup_append]
  refine ⟨(List.nodup_flatMap.mp apart.members).1 group isGroup, ?_, ?_⟩
  · exact (drafted_spec apart edges).unique.sublist (List.filter_sublist.map _)
  · intro id member other added same
    subst same
    obtain ⟨addition, owned, rfl⟩ := List.mem_map.mp added
    exact (noClash.id_fresh apart (List.mem_filter.mp owned).1).1 (ofNodes _ (apart.known group isGroup _ member))

/-- **No id is listed twice.** -/
theorem nodup_nodeIds_rewritten : ((rewritten graph groups nodes edges).workflows.flatMap (·.nodeIds)).Nodup := by
  have numbers : groups.zipIdx.Pairwise fun a b => a.2 ≠ b.2 := by
    rw [← List.pairwise_map, List.zipIdx_map_snd]
    exact List.nodup_range' ..
  rw [List.nodup_flatMap]
  refine ⟨fun workflow isWorkflow => ?_, ?_⟩
  · obtain ⟨number, group, atNumber, _, rfl⟩ := mem_workflows_rewritten.mp isWorkflow
    exact nodup_nodeIds_emitted apart noClash ofNodes atNumber
  · show ((groups.zipIdx.filter _).map _).Pairwise _
    rw [List.pairwise_map]
    refine (numbers.filter _).imp_of_mem fun {a b} isA isB differ id inA inB => differ ?_
    have atA := List.mem_zipIdx_iff_getElem?.mp (List.mem_filter.mp isA).1
    have atB := List.mem_zipIdx_iff_getElem?.mp (List.mem_filter.mp isB).1
    exact number_eq_of_mem_nodeIds apart noClash ofNodes atA atB inA inB

omit noClash ofNodes in
/-- A reference that an edge calls for points from one kept group into another. -/
theorem exists_ends_of_calledFor {reference : Addition} (called : reference ∈ calledFor graph groups edges) :
    ∃ a n b target, groups[reference.group]? = some a ∧ a.isKept graph ∧ groups[n]? = some b ∧ b.isKept graph ∧
      reference.group ≠ n ∧ reference.node.kind = .reference b.lead.id target ∧ target ∈ b.members := by
  obtain ⟨edge, _, m, a, b, crosses, rfl⟩ := mem_calledFor.mp called
  obtain ⟨n, differ, atM, atN, _, inB, keptA, keptB⟩ := (crossing?_eq_some apart).mp crosses
  exact ⟨a, n, b, edge.target, atM, keptA, atN, keptB, differ, rfl, inB⟩

end NoClash

/-! ## Detection -/

/-- **Well-formed workflows**, found in a graph that has the given nodes and, after them, those that were
created. -/
structure Detection.WellFormed (nodes : List FlowNode) (found : Detection) : Prop where
  /-- Workflows have different ids. -/
  ids : (found.workflows.map (·.id)).Nodup
  /-- No id is listed twice, in one workflow or in two. -/
  nodeIds : (found.workflows.flatMap (·.nodeIds)).Nodup
  /-- Every workflow lists a language model node of the graph. -/
  llm : ∀ workflow ∈ found.workflows, ∃ node ∈ found.nodes, node.kind.isLlm ∧ node.id ∈ workflow.nodeIds
  /-- Every created reference is listed by one workflow, and names another one and a node that it lists. -/
  references : ∃ created, found.nodes = nodes ++ created ∧ ∀ node ∈ created, ∀ targetWorkflow targetNode,
    node.kind = .reference targetWorkflow targetNode →
      ∃ home ∈ found.workflows, node.id ∈ home.nodeIds ∧
        (∀ other ∈ found.workflows, node.id ∈ other.nodeIds → other = home) ∧
        ∃ target ∈ found.workflows, target.id = targetWorkflow ∧ target.id ≠ home.id ∧ targetNode ∈ target.nodeIds

/-- Order does not matter to well-formedness. -/
theorem Detection.WellFormed.ordered {found : Detection} (wellFormed : found.WellFormed nodes) :
    found.ordered.WellFormed nodes := by
  have perm : found.ordered.workflows.Perm found.workflows := List.mergeSort_perm _ _
  obtain ⟨created, extended, references⟩ := wellFormed.references
  refine ⟨(perm.map _).nodup_iff.mpr wellFormed.ids, (perm.flatMap_right _).nodup_iff.mpr wellFormed.nodeIds, ?_,
    created, extended, ?_⟩
  · intro workflow isWorkflow
    exact wellFormed.llm workflow (perm.mem_iff.mp isWorkflow)
  · simp only [perm.mem_iff]
    exact references

/-- **Rewriting along groups that are apart gives well-formed workflows.** -/
theorem rewritten_wellFormed (apart : Apart (FlowGraph.of nodes edges) groups)
    (noClash : NoClash (FlowGraph.of nodes edges) groups nodes edges) :
    (rewritten (FlowGraph.of nodes edges) groups nodes edges).WellFormed nodes := by
  have ofNodes : ∀ id, (FlowGraph.of nodes edges).contains id → id ∈ nodes.map (·.id) :=
    fun id => FlowGraph.contains_of.mp
  refine ⟨nodup_ids_rewritten apart, nodup_nodeIds_rewritten apart noClash ofNodes, ?_,
    created (FlowGraph.of nodes edges) groups edges, nodes_rewritten apart noClash, ?_⟩
  · intro workflow isWorkflow
    obtain ⟨number, group, atNumber, kept, rfl⟩ := mem_workflows_rewritten.mp isWorkflow
    obtain ⟨id, member, isLlm⟩ := List.any_eq_true.mp kept
    obtain ⟨node, isNode, rfl, kind⟩ := FlowGraph.exists_of_isLlm isLlm
    refine ⟨node, ?_, kind, mem_nodeIds_emitted.mpr (.inl member)⟩
    rw [nodes_rewritten apart noClash]
    exact List.mem_append_left _ isNode
  · intro node isCreated targetWorkflow targetNode isReference
    rcases (mem_created apart noClash).mp isCreated with ⟨group, _, _, isTitle⟩ | ⟨reference, called, rfl⟩
    · rw [kind_of_mem_titles isTitle] at isReference
      cases isReference
    · obtain ⟨a, n, b, target, atM, keptA, atN, keptB, differ, kind, inB⟩ := exists_ends_of_calledFor apart called
      rw [kind] at isReference
      cases isReference
      have added := (mem_additions_iff apart noClash).mpr (.inr called)
      have listed : reference.node.id ∈
          (emitted (drafted (FlowGraph.of nodes edges) groups edges).additions a reference.group).nodeIds :=
        mem_nodeIds_emitted.mpr (.inr ⟨reference, added, rfl, rfl⟩)
      have isHome := emitted_mem_workflows nodes edges atM keptA
      refine ⟨_, isHome, listed, ?_,
        _, emitted_mem_workflows nodes edges atN keptB, rfl, ?_, mem_nodeIds_emitted.mpr (.inl inB)⟩
      · intro other isOther inOther
        exact workflow_eq_of_mem_nodeIds apart noClash ofNodes isOther isHome inOther listed
      · intro same
        exact differ (apart.number_eq_of_lead atM atN same.symm)

/-- **Detection along hints finds well-formed workflows**, for every graph that is not too small, all hints
and any number of passes, where added ids do not clash. -/
theorem detect_wellFormed (passes : Nat) (nodes : List FlowNode) (edges : List FlowEdge) (hints : List WorkflowHint)
    (enough : minNodes ≤ nodes.length) (hinted : hints ≠ [])
    (noClash : NoClash (FlowGraph.of nodes edges) (hintGroups (FlowGraph.of nodes edges) edges passes hints) nodes edges) :
    (detect passes nodes edges hints).WellFormed nodes := by
  rw [detect_hinted passes edges enough hinted]
  exact (rewritten_wellFormed (hintGroups_apart _ edges passes hints) noClash).ordered

/-! ## A small graph

Two workflows, the first in two pieces and with two calls of the second, and one without a language
model. -/

def sampleNodes : List FlowNode :=
  [{ id := "plan", label := "Plan", kind := .llm none }, { id := "call", label := "Call", kind := .tool },
    { id := "log", label := "Log", kind := .tool }, { id := "write", label := "Write", kind := .llm none },
    { id := "save", label := "Save", kind := .memory }, { id := "open", label := "Open", kind := .tool },
    { id := "close", label := "Close", kind := .tool }]

def sampleEdges : List FlowEdge :=
  [{ source := "plan", target := "call" }, { source := "call", target := "write", label := some "calls" },
    { source := "plan", target := "write" }, { source := "write", target := "save", label := some "POST /save" }]

def sampleHints : List WorkflowHint :=
  [{ id := "w1", name := "Planner", nodeIds := ["plan", "call", "log"] },
    { id := "w2", name := "Writer", nodeIds := ["write"] },
    { id := "w3", name := "Files", nodeIds := ["open", "close"] },
    { id := "w4", name := "Store", description := some "Saves", nodeIds := ["save"] }]

theorem sample_noClash : NoClash (FlowGraph.of sampleNodes sampleEdges)
    (hintGroups (FlowGraph.of sampleNodes sampleEdges) sampleEdges standardPasses sampleHints) sampleNodes sampleEdges :=
  ⟨by decide +kernel, by decide +kernel, by decide +kernel⟩

theorem detect_wellFormed_sample : minNodes ≤ sampleNodes.length ∧ sampleHints ≠ [] ∧
    (detect standardPasses sampleNodes sampleEdges sampleHints).WellFormed sampleNodes :=
  ⟨by decide, by decide, detect_wellFormed standardPasses _ _ _ (by decide) (by decide) sample_noClash⟩

end WorkflowAtlas
