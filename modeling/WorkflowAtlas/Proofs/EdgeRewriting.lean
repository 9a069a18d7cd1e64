import WorkflowAtlas.Proofs.WorkflowInvariants

/-!
# How detection rewrites edges

Along hints, with added ids that do not clash.

**Nothing is lost** (`detect_restores`): the nodes given come out first and unchanged, and the edges
given can be read back, in order, from the edges that come out: drop those from created titles, and
follow those to created references.

**Nothing crosses** (`detect_separates`): no edge that comes out runs from one workflow into another.
Turned are exactly the edges given that would; a workflow has one reference for each node that it calls
in others, and none besides; and an HTTP edge between ids that belong to hints is never turned, since
it merges the workflows at its ends.
-/

namespace WorkflowAtlas

variable {graph : FlowGraph} {groups : List HintGroup} {passes : Nat} {nodes : List FlowNode} {edges : List FlowEdge}
  {hints : List WorkflowHint}

/-! ## Reading edges back -/

/-- The node that a reference refers to. -/
def NodeKind.target? : NodeKind → Option String
  | .reference _ target => some target
  | _ => none

def NodeKind.isTitle : NodeKind → Bool
  | .workflowTitle _ => true
  | _ => false

/-- What an id stands for among created nodes: the target of the reference that has it. -/
def referredBy? (created : List FlowNode) (id : String) : Option String :=
  created.findSome? fun node => if node.id = id then node.kind.target? else none

/-- **Edges read back**: those from created titles are dropped, and those to created references followed. -/
def readBack (created : List FlowNode) (edges : List FlowEdge) : List FlowEdge :=
  (edges.filter fun edge => !created.any fun node => node.kind.isTitle && node.id == edge.source).map fun edge =>
    { edge with target := (referredBy? created edge.target).getD edge.target }

/-- The reference that an edge calls for refers to the edge's target. -/
theorem target?_of_calls {edge : FlowEdge} {reference : Addition} (calls : reference? graph groups edge = some reference) :
    reference.node.kind.target? = some edge.target := by
  obtain ⟨_, _, rfl⟩ := Option.map_eq_some_iff.mp calls
  rfl

section NoClash

variable (apart : Apart graph groups) (noClash : NoClash graph groups nodes edges)

include apart noClash

/-- The created nodes with a target are the references called for. -/
theorem target?_created {node : FlowNode} (isCreated : node ∈ created graph groups edges) {target : String}
    (isTarget : node.kind.target? = some target) : ∃ reference ∈ calledFor graph groups edges, reference.node = node := by
  rcases (mem_created apart noClash).mp isCreated with ⟨group, _, _, isTitle⟩ | called
  · rw [kind_of_mem_titles isTitle] at isTarget
    cases isTarget
  · exact called

/-- The titles among the created nodes are those of kept groups. -/
theorem isTitle_created {id : String} :
    ((created graph groups edges).any fun node => node.kind.isTitle && node.id == id) = true ↔
      ∃ group ∈ groups, group.isKept graph ∧ id ∈ group.titleIds := by
  simp only [List.any_eq_true, Bool.and_eq_true, beq_iff_eq]
  constructor
  · rintro ⟨node, isCreated, isTitle, rfl⟩
    rcases (mem_created apart noClash).mp isCreated with ⟨group, isGroup, kept, listed⟩ | ⟨reference, called, rfl⟩
    · exact ⟨group, isGroup, kept, List.mem_map_of_mem listed⟩
    · obtain ⟨_, _, _, _, _, _, rfl⟩ := mem_calledFor.mp called
      cases isTitle
  · rintro ⟨group, isGroup, kept, isTitle⟩
    obtain ⟨title, listed, rfl⟩ := List.mem_map.mp isTitle
    refine ⟨title, (mem_created apart noClash).mpr (.inl ⟨group, isGroup, kept, listed⟩), ?_, rfl⟩
    rw [kind_of_mem_titles listed]
    rfl

/-- The id of a reference stands for the target that it was called for. -/
theorem referredBy?_reference {edge : FlowEdge} (isEdge : edge ∈ edges) {reference : Addition}
    (calls : reference? graph groups edge = some reference) :
    referredBy? (created graph groups edges) reference.node.id = some edge.target := by
  have called : reference ∈ calledFor graph groups edges := List.mem_filterMap.mpr ⟨edge, isEdge, calls⟩
  have isTarget := target?_of_calls calls
  have only : ∀ node ∈ created graph groups edges, ∀ target,
      (if node.id = reference.node.id then node.kind.target? else none) = some target → target = edge.target := by
    intro node isCreated target found
    split at found
    · next same =>
      obtain ⟨other, calledOther, rfl⟩ := target?_created apart noClash isCreated found
      rw [noClash.reference_eq apart calledOther called same, isTarget] at found
      exact (Option.some.inj found).symm
    · cases found
  unfold referredBy?
  cases found : (created graph groups edges).findSome? _ with
  | none =>
    have isCreated := (mem_created apart noClash).mpr (.inr ⟨reference, called, rfl⟩)
    have absent := List.findSome?_eq_none_iff.mp found _ isCreated
    rw [if_pos rfl, isTarget] at absent
    cases absent
  | some target =>
    obtain ⟨node, isCreated, found⟩ := List.exists_of_findSome?_eq_some found
    rw [only node isCreated target found]

/-- The end of a given edge stands for nothing else. -/
theorem referredBy?_given {edge : FlowEdge} (isEdge : edge ∈ edges) :
    referredBy? (created graph groups edges) edge.target = none := by
  refine List.findSome?_eq_none_iff.mpr fun node isCreated => ?_
  split
  · next same =>
    cases isTarget : node.kind.target? with
    | none => rfl
    | some target =>
      obtain ⟨reference, called, rfl⟩ := target?_created apart noClash isCreated isTarget
      have added := (mem_additions_iff apart noClash).mpr (.inr called)
      exact absurd same ((noClash.id_fresh apart added).2 edge isEdge).2
  · rfl

/-- **A turned edge reads back as it was given.** -/
theorem readBack_turned {edge : FlowEdge} (isEdge : edge ∈ edges) :
    { turned graph groups edge with
      target := (referredBy? (created graph groups edges) (turned graph groups edge).target).getD
        (turned graph groups edge).target } = edge := by
  unfold turned
  cases calls : reference? graph groups edge with
  | none => rw [referredBy?_given apart noClash isEdge]; rfl
  | some reference => rw [referredBy?_reference apart noClash isEdge calls]; rfl

/-- **The edges given are read back from the rewritten graph.** -/
theorem readBack_rewritten (ofNodes : ∀ id, graph.contains id → id ∈ nodes.map (·.id)) :
    readBack (created graph groups edges) (rewritten graph groups nodes edges).edges = edges := by
  have given : (edges.map (turned graph groups)).filter (fun edge =>
      !(created graph groups edges).any fun node => node.kind.isTitle && node.id == edge.source) =
        edges.map (turned graph groups) := by
    refine List.filter_eq_self.mpr fun edge member => ?_
    obtain ⟨edge, isEdge, rfl⟩ := List.mem_map.mp member
    rw [Bool.not_eq_true', Bool.eq_false_iff, turned_source]
    intro isTitle
    obtain ⟨group, isGroup, _, isTitle⟩ := (isTitle_created apart noClash).mp isTitle
    exact noClash.not_title (.inr ⟨edge, isEdge, .inl rfl⟩) (List.mem_flatMap.mpr ⟨group, isGroup, isTitle⟩)
  have fromTitles : ((groups.filter (·.isKept graph)).flatMap (·.titleEdges graph)).filter (fun edge =>
      !(created graph groups edges).any fun node => node.kind.isTitle && node.id == edge.source) = [] := by
    refine List.filter_eq_nil_iff.mpr fun edge member => ?_
    obtain ⟨group, isKept, isEdge⟩ := List.mem_flatMap.mp member
    obtain ⟨isGroup, kept⟩ := List.mem_filter.mp isKept
    rw [(isTitle_created apart noClash).mpr ⟨group, isGroup, kept, (mem_titleEdges apart isGroup isEdge).1⟩]
    simp
  unfold readBack
  rw [edges_rewritten apart noClash ofNodes, List.filter_append, given, fromTitles, List.append_nil, List.map_map]
  calc edges.map _ = edges.map id := List.map_congr_left fun edge isEdge => readBack_turned apart noClash isEdge
    _ = edges := List.map_id edges

/-- The edge given at a place comes out there, turned. -/
theorem getElem?_edges_rewritten (ofNodes : ∀ id, graph.contains id → id ∈ nodes.map (·.id)) {i : Nat} {edge : FlowEdge}
    (atI : edges[i]? = some edge) : (rewritten graph groups nodes edges).edges[i]? = some (turned graph groups edge) := by
  have inRange : i < (edges.map (turned graph groups)).length := by
    rw [List.length_map]
    exact (List.getElem?_eq_some_iff.mp atI).1
  rw [edges_rewritten apart noClash ofNodes, List.getElem?_append_left inRange, List.getElem?_map, atI]
  rfl

/-- An edge given that does not cross workflows is not turned. -/
theorem turned_eq_self {edge : FlowEdge} (isEdge : edge ∈ edges)
    (inside : ¬ Crosses (rewritten graph groups nodes edges).workflows edge) : turned graph groups edge = edge := by
  rw [crosses_iff apart noClash isEdge, Option.not_isSome_iff_eq_none] at inside
  unfold turned
  rw [inside]

end NoClash

/-! ## Nothing is lost -/

/-- **The given graph can be restored** from what was found, where `created` are the nodes that were added. -/
structure Detection.Restores (nodes : List FlowNode) (edges : List FlowEdge) (created : List FlowNode)
    (found : Detection) : Prop where
  /-- The nodes given come first and unchanged. -/
  extended : found.nodes = nodes ++ created
  /-- What follows them are titles and references. -/
  synthetic : ∀ node ∈ created, node.kind.isSynthetic
  /-- The edges given can be read back. -/
  restored : readBack created found.edges = edges
  /-- An edge with an end in no workflow comes out unchanged, in its place. -/
  outside : ∀ (i : Nat) (edge : FlowEdge), edges[i]? = some edge →
    ((∀ workflow ∈ found.workflows, edge.source ∉ workflow.nodeIds) ∨
      ∀ workflow ∈ found.workflows, edge.target ∉ workflow.nodeIds) →
    found.edges[i]? = some edge

theorem Detection.Restores.ordered {created : List FlowNode} {found : Detection}
    (restores : found.Restores nodes edges created) : found.ordered.Restores nodes edges created where
  extended := restores.extended
  synthetic := restores.synthetic
  restored := restores.restored
  outside := by
    simp only [mem_workflows_ordered]
    exact restores.outside

/-- **Rewriting along groups that are apart loses nothing.** -/
theorem rewritten_restores (apart : Apart (FlowGraph.of nodes edges) groups)
    (noClash : NoClash (FlowGraph.of nodes edges) groups nodes edges) :
    (rewritten (FlowGraph.of nodes edges) groups nodes edges).Restores nodes edges
      (created (FlowGraph.of nodes edges) groups edges) where
  extended := nodes_rewritten apart noClash
  synthetic := fun _ isCreated => isSynthetic_created apart isCreated
  restored := readBack_rewritten apart noClash fun _ => FlowGraph.contains_of.mp
  outside := by
    intro i edge atI outside
    rw [getElem?_edges_rewritten apart noClash (fun _ => FlowGraph.contains_of.mp) atI]
    refine congrArg some (turned_eq_self apart noClash (List.mem_of_getElem? atI) ?_)
    rintro ⟨a, isA, b, isB, _, inA, inB⟩
    rcases outside with noSource | noTarget
    · exact noSource a isA inA
    · exact noTarget b isB inB

/-- **Detection along hints loses nothing of the graph**, for every graph that is not too small, all hints
and any number of passes, where added ids do not clash. -/
theorem detect_restores (passes : Nat) (nodes : List FlowNode) (edges : List FlowEdge) (hints : List WorkflowHint)
    (enough : minNodes ≤ nodes.length) (hinted : hints ≠ [])
    (noClash : NoClash (FlowGraph.of nodes edges) (hintGroups (FlowGraph.of nodes edges) edges passes hints) nodes edges) :
    ∃ created, (detect passes nodes edges hints).Restores nodes edges created := by
  rw [detect_hinted passes edges enough hinted]
  exact ⟨_, (rewritten_restores (hintGroups_apart _ edges passes hints) noClash).ordered⟩

theorem detect_restores_sample : minNodes ≤ sampleNodes.length ∧ sampleHints ≠ [] ∧
    ∃ created, (detect standardPasses sampleNodes sampleEdges sampleHints).Restores sampleNodes sampleEdges created :=
  ⟨by decide, by decide, detect_restores standardPasses _ _ _ (by decide) (by decide) sample_noClash⟩

/-! ## Nothing crosses -/

section NoClash

variable (apart : Apart graph groups) (noClash : NoClash graph groups nodes edges)
  (ofNodes : ∀ id, graph.contains id → id ∈ nodes.map (·.id))

include apart noClash

/-- A reference stands in the workflow that its edge leaves. -/
theorem exists_home {edge : FlowEdge} (isEdge : edge ∈ edges) {reference : Addition}
    (calls : reference? graph groups edge = some reference) :
    ∃ home ∈ (rewritten graph groups nodes edges).workflows, edge.source ∈ home.nodeIds ∧ reference.node.id ∈ home.nodeIds := by
  have called : reference ∈ calledFor graph groups edges := List.mem_filterMap.mpr ⟨edge, isEdge, calls⟩
  have added := (mem_additions_iff apart noClash).mpr (.inr called)
  obtain ⟨⟨number, a, b⟩, crosses, rfl⟩ := Option.map_eq_some_iff.mp calls
  obtain ⟨_, _, atNumber, _, inA, _, kept, _⟩ := (crossing?_eq_some apart).mp crosses
  exact ⟨_, emitted_mem_workflows nodes edges atNumber kept, mem_nodeIds_emitted.mpr (.inl inA),
    mem_nodeIds_emitted.mpr (.inr ⟨_, added, rfl, rfl⟩)⟩

omit noClash in
theorem nodup_created : (created graph groups edges).Nodup :=
  List.Nodup.of_map (·.id) (nodup_ids_created apart)

include ofNodes

/-- An edge with both ends in one workflow does not cross. -/
theorem not_crosses_of_home {home : Workflow} (isHome : home ∈ (rewritten graph groups nodes edges).workflows)
    {edge : FlowEdge} (source : edge.source ∈ home.nodeIds) (target : edge.target ∈ home.nodeIds) :
    ¬ Crosses (rewritten graph groups nodes edges).workflows edge := by
  rintro ⟨a, isA, b, isB, differ, inA, inB⟩
  have isSource := workflow_eq_of_mem_nodeIds apart noClash ofNodes isA isHome inA source
  have isTarget := workflow_eq_of_mem_nodeIds apart noClash ofNodes isB isHome inB target
  exact differ (isSource.trans isTarget.symm)

/-- **No edge of the rewritten graph crosses workflows.** -/
theorem not_crosses_rewritten {edge : FlowEdge} (isEdge : edge ∈ (rewritten graph groups nodes edges).edges) :
    ¬ Crosses (rewritten graph groups nodes edges).workflows edge := by
  rw [edges_rewritten apart noClash ofNodes] at isEdge
  rcases List.mem_append.mp isEdge with given | fromTitle
  · obtain ⟨edge, isGiven, rfl⟩ := List.mem_map.mp given
    by_cases crosses : Crosses (rewritten graph groups nodes edges).workflows edge
    · obtain ⟨reference, calls⟩ := Option.isSome_iff_exists.mp ((crosses_iff apart noClash isGiven).mp crosses)
      obtain ⟨home, isHome, source, target⟩ := exists_home apart noClash isGiven calls
      refine not_crosses_of_home apart noClash ofNodes isHome ?_ ?_
      · rw [turned_source]
        exact source
      · rw [turned, calls]
        exact target
    · rw [turned_eq_self apart noClash isGiven crosses]
      exact crosses
  -- the title that an edge starts from is listed by the workflow of its group
  · obtain ⟨group, isKept, isTitleEdge⟩ := List.mem_flatMap.mp fromTitle
    obtain ⟨isGroup, kept⟩ := List.mem_filter.mp isKept
    obtain ⟨isTitle, isMember⟩ := mem_titleEdges apart isGroup isTitleEdge
    obtain ⟨number, atNumber⟩ := List.mem_iff_getElem?.mp isGroup
    obtain ⟨title, listed, isSource⟩ := List.mem_map.mp isTitle
    have added := (drafted_spec apart edges).titles ⟨number, title⟩ (mem_titleAdditions.mpr ⟨group, atNumber, listed⟩)
    exact not_crosses_of_home apart noClash ofNodes (emitted_mem_workflows nodes edges atNumber kept)
      (mem_nodeIds_emitted.mpr (.inr ⟨_, added, rfl, isSource⟩)) (mem_nodeIds_emitted.mpr (.inl isMember))

/-- References to one target that one workflow lists are one. -/
theorem reference_eq_of_home {first second : Addition} (isFirst : first ∈ calledFor graph groups edges)
    (isSecond : second ∈ calledFor graph groups edges) (targets : first.node.kind.target? = second.node.kind.target?)
    {home : Workflow} (isHome : home ∈ (rewritten graph groups nodes edges).workflows)
    (inFirst : first.node.id ∈ home.nodeIds) (inSecond : second.node.id ∈ home.nodeIds) : first = second := by
  refine noClash.reference_eq apart isFirst isSecond ?_
  obtain ⟨number, group, atNumber, _, rfl⟩ := mem_workflows_rewritten.mp isHome
  have lead : ∀ reference ∈ calledFor graph groups edges,
      reference.node.id ∈ (emitted (drafted graph groups edges).additions group number).nodeIds →
      ∃ target, reference.node.kind.target? = some target ∧ reference.node.id = referenceId group target := by
    intro reference called listed
    have added := (mem_additions_iff apart noClash).mpr (.inr called)
    obtain ⟨edge, _, m, a, b, crosses, rfl⟩ := mem_calledFor.mp called
    obtain ⟨_, _, atM, _⟩ := (crossing?_eq_some apart).mp crosses
    obtain rfl := number_eq_of_mem_nodeIds apart noClash ofNodes atM atNumber
      (mem_nodeIds_emitted.mpr (.inr ⟨_, added, rfl, rfl⟩)) listed
    rw [atM] at atNumber
    cases atNumber
    exact ⟨edge.target, rfl, rfl⟩
  obtain ⟨target, isTarget, first_id⟩ := lead first isFirst inFirst
  obtain ⟨other, isOther, second_id⟩ := lead second isSecond inSecond
  rw [isTarget, isOther] at targets
  rw [first_id, second_id, Option.some.inj targets]

end NoClash

/-- Whether a node is a reference to a target that a workflow lists. -/
def Workflow.refersTo (workflow : Workflow) (target : String) (node : FlowNode) : Bool :=
  node.kind.target? == some target && node.id ∈ workflow.nodeIds

/-- **An edge is turned** to a created reference to its target, in the workflow that it leaves. -/
def Repointed (workflows : List Workflow) (created : List FlowNode) (edge image : FlowEdge) : Prop :=
  ∃ home ∈ workflows, edge.source ∈ home.nodeIds ∧ ∃ node ∈ created, home.refersTo edge.target node ∧
    image = { edge with target := node.id }

/-- **Workflows are separated**, where `created` are the nodes that were added and `hintOf` tells the hint
that an id belongs to. -/
structure Detection.Separates (hintOf : String → Option Nat) (nodes : List FlowNode) (edges : List FlowEdge)
    (created : List FlowNode) (found : Detection) : Prop where
  extended : found.nodes = nodes ++ created
  /-- No edge runs from one workflow into another. -/
  inside : ∀ edge ∈ found.edges, ∀ a ∈ found.workflows, ∀ b ∈ found.workflows,
    edge.source ∈ a.nodeIds → edge.target ∈ b.nodeIds → a = b
  /-- Turned are the edges given that cross workflows, and the others come out unchanged. -/
  turned : ∀ (i : Nat) (edge : FlowEdge), edges[i]? = some edge → ∃ image, found.edges[i]? = some image ∧
    (Repointed found.workflows created edge image ↔ Crosses found.workflows edge) ∧
    (¬ Crosses found.workflows edge → image = edge)
  /-- A workflow has one reference for each target of an edge that crosses from it. -/
  one : ∀ edge ∈ edges, Crosses found.workflows edge → ∀ home ∈ found.workflows, edge.source ∈ home.nodeIds →
    created.countP (home.refersTo edge.target) = 1
  /-- There is no other reference. -/
  called : ∀ node ∈ created, ∀ target, node.kind.target? = some target → ∃ edge ∈ edges, edge.target = target ∧
    Crosses found.workflows edge ∧ ∃ home ∈ found.workflows, edge.source ∈ home.nodeIds ∧ node.id ∈ home.nodeIds
  /-- An HTTP edge between ids that belong to hints comes out unchanged, in its place. -/
  http : ∀ (i : Nat) (edge : FlowEdge), edges[i]? = some edge → edge.label.any Http.isLabel →
    (hintOf edge.source).isSome → (hintOf edge.target).isSome → found.edges[i]? = some edge

theorem crosses_ordered {found : Detection} {edge : FlowEdge} :
    Crosses found.ordered.workflows edge ↔ Crosses found.workflows edge := by
  simp only [Crosses, mem_workflows_ordered]

theorem repointed_ordered {found : Detection} {created : List FlowNode} {edge image : FlowEdge} :
    Repointed found.ordered.workflows created edge image ↔ Repointed found.workflows created edge image := by
  simp only [Repointed, mem_workflows_ordered]

theorem Detection.Separates.ordered {hintOf : String → Option Nat} {created : List FlowNode} {found : Detection}
    (separates : found.Separates hintOf nodes edges created) : found.ordered.Separates hintOf nodes edges created := by
  refine ⟨separates.extended, ?_, ?_, ?_, ?_, separates.http⟩ <;>
    simp only [mem_workflows_ordered, crosses_ordered, repointed_ordered]
  · exact separates.inside
  · exact separates.turned
  · exact separates.one
  · exact separates.called

section Separation

variable (apart : Apart (FlowGraph.of nodes edges) groups) (noClash : NoClash (FlowGraph.of nodes edges) groups nodes edges)

include apart noClash

/-- An edge that crosses is turned to the reference that it calls for. -/
theorem repointed_of_crosses {edge : FlowEdge} (isEdge : edge ∈ edges)
    (crosses : Crosses (rewritten (FlowGraph.of nodes edges) groups nodes edges).workflows edge) :
    Repointed (rewritten (FlowGraph.of nodes edges) groups nodes edges).workflows
      (created (FlowGraph.of nodes edges) groups edges) edge (turned (FlowGraph.of nodes edges) groups edge) := by
  obtain ⟨reference, calls⟩ := Option.isSome_iff_exists.mp ((crosses_iff apart noClash isEdge).mp crosses)
  obtain ⟨home, isHome, source, listed⟩ := exists_home apart noClash isEdge calls
  have called := List.mem_filterMap.mpr ⟨edge, isEdge, calls⟩
  have isTarget := target?_of_calls calls
  refine ⟨home, isHome, source, reference.node, (mem_created apart noClash).mpr (.inr ⟨reference, called, rfl⟩), ?_, ?_⟩
  · simp [Workflow.refersTo, isTarget, listed]
  · rw [turned, calls]

/-- A created node is no end of an edge given. -/
theorem created_ne_target {node : FlowNode} (isCreated : node ∈ created (FlowGraph.of nodes edges) groups edges)
    {edge : FlowEdge} (isEdge : edge ∈ edges) : node.id ≠ edge.target := by
  obtain ⟨addition, added, rfl⟩ := List.mem_map.mp isCreated
  exact ((noClash.id_fresh apart (List.mem_filter.mp added).1).2 edge isEdge).2

/-- **One reference for each workflow and target.** -/
theorem countP_refersTo {edge : FlowEdge} (isEdge : edge ∈ edges)
    (crosses : Crosses (rewritten (FlowGraph.of nodes edges) groups nodes edges).workflows edge) {home : Workflow}
    (isHome : home ∈ (rewritten (FlowGraph.of nodes edges) groups nodes edges).workflows)
    (source : edge.source ∈ home.nodeIds) :
    (created (FlowGraph.of nodes edges) groups edges).countP (home.refersTo edge.target) = 1 := by
  have ofNodes : ∀ id, (FlowGraph.of nodes edges).contains id → id ∈ nodes.map (·.id) :=
    fun id => FlowGraph.contains_of.mp
  obtain ⟨other, isOther, inOther, node, isCreated, refers, _⟩ := repointed_of_crosses apart noClash isEdge crosses
  obtain rfl := workflow_eq_of_mem_nodeIds apart noClash ofNodes isOther isHome inOther source
  have reading : ∀ {node : FlowNode}, other.refersTo edge.target node = true ↔
      node.kind.target? = some edge.target ∧ node.id ∈ other.nodeIds := by
    simp [Workflow.refersTo]
  have only : ∀ second ∈ created (FlowGraph.of nodes edges) groups edges,
      other.refersTo edge.target second = true ↔ (second == node) = true := by
    intro second isSecond
    rw [beq_iff_eq]
    constructor
    · intro also
      obtain ⟨isTarget, listed⟩ := reading.mp refers
      obtain ⟨isTarget', listed'⟩ := reading.mp also
      obtain ⟨reference, called, rfl⟩ := target?_created apart noClash isCreated isTarget
      obtain ⟨reference', called', rfl⟩ := target?_created apart noClash isSecond isTarget'
      rw [reference_eq_of_home apart noClash ofNodes called' called (isTarget'.trans isTarget.symm) isHome listed' listed]
    · rintro rfl
      exact refers
  rw [List.countP_congr only]
  exact List.count_eq_one_of_mem (nodup_created apart) isCreated

/-- **Rewriting along groups that are apart separates workflows**, where HTTP edges do not leave groups. -/
theorem rewritten_separates {hintOf : String → Option Nat}
    (merged : ∀ edge ∈ edges, edge.label.any Http.isLabel → (hintOf edge.source).isSome → (hintOf edge.target).isSome →
      ∀ group ∈ groups, edge.source ∈ group.members → edge.target ∈ group.members) :
    (rewritten (FlowGraph.of nodes edges) groups nodes edges).Separates hintOf nodes edges
      (created (FlowGraph.of nodes edges) groups edges) := by
  have ofNodes : ∀ id, (FlowGraph.of nodes edges).contains id → id ∈ nodes.map (·.id) :=
    fun id => FlowGraph.contains_of.mp
  refine ⟨nodes_rewritten apart noClash, ?_, ?_, ?_, ?_, ?_⟩
  · intro edge isEdge a isA b isB inA inB
    by_contra differ
    exact not_crosses_rewritten apart noClash ofNodes isEdge ⟨a, isA, b, isB, differ, inA, inB⟩
  · intro i edge atI
    have isEdge := List.mem_of_getElem? atI
    refine ⟨_, getElem?_edges_rewritten apart noClash ofNodes atI, ⟨?_, repointed_of_crosses apart noClash isEdge⟩,
      turned_eq_self apart noClash isEdge⟩
    rintro ⟨_, _, _, node, isCreated, _, image⟩
    by_contra inside
    rw [turned_eq_self apart noClash isEdge inside] at image
    exact created_ne_target apart noClash isCreated isEdge (congrArg FlowEdge.target image).symm
  · intro edge isEdge crosses home isHome source
    exact countP_refersTo apart noClash isEdge crosses isHome source
  · intro node isCreated target isTarget
    obtain ⟨reference, called, rfl⟩ := target?_created apart noClash isCreated isTarget
    obtain ⟨edge, isEdge, calls⟩ := List.mem_filterMap.mp called
    obtain ⟨home, isHome, source, listed⟩ := exists_home apart noClash isEdge calls
    rw [target?_of_calls calls] at isTarget
    exact ⟨edge, isEdge, Option.some.inj isTarget, (crosses_iff apart noClash isEdge).mpr (Option.isSome_of_eq_some calls),
      home, isHome, source, listed⟩
  · intro i edge atI labelled source target
    have isEdge := List.mem_of_getElem? atI
    rw [getElem?_edges_rewritten apart noClash ofNodes atI]
    refine congrArg some (turned_eq_self apart noClash isEdge fun crosses => ?_)
    obtain ⟨_, calls⟩ := Option.isSome_iff_exists.mp ((crosses_iff apart noClash isEdge).mp crosses)
    obtain ⟨⟨m, a, b⟩, crosses, _⟩ := Option.map_eq_some_iff.mp calls
    obtain ⟨n, differ, atM, atN, inA, inB, _⟩ := (crossing?_eq_some apart).mp crosses
    have inside := merged edge isEdge labelled source target a (List.mem_of_getElem? atM) inA
    exact differ (apart.number_eq atM atN inside inB)

end Separation

/-- **HTTP edges do not leave a group of hints**, since they link the hints at their ends. -/
theorem hintGroup_closed {graph : FlowGraph} {group : HintGroup} (isGroup : group ∈ hintGroups graph edges passes hints)
    {edge : FlowEdge} (isEdge : edge ∈ edges) (labelled : edge.label.any Http.isLabel)
    (assigned : (Membership.hintOf? graph edges (WorkflowHint.merge hints) passes edge.target).isSome)
    (source : edge.source ∈ group.members) : edge.target ∈ group.members := by
  obtain ⟨root, stands⟩ := hintGroup_standsFor isGroup
  obtain ⟨own, isOwn, related⟩ := (stands.members edge.source).mp source
  obtain ⟨other, isOther⟩ := Option.isSome_iff_exists.mp assigned
  refine (stands.members edge.target).mpr ⟨other, isOther, .trans _ _ _ related ?_⟩
  exact .rel own other ⟨edge, isEdge, labelled, isOwn, isOther⟩

/-- **Detection along hints separates workflows**, for every graph that is not too small, all hints and any
number of passes, where added ids do not clash. -/
theorem detect_separates (passes : Nat) (nodes : List FlowNode) (edges : List FlowEdge) (hints : List WorkflowHint)
    (enough : minNodes ≤ nodes.length) (hinted : hints ≠ [])
    (noClash : NoClash (FlowGraph.of nodes edges) (hintGroups (FlowGraph.of nodes edges) edges passes hints) nodes edges) :
    ∃ created, (detect passes nodes edges hints).Separates
      (Membership.hintOf? (FlowGraph.of nodes edges) edges (WorkflowHint.merge hints) passes) nodes edges created := by
  rw [detect_hinted passes edges enough hinted]
  refine ⟨_, (rewritten_separates (hintGroups_apart _ edges passes hints) noClash ?_).ordered⟩
  intro edge isEdge labelled _ assigned group isGroup source
  exact hintGroup_closed isGroup isEdge labelled assigned source

theorem detect_separates_sample : minNodes ≤ sampleNodes.length ∧ sampleHints ≠ [] ∧
    ∃ created, (detect standardPasses sampleNodes sampleEdges sampleHints).Separates
      (Membership.hintOf? (FlowGraph.of sampleNodes sampleEdges) sampleEdges (WorkflowHint.merge sampleHints)
        standardPasses) sampleNodes sampleEdges created :=
  ⟨by decide, by decide, detect_separates standardPasses _ _ _ (by decide) (by decide) sample_noClash⟩

end WorkflowAtlas
