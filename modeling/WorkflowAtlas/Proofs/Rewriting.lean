import WorkflowAtlas.Proofs.Drafting

/-!
# The rewritten graph

What a graph rewritten along groups is, when the groups are apart and no added id clashes.

- `isRemoved_iff`: what is removed are the titles of dropped groups, and nothing else.
- `nodes_rewritten`: the nodes are those given, then what was created for kept groups.
- `edges_rewritten`: the edges are those given, each turned where it crosses and none left out, then
  the edges from the titles of kept groups.
- `mem_workflows_rewritten`: the workflows are those of the kept groups.
-/

namespace WorkflowAtlas

variable {graph : FlowGraph} {groups : List HintGroup} {nodes : List FlowNode} {edges : List FlowEdge}

/-- The nodes created for kept groups. -/
def created (graph : FlowGraph) (groups : List HintGroup) (edges : List FlowEdge) : List FlowNode :=
  ((drafted graph groups edges).additions.filter fun addition => isKeptNumber graph groups addition.group).map (·.node)

/-! ## Edges from titles -/

theorem mem_of_mem_heads {piece : List String} {id : String} (isHead : id ∈ HintGroup.heads graph piece) :
    id ∈ piece := by
  unfold HintGroup.heads at isHead
  split at isHead
  · exact List.mem_of_head? (Option.mem_toList.mp isHead)
  · exact (List.mem_filter.mp isHead).1

theorem HintGroup.mem_pieces_of_mem_parts {group : HintGroup} {piece : List String} {part : Nat}
    (isPart : (piece, part) ∈ group.parts) : piece ∈ group.pieces := by
  unfold HintGroup.parts at isPart
  split at isPart
  · exact List.mem_of_getElem? (List.mem_zipIdx_iff_getElem?.mp isPart)
  · exact absurd isPart List.not_mem_nil

/-- An edge from a title of a group runs to a member of it. -/
theorem mem_titleEdges (apart : Apart graph groups) {group : HintGroup} (isGroup : group ∈ groups) {edge : FlowEdge}
    (isEdge : edge ∈ group.titleEdges graph) : edge.source ∈ group.titleIds ∧ edge.target ∈ group.members := by
  obtain ⟨⟨piece, part⟩, isPart, isEdge⟩ := List.mem_flatMap.mp isEdge
  obtain ⟨head, isHead, rfl⟩ := List.mem_map.mp isEdge
  refine ⟨?_, ?_⟩
  · rw [HintGroup.titleIds_eq]
    exact List.mem_map.mpr ⟨(piece, part), isPart, rfl⟩
  · have isPiece := HintGroup.mem_pieces_of_mem_parts isPart
    exact apart.pieces group isGroup piece isPiece head (mem_of_mem_heads isHead)

/-! ## What is removed -/

section NoClash

variable (apart : Apart graph groups) (noClash : NoClash graph groups nodes edges)

include apart noClash

omit noClash in
/-- An addition is owned by a group, by the number that it has. -/
theorem exists_owner {addition : Addition} (added : addition ∈ (drafted graph groups edges).additions) :
    ∃ group, groups[addition.group]? = some group ∧
      (addition.node ∈ group.titles ∨ (group.isKept graph ∧ addition ∈ calledFor graph groups edges)) := by
  rcases (drafted_spec apart edges).sound addition added with isTitle | called
  · obtain ⟨group, atNumber, isTitle⟩ := mem_titleAdditions.mp isTitle
    exact ⟨group, atNumber, .inl isTitle⟩
  · obtain ⟨edge, _, number, a, b, crosses, rfl⟩ := mem_calledFor.mp called
    obtain ⟨_, _, atNumber, _, _, _, kept, _⟩ := (crossing?_eq_some apart).mp crosses
    exact ⟨a, atNumber, .inr ⟨kept, called⟩⟩

omit noClash in
/-- An addition is removed with the group that owns it. -/
theorem isRemoved_addition {addition : Addition} (added : addition ∈ (drafted graph groups edges).additions) :
    isRemoved graph groups (drafted graph groups edges).additions addition.node.id =
      !isKeptNumber graph groups addition.group := by
  unfold isRemoved
  rw [additionOwner?_eq (drafted_spec apart edges).unique added]
  rfl

omit noClash in
/-- A title is removed with its group. -/
theorem isRemoved_title {group : HintGroup} (isGroup : group ∈ groups) {id : String} (isTitle : id ∈ group.titleIds) :
    isRemoved graph groups (drafted graph groups edges).additions id = !group.isKept graph := by
  obtain ⟨title, listed, rfl⟩ := List.mem_map.mp isTitle
  obtain ⟨number, atNumber⟩ := List.mem_iff_getElem?.mp isGroup
  have added := (drafted_spec apart edges).titles ⟨number, title⟩ (mem_titleAdditions.mpr ⟨group, atNumber, listed⟩)
  rw [isRemoved_addition apart added, isKeptNumber, atNumber]
  rfl

omit noClash in
/-- **Removed are the titles of dropped groups.** -/
theorem isRemoved_iff {id : String} :
    isRemoved graph groups (drafted graph groups edges).additions id = true ↔
      ∃ group ∈ groups, group.isKept graph = false ∧ id ∈ group.titleIds := by
  constructor
  · intro removed
    have owned : id ∈ (drafted graph groups edges).additions.map (·.node.id) := by
      obtain ⟨number, owner, _⟩ := (Option.any_eq_true _ _).mp removed
      exact additionOwner?_isSome.mp (Option.isSome_of_eq_some owner)
    obtain ⟨addition, added, rfl⟩ := List.mem_map.mp owned
    rw [isRemoved_addition apart added] at removed
    obtain ⟨group, atNumber, isTitle | ⟨kept, _⟩⟩ := exists_owner apart added
    · refine ⟨group, List.mem_of_getElem? atNumber, ?_, List.mem_map_of_mem isTitle⟩
      simpa [isKeptNumber, atNumber] using removed
    · simp [isKeptNumber, atNumber, kept] at removed
  · rintro ⟨group, isGroup, dropped, isTitle⟩
    rw [isRemoved_title apart isGroup isTitle, dropped]
    rfl

omit noClash in
theorem isRemoved_eq_false {id : String} (noTitle : id ∉ groups.flatMap (·.titleIds)) :
    isRemoved graph groups (drafted graph groups edges).additions id = false := by
  rw [Bool.eq_false_iff]
  intro removed
  obtain ⟨group, isGroup, _, isTitle⟩ := (isRemoved_iff apart).mp removed
  exact noTitle (List.mem_flatMap.mpr ⟨group, isGroup, isTitle⟩)

omit apart in
/-- No id of a node and no end of an edge is that of a title. -/
theorem NoClash.not_title {id : String} (given : id ∈ nodes.map (·.id) ∨ ∃ edge ∈ edges, id = edge.source ∨ id = edge.target) :
    id ∉ groups.flatMap (·.titleIds) := by
  intro isTitle
  obtain ⟨noNode, noEnd⟩ := noClash.fresh id (List.mem_append_right _ isTitle)
  rcases given with isNode | ⟨edge, isEdge, isSource | isTarget⟩
  · exact noNode isNode
  · exact (noEnd edge isEdge).1 isSource
  · exact (noEnd edge isEdge).2 isTarget

/-! ## Nodes -/

omit noClash in
/-- What was created for kept groups stays, after the nodes given that stay. -/
theorem nodes_rewritten_of_apart (nodes : List FlowNode) : (rewritten graph groups nodes edges).nodes =
    nodes.filter (fun node => !isRemoved graph groups (drafted graph groups edges).additions node.id) ++
      created graph groups edges := by
  show (nodes ++ (drafted graph groups edges).additions.map (·.node)).filter _ = _
  rw [List.filter_append, List.filter_map]
  congr 1
  refine congrArg (List.map _) (List.filter_congr fun addition added => ?_)
  rw [Function.comp_apply, isRemoved_addition apart added, Bool.not_not]

/-- **The nodes given come first and all stay**, then come those created for kept groups. -/
theorem nodes_rewritten : (rewritten graph groups nodes edges).nodes = nodes ++ created graph groups edges := by
  rw [nodes_rewritten_of_apart apart nodes]
  congr 1
  refine List.filter_eq_self.mpr fun node isNode => ?_
  rw [isRemoved_eq_false apart (noClash.not_title (.inl (List.mem_map_of_mem isNode)))]
  rfl

omit noClash in
theorem nodup_ids_created : ((created graph groups edges).map (·.id)).Nodup := by
  unfold created
  rw [List.map_map]
  exact (drafted_spec apart edges).unique.sublist (List.filter_sublist.map _)

omit noClash in
/-- What is created are titles and references. -/
theorem isSynthetic_created {node : FlowNode} (isCreated : node ∈ created graph groups edges) : node.kind.isSynthetic := by
  obtain ⟨addition, added, rfl⟩ := List.mem_map.mp isCreated
  rcases (drafted_spec apart edges).sound addition (List.mem_filter.mp added).1 with isTitle | called
  · obtain ⟨group, _, listed⟩ := mem_titleAdditions.mp isTitle
    rw [kind_of_mem_titles listed]
    rfl
  · obtain ⟨_, _, _, _, _, _, rfl⟩ := mem_calledFor.mp called
    rfl

/-- **What is created** are the titles of kept groups and the references that edges call for. -/
theorem mem_created {node : FlowNode} :
    node ∈ created graph groups edges ↔ (∃ group ∈ groups, group.isKept graph ∧ node ∈ group.titles) ∨
      ∃ reference ∈ calledFor graph groups edges, reference.node = node := by
  unfold created
  rw [List.mem_map]
  constructor
  · rintro ⟨addition, added, rfl⟩
    obtain ⟨added, kept⟩ := List.mem_filter.mp added
    obtain ⟨group, atNumber, isTitle | ⟨_, called⟩⟩ := exists_owner apart added
    · rw [isKeptNumber, atNumber] at kept
      exact .inl ⟨group, List.mem_of_getElem? atNumber, kept, isTitle⟩
    · exact .inr ⟨addition, called, rfl⟩
  · rintro (⟨group, isGroup, kept, isTitle⟩ | ⟨reference, called, rfl⟩)
    · obtain ⟨number, atNumber⟩ := List.mem_iff_getElem?.mp isGroup
      have added := (mem_additions_iff apart noClash).mpr (.inl (mem_titleAdditions.mpr
        (show ∃ group, groups[(Addition.mk number node).group]? = some group ∧ _ from ⟨group, atNumber, isTitle⟩)))
      refine ⟨⟨number, node⟩, List.mem_filter.mpr ⟨added, ?_⟩, rfl⟩
      rw [isKeptNumber, atNumber]
      exact kept
    · have added := (mem_additions_iff apart noClash).mpr (.inr called)
      refine ⟨reference, List.mem_filter.mpr ⟨added, ?_⟩, rfl⟩
      obtain ⟨edge, _, number, a, b, crosses, rfl⟩ := mem_calledFor.mp called
      obtain ⟨_, _, atNumber, _, _, _, kept, _⟩ := (crossing?_eq_some apart).mp crosses
      rw [isKeptNumber, atNumber]
      exact kept

/-! ## Edges -/

omit apart in
/-- No edge that was turned ends at a title. -/
theorem turned_not_title {edge : FlowEdge} (isEdge : edge ∈ edges) :
    (turned graph groups edge).target ∉ groups.flatMap (·.titleIds) := by
  unfold turned
  cases called : reference? graph groups edge with
  | none => exact noClash.not_title (.inr ⟨edge, isEdge, .inr rfl⟩)
  | some reference =>
    obtain ⟨edge', isEdge', number, a, b, crosses, rfl⟩ := mem_calledFor.mp (List.mem_filterMap.mpr ⟨edge, isEdge, called⟩)
    exact noClash.titles _ (mem_referenceKeys isEdge' crosses)

omit noClash apart in
theorem turned_source (edge : FlowEdge) : (turned graph groups edge).source = edge.source := by
  unfold turned
  split <;> rfl

omit noClash apart in
theorem flatMap_filter {α β : Type} (test : α → Bool) (listOf : α → List β) (items : List α) :
    (items.filter test).flatMap listOf = items.flatMap fun item => if test item then listOf item else [] := by
  induction items with
  | nil => rfl
  | cons item rest ih =>
    rw [List.filter_cons, List.flatMap_cons, ← ih]
    cases test item with
    | true => rfl
    | false => rfl

/-- **The edges given come first and all stay**, each turned, then come those from the titles of kept
groups. -/
theorem edges_rewritten (ofNodes : ∀ id, graph.contains id → id ∈ nodes.map (·.id)) :
    (rewritten graph groups nodes edges).edges =
      edges.map (turned graph groups) ++ (groups.filter (·.isKept graph)).flatMap (·.titleEdges graph) := by
  show ((drafted graph groups edges).edges ++ groups.flatMap (·.titleEdges graph)).filter _ = _
  rw [(drafted_spec apart edges).edges, List.filter_append]
  congr 1
  · refine List.filter_eq_self.mpr fun edge member => ?_
    obtain ⟨given, isGiven, rfl⟩ := List.mem_map.mp member
    rw [turned_source, isRemoved_eq_false apart (noClash.not_title (.inr ⟨given, isGiven, .inl rfl⟩)),
      isRemoved_eq_false apart (turned_not_title noClash isGiven)]
    rfl
  · rw [List.filter_flatMap, flatMap_filter]
    refine List.flatMap_congr fun group isGroup => ?_
    -- a title edge starts at a title of its group and ends at a known id, so its group decides
    have decided : ∀ edge ∈ group.titleEdges graph,
        (!isRemoved graph groups (drafted graph groups edges).additions edge.source &&
          !isRemoved graph groups (drafted graph groups edges).additions edge.target) = group.isKept graph := by
      intro edge isEdge
      obtain ⟨isTitle, isMember⟩ := mem_titleEdges apart isGroup isEdge
      have isNode := ofNodes _ (apart.known group isGroup _ isMember)
      rw [isRemoved_title apart isGroup isTitle, isRemoved_eq_false apart (noClash.not_title (.inl isNode))]
      simp
    rw [List.filter_congr decided]
    cases group.isKept graph with
    | true => simp
    | false => simp

end NoClash

/-! ## Workflows -/

theorem mem_workflows_rewritten {workflow : Workflow} :
    workflow ∈ (rewritten graph groups nodes edges).workflows ↔ ∃ number group, groups[number]? = some group ∧
      group.isKept graph ∧ emitted (drafted graph groups edges).additions group number = workflow := by
  unfold rewritten
  simp only [List.mem_map, List.mem_filter, Prod.exists, List.mem_zipIdx_iff_getElem?]
  constructor
  · rintro ⟨group, number, ⟨atNumber, kept⟩, rfl⟩
    exact ⟨number, group, atNumber, kept, rfl⟩
  · rintro ⟨number, group, atNumber, kept, rfl⟩
    exact ⟨group, number, ⟨atNumber, kept⟩, rfl⟩

theorem emitted_mem_workflows (nodes : List FlowNode) (edges : List FlowEdge) {number : Nat} {group : HintGroup}
    (atNumber : groups[number]? = some group) (kept : group.isKept graph) :
    emitted (drafted graph groups edges).additions group number ∈ (rewritten graph groups nodes edges).workflows :=
  mem_workflows_rewritten.mpr ⟨number, group, atNumber, kept, rfl⟩

theorem mem_nodeIds_emitted {additions : List Addition} {group : HintGroup} {number : Nat} {id : String} :
    id ∈ (emitted additions group number).nodeIds ↔
      id ∈ group.members ∨ ∃ addition ∈ additions, addition.group = number ∧ addition.node.id = id := by
  simp [emitted, and_assoc]

section NoClash

variable (apart : Apart graph groups) (noClash : NoClash graph groups nodes edges)
  (ofNodes : ∀ id, graph.contains id → id ∈ nodes.map (·.id))

include apart noClash

/-- Of the ids given, a workflow lists the members of its group. -/
theorem mem_nodeIds_of_given {group : HintGroup} {number : Nat} {id : String}
    (given : id ∈ nodes.map (·.id) ∨ ∃ edge ∈ edges, id = edge.source ∨ id = edge.target) :
    id ∈ (emitted (drafted graph groups edges).additions group number).nodeIds ↔ id ∈ group.members := by
  rw [mem_nodeIds_emitted]
  refine ⟨fun listed => listed.resolve_right ?_, .inl⟩
  rintro ⟨addition, added, _, rfl⟩
  obtain ⟨noNode, noEnd⟩ := noClash.id_fresh apart added
  rcases given with isNode | ⟨edge, isEdge, isSource | isTarget⟩
  · exact noNode isNode
  · exact (noEnd edge isEdge).1 isSource
  · exact (noEnd edge isEdge).2 isTarget

include ofNodes

/-- An id that a workflow lists tells the number of its group. -/
theorem number_eq_of_mem_nodeIds {m n : Nat} {a b : HintGroup} {id : String}
    (atM : groups[m]? = some a) (atN : groups[n]? = some b)
    (inA : id ∈ (emitted (drafted graph groups edges).additions a m).nodeIds)
    (inB : id ∈ (emitted (drafted graph groups edges).additions b n).nodeIds) : m = n := by
  have isNode : ∀ {number : Nat} {group : HintGroup}, groups[number]? = some group → id ∈ group.members →
      id ∈ nodes.map (·.id) := fun atNumber member =>
    ofNodes id (apart.known _ (List.mem_of_getElem? atNumber) id member)
  rcases mem_nodeIds_emitted.mp inA with memberA | ⟨addition, added, rfl, rfl⟩
  · have memberB := (mem_nodeIds_of_given apart noClash (.inl (isNode atM memberA))).mp inB
    exact apart.number_eq atM atN memberA memberB
  · rcases mem_nodeIds_emitted.mp inB with memberB | ⟨other, isOther, rfl, same⟩
    · exact absurd (isNode atN memberB) (noClash.id_fresh apart added).1
    · rw [List.inj_on_of_nodup_map (drafted_spec apart edges).unique isOther added same]

/-- **Workflows that list one id are one.** -/
theorem workflow_eq_of_mem_nodeIds {a b : Workflow} (isA : a ∈ (rewritten graph groups nodes edges).workflows)
    (isB : b ∈ (rewritten graph groups nodes edges).workflows) {id : String} (inA : id ∈ a.nodeIds) (inB : id ∈ b.nodeIds) :
    a = b := by
  obtain ⟨m, _, atM, _, rfl⟩ := mem_workflows_rewritten.mp isA
  obtain ⟨n, _, atN, _, rfl⟩ := mem_workflows_rewritten.mp isB
  obtain rfl := number_eq_of_mem_nodeIds apart noClash ofNodes atM atN inA inB
  rw [atM] at atN
  cases atN
  rfl

end NoClash

/-- **An edge crosses workflows** when its ends are listed by two different ones. -/
def Crosses (workflows : List Workflow) (edge : FlowEdge) : Prop :=
  ∃ a ∈ workflows, ∃ b ∈ workflows, a ≠ b ∧ edge.source ∈ a.nodeIds ∧ edge.target ∈ b.nodeIds

/-- **The given edges that call for a reference are those that cross workflows.** -/
theorem crosses_iff (apart : Apart graph groups) (noClash : NoClash graph groups nodes edges) {edge : FlowEdge}
    (isEdge : edge ∈ edges) :
    Crosses (rewritten graph groups nodes edges).workflows edge ↔ (reference? graph groups edge).isSome := by
  have source : ∀ {group : HintGroup} {number : Nat}, edge.source ∈
      (emitted (drafted graph groups edges).additions group number).nodeIds ↔ edge.source ∈ group.members :=
    mem_nodeIds_of_given apart noClash (.inr ⟨edge, isEdge, .inl rfl⟩)
  have target : ∀ {group : HintGroup} {number : Nat}, edge.target ∈
      (emitted (drafted graph groups edges).additions group number).nodeIds ↔ edge.target ∈ group.members :=
    mem_nodeIds_of_given apart noClash (.inr ⟨edge, isEdge, .inr rfl⟩)
  rw [reference?, Option.isSome_map, Option.isSome_iff_exists]
  constructor
  · rintro ⟨_, isA, _, isB, differ, inA, inB⟩
    obtain ⟨m, a, atM, keptA, rfl⟩ := mem_workflows_rewritten.mp isA
    obtain ⟨n, b, atN, keptB, rfl⟩ := mem_workflows_rewritten.mp isB
    refine ⟨(m, a, b), (crossing?_eq_some apart).mpr ⟨n, ?_, atM, atN, source.mp inA, target.mp inB, keptA, keptB⟩⟩
    rintro rfl
    rw [atM] at atN
    cases atN
    exact differ rfl
  · rintro ⟨⟨m, a, b⟩, crosses⟩
    obtain ⟨n, differ, atM, atN, inA, inB, keptA, keptB⟩ := (crossing?_eq_some apart).mp crosses
    refine ⟨_, emitted_mem_workflows nodes edges atM keptA, _, emitted_mem_workflows nodes edges atN keptB, ?_,
      source.mpr inA, target.mpr inB⟩
    intro same
    exact differ (apart.number_eq_of_lead atM atN (congrArg Workflow.id same))

end WorkflowAtlas
