import WorkflowAtlas.Proofs.WorkflowInvariants

/-!
# How workflows are split

**The law** (`detect_splits`): along hints, with added ids that do not clash, the ids that a workflow
lists of the graph given are one connected piece, and then it has no parts, or its parts are the
connected pieces of them, in order. Every part has a title of its own in the workflow, and the edges
from the title go to the entries of the part, or to its smallest member where each is called by another.

Pieces are known to be the connected ones from `pieces_exact`. What is left here is that parts, titles
and edges line up: a title tells its workflow and its part (`titleId_inj`), so no other workflow, kept
or dropped, has edges from it.
-/

namespace WorkflowAtlas

variable {graph : FlowGraph} {groups : List HintGroup} {nodes : List FlowNode} {edges : List FlowEdge}
  {piece : List String} {id : String}

/-! ## Entries -/

/-- **An entry of a piece**: a member that no edge reaches from another member. -/
def IsEntry (edges : List FlowEdge) (piece : List String) (id : String) : Prop :=
  id ∈ piece ∧ ∀ edge ∈ edges, edge.target = id → edge.source ∈ piece → edge.source = id

/-- **What the title of a piece points to**: its entries, or its smallest member when it has none. -/
def IsHead (edges : List FlowEdge) (piece : List String) (id : String) : Prop :=
  IsEntry edges piece id ∨
    ((∀ other, ¬ IsEntry edges piece other) ∧ id ∈ piece ∧ ∀ other ∈ piece, id ≤ other)

theorem mem_entries (known : ∀ id ∈ piece, id ∈ nodes.map (·.id)) :
    id ∈ (FlowGraph.of nodes edges).entries piece ↔ IsEntry edges piece id := by
  unfold FlowGraph.entries IsEntry
  rw [List.mem_filter, List.all_eq_true]
  refine and_congr_right fun member => ⟨?_, ?_⟩
  · rintro all edge isEdge rfl source
    have isPair := FlowGraph.mem_pairs_of.mpr ⟨known _ source, known _ member, edge, isEdge, rfl, rfl⟩
    simpa [source] using all _ isPair
  · rintro only ⟨source, target⟩ isPair
    obtain ⟨_, _, edge, isEdge, rfl, rfl⟩ := FlowGraph.mem_pairs_of.mp isPair
    by_cases ends : edge.target = id ∧ edge.source ∈ piece
    · simp [only edge isEdge ends.1 ends.2]
    · simp only [Bool.or_eq_true, bne_iff_ne, decide_eq_true_eq]
      grind

theorem mem_heads (known : ∀ id ∈ piece, id ∈ nodes.map (·.id)) (sorted : piece.Pairwise (· < ·)) :
    id ∈ HintGroup.heads (FlowGraph.of nodes edges) piece ↔ IsHead edges piece id := by
  unfold HintGroup.heads IsHead
  split
  · next empty =>
    have noEntry : ∀ other, ¬ IsEntry edges piece other := by
      intro other isEntry
      have member := (mem_entries known).mpr isEntry
      rw [empty] at member
      exact absurd member List.not_mem_nil
    rw [or_iff_right (noEntry id), and_iff_right noEntry]
    cases piece with
    | nil => simp
    | cons first rest =>
      have smallest := (List.pairwise_cons.mp sorted).1
      rw [List.head?_cons, Option.mem_toList, Option.some.injEq]
      constructor
      · rintro rfl
        refine ⟨List.mem_cons_self, List.forall_mem_cons.mpr ⟨String.le_refl _, fun other member => ?_⟩⟩
        exact String.not_lt.mp (String.lt_asymm (smallest other member))
      · rintro ⟨member, least⟩
        rcases List.mem_cons.mp member with rfl | member
        · rfl
        · exact absurd (smallest id member) (String.not_lt.mpr (least first List.mem_cons_self))
  · next nonEmpty =>
    have isEntry : ∃ other, IsEntry edges piece other := by
      obtain ⟨other, member⟩ := List.exists_mem_of_ne_nil _ nonEmpty
      exact ⟨other, (mem_entries known).mp member⟩
    rw [mem_entries known, or_iff_left]
    rintro ⟨noEntry, _⟩
    exact isEntry.elim noEntry

theorem nodup_heads (once : piece.Nodup) : (HintGroup.heads graph piece).Nodup := by
  unfold HintGroup.heads
  split
  · cases piece.head? with
    | none => exact List.nodup_nil
    | some first => exact List.nodup_singleton first
  · exact once.filter _

/-! ## Edges from titles -/

theorem mem_titleEdges_iff {group : HintGroup} {edge : FlowEdge} :
    edge ∈ group.titleEdges graph ↔ ∃ piece part, (piece, part) ∈ group.parts ∧
      ∃ head ∈ HintGroup.heads graph piece, edge = { source := group.titleId part, target := head } := by
  unfold HintGroup.titleEdges
  simp only [List.mem_flatMap, List.mem_map, Prod.exists, eq_comm]

/-- No edge goes from a title twice to one member. -/
theorem nodup_titleEdges (group : HintGroup) (once : ∀ piece ∈ group.pieces, piece.Nodup) :
    (group.titleEdges graph).Nodup := by
  unfold HintGroup.titleEdges
  rw [List.nodup_flatMap]
  refine ⟨fun ⟨piece, part⟩ isPart => ?_, ?_⟩
  · have unique : (HintGroup.heads graph piece).Nodup :=
      nodup_heads (once piece (HintGroup.mem_pieces_of_mem_parts isPart))
    exact unique.map fun a b same => congrArg FlowEdge.target same
  · refine (List.pairwise_map.mp group.nodup_numbers).imp fun {first second} differ edge inFirst inSecond => differ ?_
    obtain ⟨_, _, rfl⟩ := List.mem_map.mp inFirst
    obtain ⟨_, _, same⟩ := List.mem_map.mp inSecond
    exact (titleId_inj (congrArg FlowEdge.source same)).2.symm

/-- The targets of the edges that leave an id. -/
def Detection.targets (found : Detection) (id : String) : List String :=
  (found.edges.filter (·.source == id)).map (·.target)

section NoClash

variable (apart : Apart graph groups) (noClash : NoClash graph groups nodes edges)
  (ofNodes : ∀ id, graph.contains id → id ∈ nodes.map (·.id))

include apart

/-- An edge from a title of a group is one of the group's, from the part that the title is over. -/
theorem head_of_titleEdge {group other : HintGroup} (isGroup : group ∈ groups) (isOther : other ∈ groups) {part : Nat}
    (isPart : (piece, part) ∈ group.parts) {edge : FlowEdge} (isEdge : edge ∈ other.titleEdges graph)
    (source : edge.source = group.titleId part) : edge.target ∈ HintGroup.heads graph piece ∧
      edge = { source := group.titleId part, target := edge.target } := by
  obtain ⟨piece', part', isPart', head, isHead, rfl⟩ := mem_titleEdges_iff.mp isEdge
  obtain ⟨leads, rfl⟩ := titleId_inj source
  obtain rfl := List.inj_on_of_nodup_map apart.leads isGroup isOther leads.symm
  -- numbers differ among the parts of a group, so the piece is the same
  obtain ⟨rfl, _⟩ := Prod.mk.inj (List.inj_on_of_nodup_map group.nodup_numbers isPart' isPart rfl)
  exact ⟨isHead, rfl⟩

/-- No edge from a title is listed twice. -/
theorem nodup_flatMap_titleEdges (once : ∀ group ∈ groups, ∀ piece ∈ group.pieces, piece.Nodup) :
    ((groups.filter (·.isKept graph)).flatMap (·.titleEdges graph)).Nodup := by
  rw [List.nodup_flatMap]
  refine ⟨fun group isKept => nodup_titleEdges group (once group (List.mem_filter.mp isKept).1), ?_⟩
  refine ((List.pairwise_map.mp apart.leads).filter _).imp fun {a b} differ edge inA inB => differ ?_
  obtain ⟨_, _, _, _, _, rfl⟩ := mem_titleEdges_iff.mp inA
  obtain ⟨_, _, _, _, _, same⟩ := mem_titleEdges_iff.mp inB
  exact (titleId_inj (congrArg FlowEdge.source same)).1

include noClash ofNodes

/-- **The edges from the title over a part go to the heads of its piece, to each once.** -/
theorem targets_title {group : HintGroup} (isGroup : group ∈ groups) (kept : group.isKept graph)
    (once : ∀ group ∈ groups, ∀ piece ∈ group.pieces, piece.Nodup) {part : Nat}
    (isPart : (piece, part) ∈ group.parts) :
    ((rewritten graph groups nodes edges).targets (group.titleId part)).Nodup ∧
      ∀ id, id ∈ (rewritten graph groups nodes edges).targets (group.titleId part) ↔
        id ∈ HintGroup.heads graph piece := by
  have isTitle : group.titleId part ∈ groups.flatMap (·.titleIds) := by
    refine List.mem_flatMap.mpr ⟨group, isGroup, ?_⟩
    rw [HintGroup.titleIds_eq]
    exact List.mem_map.mpr ⟨(piece, part), isPart, rfl⟩
  have given : (edges.map (turned graph groups)).filter (·.source == group.titleId part) = [] := by
    refine List.filter_eq_nil_iff.mpr fun image member => ?_
    obtain ⟨edge, isEdge, rfl⟩ := List.mem_map.mp member
    rw [beq_iff_eq, turned_source]
    intro same
    exact noClash.not_title (.inr ⟨edge, isEdge, .inl rfl⟩) (same ▸ isTitle)
  have targets : (rewritten graph groups nodes edges).targets (group.titleId part) =
      (((groups.filter (·.isKept graph)).flatMap (·.titleEdges graph)).filter (·.source == group.titleId part)).map
        (·.target) := by
    rw [Detection.targets, edges_rewritten apart noClash ofNodes, List.filter_append, given, List.nil_append]
  have fromTitle : ∀ edge, edge ∈ ((groups.filter (·.isKept graph)).flatMap (·.titleEdges graph)).filter
      (·.source == group.titleId part) → edge.target ∈ HintGroup.heads graph piece ∧
        edge = { source := group.titleId part, target := edge.target } := by
    intro edge member
    obtain ⟨member, source⟩ := List.mem_filter.mp member
    obtain ⟨other, isOther, isEdge⟩ := List.mem_flatMap.mp member
    exact head_of_titleEdge apart isGroup (List.mem_filter.mp isOther).1 isPart isEdge (beq_iff_eq.mp source)
  rw [targets]
  refine ⟨((nodup_flatMap_titleEdges apart once).filter _).map_on fun a isA b isB same => ?_, fun id => ⟨?_, ?_⟩⟩
  · rw [(fromTitle a isA).2, (fromTitle b isB).2, same]
  · intro member
    obtain ⟨edge, isEdge, rfl⟩ := List.mem_map.mp member
    exact (fromTitle edge isEdge).1
  · intro isHead
    have isEdge := mem_titleEdges_iff.mpr ⟨piece, part, isPart, id, isHead, rfl⟩
    refine List.mem_map.mpr ⟨_, List.mem_filter.mpr ⟨List.mem_flatMap.mpr ⟨group, ?_, isEdge⟩, beq_self_eq_true _⟩, rfl⟩
    exact List.mem_filter.mpr ⟨isGroup, kept⟩

end NoClash

/-! ## Workflows -/

/-- The ids that a workflow lists of the nodes given. -/
def Workflow.given (workflow : Workflow) (nodes : List FlowNode) : List String :=
  workflow.nodeIds.filter (· ∈ nodes.map (·.id))

/-- **A workflow is split into its connected pieces.** -/
structure Workflow.Splits (nodes : List FlowNode) (edges : List FlowEdge) (found : Detection) (workflow : Workflow) :
    Prop where
  /-- Without parts it is connected, and otherwise its parts are two or more, its connected pieces in order. -/
  pieces : (workflow.parts = [] ∧ IsPiece edges (workflow.given nodes) (workflow.given nodes)) ∨
    (2 ≤ workflow.parts.length ∧ ArePieces edges (workflow.given nodes) (workflow.parts.map (·.nodeIds)))
  /-- No two parts have one title. -/
  own : (workflow.parts.map (·.titleNodeId)).Nodup
  /-- The title of a part is listed, and is one node of the graph. -/
  titles : ∀ part ∈ workflow.parts, part.titleNodeId ∈ workflow.nodeIds ∧
    ∃ title ∈ found.nodes, title.id = part.titleNodeId ∧ title.kind = .workflowTitle workflow.id ∧
      ∀ node ∈ found.nodes, node.id = part.titleNodeId → node = title
  /-- The edges from the title of a part go to its heads, to each once. -/
  heads : ∀ part ∈ workflow.parts, (found.targets part.titleNodeId).Nodup ∧
    ∀ id, id ∈ found.targets part.titleNodeId ↔ IsHead edges part.nodeIds id

/-- The parts of a group's workflow are its numbered pieces. -/
theorem HintGroup.exists_of_mem_parts {group : HintGroup} {part : WorkflowPart} (isPart : part ∈ group.workflow.parts) :
    ∃ number, (part.nodeIds, number) ∈ group.parts ∧ part.titleNodeId = group.titleId number := by
  obtain ⟨⟨piece, number⟩, isNumbered, rfl⟩ := List.mem_map.mp isPart
  exact ⟨number, isNumbered, rfl⟩

/-- **The parts of a group with members are its connected pieces**, unless it is one. -/
theorem HintGroup.parts_split {group : HintGroup} (split : ArePieces edges group.members group.pieces)
    (member : id ∈ group.members) :
    (group.workflow.parts = [] ∧ IsPiece edges group.members group.members) ∨
      (2 ≤ group.workflow.parts.length ∧ ArePieces edges group.members (group.workflow.parts.map (·.nodeIds))) := by
  by_cases several : 1 < group.pieces.length
  · have pieces : group.workflow.parts.map (·.nodeIds) = group.pieces := by
      rw [HintGroup.workflow, HintGroup.parts, if_pos several, List.map_map]
      exact List.zipIdx_map_fst 0 group.pieces
    right
    rw [← List.length_map (f := (·.nodeIds)), pieces]
    exact ⟨several, split⟩
  · have parts : group.workflow.parts = [] := by
      rw [HintGroup.workflow, HintGroup.parts, if_neg several]
      rfl
    refine .inl ⟨parts, ?_⟩
    obtain ⟨piece, isPiece, _⟩ := split.cover id member
    obtain ⟨root, isMember, reading⟩ := split.isPiece piece isPiece
    refine ⟨root, isMember, fun other => ⟨fun isOther => ?_, fun connected => connected.mem isMember⟩⟩
    -- there is no other piece for a member to be in
    obtain ⟨piece', isPiece', inPiece'⟩ := split.cover other isOther
    have same : piece' = piece := by
      match pieces : group.pieces with
      | [] => simp [pieces] at isPiece
      | [only] => simp_all
      | _ :: _ :: _ => simp [pieces] at several
    exact (reading other).mp (same ▸ inPiece')

section NoClash

variable (apart : Apart (FlowGraph.of nodes edges) groups) (noClash : NoClash (FlowGraph.of nodes edges) groups nodes edges)

include apart noClash

/-- Of the ids given, the workflow of a group lists its members. -/
theorem given_emitted {number : Nat} {group : HintGroup} (atNumber : groups[number]? = some group) :
    (emitted (drafted (FlowGraph.of nodes edges) groups edges).additions group number).given nodes = group.members := by
  have members : group.members.filter (· ∈ nodes.map (·.id)) = group.members := by
    refine List.filter_eq_self.mpr fun id member => decide_eq_true ?_
    exact FlowGraph.contains_of.mp (apart.known group (List.mem_of_getElem? atNumber) id member)
  have added : (((drafted (FlowGraph.of nodes edges) groups edges).additions.filter (·.group == number)).map
      (·.node.id)).filter (· ∈ nodes.map (·.id)) = [] := by
    refine List.filter_eq_nil_iff.mpr fun id added => ?_
    obtain ⟨addition, owned, rfl⟩ := List.mem_map.mp added
    simpa using (noClash.id_fresh apart (List.mem_filter.mp owned).1).1
  rw [Workflow.given, emitted, List.filter_append, members, added, List.append_nil]

/-- **The workflow of a kept group is split into its connected pieces**, where groups have their connected
pieces. -/
theorem emitted_splits (split : ∀ group ∈ groups, ArePieces edges group.members group.pieces) {number : Nat}
    {group : HintGroup} (atNumber : groups[number]? = some group) (kept : group.isKept (FlowGraph.of nodes edges)) :
    (emitted (drafted (FlowGraph.of nodes edges) groups edges).additions group number).Splits nodes edges
      (rewritten (FlowGraph.of nodes edges) groups nodes edges) := by
  have isGroup := List.mem_of_getElem? atNumber
  have once : ∀ group ∈ groups, ∀ piece ∈ group.pieces, piece.Nodup := fun group isGroup piece isPiece =>
    nodup_of_sorted ((split group isGroup).sorted piece isPiece)
  have titleIds : group.workflow.parts.map (·.titleNodeId) = group.titleIds := by
    rw [HintGroup.titleIds_eq, HintGroup.workflow, List.map_map]
    rfl
  refine ⟨?_, ?_, fun part isPart => ?_, fun part isPart => ?_⟩
  · rw [given_emitted apart noClash atNumber]
    obtain ⟨id, member, _⟩ := List.any_eq_true.mp kept
    exact HintGroup.parts_split (split group isGroup) member
  · exact titleIds ▸ group.nodup_titleIds
  · have isTitle : part.titleNodeId ∈ group.titleIds := titleIds ▸ List.mem_map_of_mem isPart
    obtain ⟨title, listed, same⟩ := List.mem_map.mp isTitle
    have added := (drafted_spec apart edges).titles ⟨number, title⟩ (mem_titleAdditions.mpr ⟨group, atNumber, listed⟩)
    have isCreated := (mem_created apart noClash).mpr (.inl ⟨group, isGroup, kept, listed⟩)
    refine ⟨mem_nodeIds_emitted.mpr (.inr ⟨_, added, rfl, same⟩), ?_⟩
    rw [nodes_rewritten apart noClash]
    refine ⟨title, List.mem_append_right _ isCreated, same, kind_of_mem_titles listed, fun node isNode sameId => ?_⟩
    rcases List.mem_append.mp isNode with given | alsoCreated
    · have fresh := (noClash.id_fresh apart added).1
      exact absurd (List.mem_map.mpr ⟨node, given, sameId.trans same.symm⟩) fresh
    · exact List.inj_on_of_nodup_map (nodup_ids_created apart) alsoCreated isCreated (sameId.trans same.symm)
  · obtain ⟨number, isPart, isTitle⟩ := HintGroup.exists_of_mem_parts isPart
    have isPiece := HintGroup.mem_pieces_of_mem_parts isPart
    have known : ∀ id ∈ part.nodeIds, id ∈ nodes.map (·.id) := fun id member =>
      FlowGraph.contains_of.mp (apart.known group isGroup id (apart.pieces group isGroup _ isPiece id member))
    obtain ⟨unique, heads⟩ := targets_title apart noClash (fun _ => FlowGraph.contains_of.mp) isGroup kept once isPart
    rw [isTitle]
    exact ⟨unique, fun id => (heads id).trans (mem_heads known ((split group isGroup).sorted _ isPiece))⟩

end NoClash

/-- **Detection along hints splits workflows into their connected pieces**, for every graph that is not too
small, all hints and any number of passes, where added ids do not clash. -/
theorem detect_splits (passes : Nat) (nodes : List FlowNode) (edges : List FlowEdge) (hints : List WorkflowHint)
    (enough : 5 ≤ nodes.length) (hinted : hints ≠ [])
    (noClash : NoClash (FlowGraph.of nodes edges) (hintGroups (FlowGraph.of nodes edges) edges passes hints) nodes edges) :
    ∀ workflow ∈ (detect passes nodes edges hints).workflows,
      workflow.Splits nodes edges (detect passes nodes edges hints) := by
  have apart := hintGroups_apart (FlowGraph.of nodes edges) edges passes hints
  have split : ∀ group ∈ hintGroups (FlowGraph.of nodes edges) edges passes hints,
      ArePieces edges group.members group.pieces := by
    intro group isGroup
    rw [(hintGroup_made isGroup).2]
    exact FlowGraph.pieces_exact fun id member => FlowGraph.contains_of.mp (apart.known group isGroup id member)
  rw [detect_hinted passes edges enough hinted]
  intro workflow isWorkflow
  obtain ⟨number, group, atNumber, kept, rfl⟩ := mem_workflows_rewritten.mp (mem_workflows_ordered.mp isWorkflow)
  have splits := emitted_splits apart noClash split atNumber kept
  exact ⟨splits.pieces, splits.own, splits.titles, splits.heads⟩

/-- The workflow of the planner is in two pieces. -/
theorem detect_splits_sample : 5 ≤ sampleNodes.length ∧ sampleHints ≠ [] ∧
    ∃ workflow ∈ (detect standardPasses sampleNodes sampleEdges sampleHints).workflows,
      workflow.parts.map (·.nodeIds) = [["call", "plan"], ["log"]] ∧
      workflow.Splits sampleNodes sampleEdges (detect standardPasses sampleNodes sampleEdges sampleHints) := by
  have split := detect_splits standardPasses sampleNodes sampleEdges sampleHints (by decide) (by decide) sample_noClash
  have isThere : ∃ workflow ∈ (detectByHints standardPasses sampleNodes sampleEdges sampleHints).workflows,
      workflow.parts.map (·.nodeIds) = [["call", "plan"], ["log"]] := by decide +kernel
  obtain ⟨workflow, isWorkflow, parts⟩ := isThere
  have isFound : workflow ∈ (detect standardPasses sampleNodes sampleEdges sampleHints).workflows :=
    mem_workflows_ordered.mpr isWorkflow
  exact ⟨by decide, by decide, workflow, isFound, parts, split workflow isFound⟩

end WorkflowAtlas
