import WorkflowAtlas.Proofs.Pieces
import WorkflowAtlas.Workflow.Detection

/-!
# Workflows that no hint proposed

**The law** (`detect_clusters`): without hints the graph comes out as it is given, and the workflows are
its connected components of three ids or more that have a language model node, each component once and
with its ids in order.

Every seed that is in no earlier cluster gathers what is connected with it. What was gathered before is
closed under connection, so a seed outside it has a component of its own, and one inside it has none
(`clustersFrom_exact`).
-/

namespace WorkflowAtlas

variable {nodes : List FlowNode} {edges : List FlowEdge} {id : String}

/-- **The last node with an id is that of a language model.** -/
def LastIsLlm (nodes : List FlowNode) (id : String) : Prop :=
  ∃ before node after, nodes = before ++ node :: after ∧ node.id = id ∧ node.kind.isLlm ∧
    ∀ later ∈ after, later.id ≠ id

theorem FlowGraph.isLlm_of : (FlowGraph.of nodes edges).isLlm id = true ↔ LastIsLlm nodes id := by
  have found : ∀ node, (FlowGraph.of nodes edges).node? id = some node ↔
      node.id = id ∧ ∃ before after, nodes = before ++ node :: after ∧ ∀ later ∈ after, later.id ≠ id := by
    intro node
    rw [node?, FlowGraph.of, List.find?_eq_some_iff_append, beq_iff_eq]
    refine and_congr_right fun _ => ⟨?_, ?_⟩
    · rintro ⟨later, earlier, split, others⟩
      refine ⟨earlier.reverse, later.reverse, ?_, fun other member => ?_⟩
      · simpa using congrArg List.reverse split
      · simpa using others other (List.mem_reverse.mp member)
    · rintro ⟨before, after, split, others⟩
      refine ⟨after.reverse, before.reverse, by simp [split], fun other member => ?_⟩
      simpa using others other (List.mem_reverse.mp member)
  rw [isLlm, Option.any_eq_true]
  constructor
  · rintro ⟨node, isNode, kind⟩
    obtain ⟨same, before, after, split, last⟩ := (found node).mp isNode
    exact ⟨before, node, after, split, same, kind, last⟩
  · rintro ⟨before, node, after, split, same, kind, last⟩
    exact ⟨node, (found node).mpr ⟨same, before, after, split, last⟩, kind⟩

/-! ## The run over the seeds -/

/-- **The clusters of seeds** that are not visited: each gathers once what is connected with a seed of a
language model, every such seed is visited or in one, and none meets another or what was visited. -/
structure ClustersOf (nodes : List FlowNode) (edges : List FlowEdge) (visited seeds : List String)
    (clusters : List (String × List String)) : Prop where
  llm : ∀ entry ∈ clusters, entry.1 ∈ nodes.map (·.id) ∧ LastIsLlm nodes entry.1
  once : ∀ entry ∈ clusters, entry.2.Nodup
  reading : ∀ entry ∈ clusters, ∀ id, id ∈ entry.2 ↔ Connected edges (nodes.map (·.id)) entry.1 id
  cover : ∀ id ∈ seeds, LastIsLlm nodes id → id ∈ visited ∨ ∃ entry ∈ clusters, id ∈ entry.2
  unseen : ∀ entry ∈ clusters, List.Disjoint entry.2 visited
  disjoint : clusters.Pairwise fun first second => List.Disjoint first.2 second.2

/-- What was visited stays closed when a cluster joins it. -/
theorem ClosedIn.append_cluster {visited cluster : List String} (closed : ClosedIn edges (nodes.map (·.id)) visited)
    (reading : ∀ other, other ∈ cluster ↔ Connected edges (nodes.map (·.id)) id other) :
    ClosedIn edges (nodes.map (·.id)) (visited ++ cluster) := by
  intro a member b connected
  rcases List.mem_append.mp member with earlier | inCluster
  · exact List.mem_append_left _ (closed a earlier b connected)
  · exact List.mem_append_right _ ((reading b).mpr (((reading a).mp inCluster).trans connected))

/-- A seed that is visited, or is of no language model, has no cluster. -/
theorem ClustersOf.skip {visited seeds : List String} {clusters : List (String × List String)}
    (later : ClustersOf nodes edges visited seeds clusters) (skipped : id ∈ visited ∨ ¬ LastIsLlm nodes id) :
    ClustersOf nodes edges visited (id :: seeds) clusters := by
  refine { later with cover := fun other isSeed isLlm => ?_ }
  rcases List.mem_cons.mp isSeed with rfl | isSeed
  · exact .inl (skipped.resolve_right fun notLlm => notLlm isLlm)
  · exact later.cover other isSeed isLlm

/-- **One cluster more**: that of a seed which is not visited. -/
theorem ClustersOf.cons {visited seeds cluster : List String} {clusters : List (String × List String)}
    (closed : ClosedIn edges (nodes.map (·.id)) visited) (known : id ∈ nodes.map (·.id)) (isLlm : LastIsLlm nodes id)
    (fresh : id ∉ visited) (once : cluster.Nodup)
    (reading : ∀ other, other ∈ cluster ↔ Connected edges (nodes.map (·.id)) id other)
    (later : ClustersOf nodes edges (visited ++ cluster) seeds clusters) :
    ClustersOf nodes edges visited (id :: seeds) ((id, cluster) :: clusters) := by
  have apart : List.Disjoint cluster visited := by
    intro other inCluster earlier
    exact fresh (closed other earlier id ((reading other).mp inCluster).symm)
  refine ⟨?_, ?_, ?_, ?_, ?_, List.pairwise_cons.mpr ⟨?_, later.disjoint⟩⟩
  · exact List.forall_mem_cons.mpr ⟨⟨known, isLlm⟩, later.llm⟩
  · exact List.forall_mem_cons.mpr ⟨once, later.once⟩
  · exact List.forall_mem_cons.mpr ⟨reading, later.reading⟩
  · intro other isSeed isLlm
    rcases List.mem_cons.mp isSeed with rfl | isSeed
    · exact .inr ⟨_, List.mem_cons_self, (reading _).mpr .refl⟩
    · rcases later.cover other isSeed isLlm with seen | ⟨entry, isEntry, member⟩
      · rcases List.mem_append.mp seen with earlier | inCluster
        · exact .inl earlier
        · exact .inr ⟨_, List.mem_cons_self, inCluster⟩
      · exact .inr ⟨entry, List.mem_cons_of_mem _ isEntry, member⟩
  · refine List.forall_mem_cons.mpr ⟨apart, fun entry isEntry other member earlier => ?_⟩
    exact later.unseen entry isEntry member (List.mem_append_left _ earlier)
  · intro entry isEntry other inCluster member
    exact later.unseen entry isEntry member (List.mem_append_right _ inCluster)

/-- **The run over all seeds.** -/
theorem clustersFrom_exact {visited : List String} (closed : ClosedIn edges (nodes.map (·.id)) visited) :
    ∀ {seeds : List String}, (∀ id ∈ seeds, id ∈ nodes.map (·.id)) →
      ClustersOf nodes edges visited seeds (clustersFrom (FlowGraph.of nodes edges) visited seeds) := by
  intro seeds
  induction seeds generalizing visited with
  | nil => exact fun _ => ⟨by simp [clustersFrom], by simp [clustersFrom], by simp [clustersFrom], by simp,
      by simp [clustersFrom], by simp [clustersFrom]⟩
  | cons id rest ih =>
    intro known
    have isKnown := known id List.mem_cons_self
    have restKnown : ∀ id ∈ rest, id ∈ nodes.map (·.id) := fun id isSeed => known id (List.mem_cons_of_mem _ isSeed)
    rw [clustersFrom]
    split
    · next skipped =>
      refine (ih closed restKnown).skip ?_
      rcases Bool.or_eq_true_iff.mp skipped with seen | notLlm
      · exact .inl (of_decide_eq_true seen)
      · refine .inr fun isLlm => ?_
        rw [FlowGraph.isLlm_of.mpr isLlm] at notLlm
        cases notLlm
    · next taken =>
      have ⟨fresh, isLlm⟩ : id ∉ visited ∧ (FlowGraph.of nodes edges).isLlm id = true := by simpa using taken
      have reading : ∀ other, other ∈ (FlowGraph.of nodes edges).cluster id ↔
          Connected edges (nodes.map (·.id)) id other := fun other => FlowGraph.mem_cluster isKnown
      exact ClustersOf.cons closed isKnown (FlowGraph.isLlm_of.mp isLlm) fresh (FlowGraph.nodup_cluster _ id) reading
        (ih (closed.append_cluster reading) restKnown)

/-! ## Workflows -/

/-- **A component that makes a workflow**: its ids in order, three or more, one of a language model. -/
structure MakesWorkflow (nodes : List FlowNode) (edges : List FlowEdge) (ids : List String) : Prop where
  sorted : ids.Pairwise (· < ·)
  isPiece : IsPiece edges (nodes.map (·.id)) ids
  enough : 3 ≤ ids.length
  llm : ∃ id ∈ ids, LastIsLlm nodes id

/-- **The workflows are the components that make one**, each once, and the graph is as it was given. -/
structure Detection.Clusters (nodes : List FlowNode) (edges : List FlowEdge) (found : Detection) : Prop where
  nodes_eq : found.nodes = nodes
  edges_eq : found.edges = edges
  exact : ∀ ids, ids ∈ found.workflows.map (·.nodeIds) ↔ MakesWorkflow nodes edges ids
  once : (found.workflows.map (·.nodeIds)).Nodup

/-- The clusters that become workflows. -/
def largeClusters (nodes : List FlowNode) (edges : List FlowEdge) : List (String × List String) :=
  (clustersFrom (FlowGraph.of nodes edges) [] (FlowGraph.of nodes edges).ids).filter fun (_, cluster) =>
    minCluster ≤ cluster.length

theorem nodeIds_detectByClusters (nodes : List FlowNode) (edges : List FlowEdge) :
    (detectByClusters nodes edges).workflows.map (·.nodeIds) = (largeClusters nodes edges).map (sortedTexts ·.2) := by
  show ((largeClusters nodes edges).zipIdx.map _).map _ = _
  rw [List.map_map]
  calc (largeClusters nodes edges).zipIdx.map _
      = ((largeClusters nodes edges).zipIdx.map Prod.fst).map (sortedTexts ·.2) := by rw [List.map_map]; rfl
    _ = (largeClusters nodes edges).map (sortedTexts ·.2) := by rw [List.zipIdx_map_fst]

/-- **The clusters of three ids or more are the components that make a workflow.** -/
theorem mem_largeClusters {clusters : List (String × List String)}
    (run : ClustersOf nodes edges [] (FlowGraph.of nodes edges).ids clusters) (ids : List String) :
    ids ∈ (clusters.filter fun (_, cluster) => minCluster ≤ cluster.length).map (sortedTexts ·.2) ↔
      MakesWorkflow nodes edges ids := by
  constructor
  · intro made
    obtain ⟨entry, isLarge, rfl⟩ := List.mem_map.mp made
    obtain ⟨isEntry, large⟩ := List.mem_filter.mp isLarge
    obtain ⟨known, isLlm⟩ := run.llm entry isEntry
    refine ⟨sortedTexts_sorted _, ⟨entry.1, known, fun id => mem_sortedTexts.trans (run.reading entry isEntry id)⟩, ?_,
      entry.1, mem_sortedTexts.mpr ((run.reading entry isEntry _).mpr .refl), isLlm⟩
    rw [length_sortedTexts (run.once entry isEntry)]
    exact of_decide_eq_true large
  · rintro ⟨sorted, isPiece, enough, id, member, isLlm⟩
    have isSeed : id ∈ (FlowGraph.of nodes edges).ids := FlowGraph.mem_ids_of.mpr (isPiece.subset id member)
    obtain ⟨entry, isEntry, inEntry⟩ := (run.cover id isSeed isLlm).resolve_left List.not_mem_nil
    have connected := (run.reading entry isEntry id).mp inEntry
    have same : sortedTexts entry.2 = ids := by
      refine eq_of_sorted (sortedTexts_sorted _) sorted fun other => ?_
      rw [mem_sortedTexts, run.reading entry isEntry, isPiece.mem_iff member]
      exact ⟨fun reached => connected.symm.trans reached, fun reached => connected.trans reached⟩
    refine List.mem_map.mpr ⟨entry, List.mem_filter.mpr ⟨isEntry, decide_eq_true ?_⟩, same⟩
    rw [← length_sortedTexts (run.once entry isEntry), same]
    exact enough

/-- Different clusters have different ids. -/
theorem nodup_largeClusters {clusters : List (String × List String)}
    (run : ClustersOf nodes edges [] (FlowGraph.of nodes edges).ids clusters) :
    ((clusters.filter fun (_, cluster) => minCluster ≤ cluster.length).map (sortedTexts ·.2)).Nodup := by
  rw [List.Nodup, List.pairwise_map]
  refine (run.disjoint.filter _).imp_of_mem fun {first second} isFirst _ disjoint same => ?_
  have inFirst := (run.reading first (List.mem_filter.mp isFirst).1 first.1).mpr .refl
  have inSecond : first.1 ∈ sortedTexts second.2 := same ▸ mem_sortedTexts.mpr inFirst
  exact disjoint inFirst (mem_sortedTexts.mp inSecond)

/-- **Detection without hints finds the connected components** of three ids or more that have a language
model node, for every graph that is not too small. -/
theorem detect_clusters (passes : Nat) (nodes : List FlowNode) (edges : List FlowEdge) (enough : 5 ≤ nodes.length) :
    (detect passes nodes edges []).Clusters nodes edges := by
  have found : detect passes nodes edges [] = (detectByClusters nodes edges).ordered := by
    have notSmall : ¬ nodes.length < minNodes := Nat.not_lt.mpr enough
    rw [detect, if_neg notSmall]
    rfl
  have run : ClustersOf nodes edges [] (FlowGraph.of nodes edges).ids _ :=
    clustersFrom_exact (fun _ seen => absurd seen List.not_mem_nil) fun _ => FlowGraph.mem_ids_of.mp
  have order : ((detectByClusters nodes edges).ordered.workflows.map (·.nodeIds)).Perm
      ((largeClusters nodes edges).map (sortedTexts ·.2)) := by
    rw [← nodeIds_detectByClusters]
    exact (List.mergeSort_perm _ _).map _
  rw [found]
  exact ⟨rfl, rfl, fun ids => order.mem_iff.trans (mem_largeClusters run ids),
    order.nodup_iff.mpr (nodup_largeClusters run)⟩

/-- A cycle with two language model nodes, a pair with one, three nodes with none, a second node of an id,
and an edge into the unknown. -/
def mixedNodes : List FlowNode :=
  [{ id := "plan", label := "Plan", kind := .llm none }, { id := "call", label := "Call", kind := .tool },
    { id := "write", label := "Write", kind := .tool }, { id := "sum", label := "Sum", kind := .llm none },
    { id := "log", label := "Log", kind := .tool }, { id := "a", label := "A", kind := .llm none },
    { id := "b", label := "B", kind := .tool }, { id := "c", label := "C", kind := .tool },
    { id := "a", label := "A", kind := .tool }, { id := "write", label := "Write", kind := .llm none }]

def mixedEdges : List FlowEdge :=
  [{ source := "plan", target := "call" }, { source := "call", target := "write" },
    { source := "write", target := "plan" }, { source := "sum", target := "log" }, { source := "log", target := "gone" },
    { source := "gone", target := "plan" }, { source := "b", target := "a" }, { source := "b", target := "c" }]

theorem detect_clusters_mixed : 5 ≤ mixedNodes.length ∧
    (detect standardPasses mixedNodes mixedEdges []).workflows.map (·.nodeIds) = [["call", "plan", "write"]] ∧
    (detect standardPasses mixedNodes mixedEdges []).Clusters mixedNodes mixedEdges :=
  ⟨by decide, by decide +kernel, detect_clusters standardPasses _ _ (by decide)⟩

end WorkflowAtlas
