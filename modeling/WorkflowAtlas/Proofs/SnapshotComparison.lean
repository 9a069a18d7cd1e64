import WorkflowAtlas.Proofs.Comparison

/-!
# Comparing snapshots

The laws of `Proofs.Comparison` for the three kinds of items of a snapshot. Nodes are alike when all but
their ids is the same, edges by label and flag, workflows by name, description and the nodes they list,
in any order. So for all snapshots, whatever ids they repeat:

* the changes one way **mirror** those the other way, and a snapshot has no changes against itself
  (`between_mirrors`);
* the changes **rebuild** the new snapshot from the old one: nodes whole, edges and workflows as far as they
  are compared (`between_rebuilds`).

An edge is known by the text `source->target`, and where an id holds an arrow two edges with different ends
can have one text. Then a change of ends is not seen, or an order of edges is taken for a change
(`arrows_confused`). **Where keys tell ends**, the edges of two snapshots show no change exactly if they are
the same (`edges_isEmpty_iff`), and keys tell ends where no source holds an arrow (`keysTellEnds_of_noArrow`).
-/

namespace WorkflowAtlas

/-! ## Items alike -/

/-- Nodes that differ in their ids at most. -/
def FlowNode.Alike (a b : FlowNode) : Prop :=
  { a with id := b.id } = b

/-- Edges with the same label and flag. -/
def FlowEdge.Alike (a b : FlowEdge) : Prop :=
  a.label = b.label ∧ a.isCriticalPath = b.isCriticalPath

/-- Workflows with the same name and description that list the same nodes equally often. -/
def Workflow.Alike (a b : Workflow) : Prop :=
  a.name = b.name ∧ a.description = b.description ∧ a.nodeIds.Perm b.nodeIds

theorem FlowNode.decides : Decides FlowNode.differs FlowNode.Alike where
  refl := fun _ => rfl
  symm := by
    intro a b same
    unfold FlowNode.Alike at same ⊢
    rw [← same]
  exact := by
    intro a b
    cases a
    cases b
    simp only [FlowNode.differs, FlowNode.Alike, Bool.or_eq_false_iff, bne_eq_false_iff_eq, FlowNode.mk.injEq, true_and]
    tauto

theorem FlowEdge.decides : Decides FlowEdge.differs FlowEdge.Alike where
  refl := fun _ => ⟨rfl, rfl⟩
  symm := fun same => ⟨same.1.symm, same.2.symm⟩
  exact := by
    intro a b
    simp [FlowEdge.differs, FlowEdge.Alike]

theorem sortedNodeIds_eq_iff {a b : Workflow} : a.sortedNodeIds = b.sortedNodeIds ↔ a.nodeIds.Perm b.nodeIds := by
  have permutes : ∀ w : Workflow, w.sortedNodeIds.Perm w.nodeIds := fun w => List.mergeSort_perm _ _
  have ordered : ∀ w : Workflow, w.sortedNodeIds.Pairwise (· ≤ ·) := by
    intro w
    refine (List.pairwise_mergeSort ?_ ?_ w.nodeIds).imp ?_
    · intro a b c
      simpa using String.le_trans
    · intro a b
      simpa using String.le_total a b
    · intro a b before
      exact of_decide_eq_true before
  constructor
  · intro same
    exact (permutes a).symm.trans (same ▸ permutes b)
  · intro same
    refine List.Perm.eq_of_pairwise (fun _ _ _ _ => String.le_antisymm) (ordered a) (ordered b) ?_
    exact (permutes a).trans (same.trans (permutes b).symm)

theorem Workflow.decides : Decides Workflow.differs Workflow.Alike where
  refl := fun _ => ⟨rfl, rfl, .refl _⟩
  symm := fun same => ⟨same.1.symm, same.2.1.symm, same.2.2.symm⟩
  exact := by
    intro a b
    simp [Workflow.differs, Workflow.Alike, sortedNodeIds_eq_iff, and_assoc]

namespace SnapshotChanges

/-! ## There and back -/

/-- **Changes that mirror each other.** -/
structure Mirrors (forward backward : SnapshotChanges) : Prop where
  added : forward.addedIds = backward.removedIds
  nodes : forward.nodes.updated.map FlowNode.id = backward.nodes.updated.map FlowNode.id
  edges : forward.edges.updated.map FlowEdge.key = backward.edges.updated.map FlowEdge.key
  workflows : forward.workflows.updated.map Workflow.id = backward.workflows.updated.map Workflow.id
  /-- There are changes one way exactly if there are the other way. -/
  isEmpty : forward.isEmpty = backward.isEmpty

/-- **The changes one way mirror those the other way**, and a snapshot has none against itself. -/
theorem between_mirrors (old new : Snapshot) :
    (between old new).Mirrors (between new old) ∧ (between old old).isEmpty = true := by
  refine ⟨⟨?_, ?_, ?_, ?_, ?_⟩, ?_⟩
  · simp only [addedIds, removedIds, between, ChangeSet.keys_added_swap]
  · exact ChangeSet.keys_updated_swap FlowNode.decides FlowNode.id old.nodes new.nodes
  · exact ChangeSet.keys_updated_swap FlowEdge.decides FlowEdge.key old.edges new.edges
  · exact ChangeSet.keys_updated_swap Workflow.decides Workflow.id old.workflows new.workflows
  · simp only [isEmpty, between]
    rw [ChangeSet.isEmpty_swap FlowNode.decides, ChangeSet.isEmpty_swap FlowEdge.decides,
      ChangeSet.isEmpty_swap Workflow.decides]
  · simp only [isEmpty, between]
    rw [ChangeSet.isEmpty_self FlowNode.decides, ChangeSet.isEmpty_self FlowEdge.decides,
      ChangeSet.isEmpty_self Workflow.decides]
    rfl

/-! ## From old to new -/

/-- **The changes rebuild the new snapshot from the old one.** -/
theorem between_rebuilds (old new : Snapshot) :
    (between old new).nodes.Patches FlowNode.id Eq old.nodes new.nodes ∧
    (between old new).edges.Patches FlowEdge.key FlowEdge.Alike old.edges new.edges ∧
    (between old new).workflows.Patches Workflow.id Workflow.Alike old.workflows new.workflows := by
  have whole : ∀ {a b : FlowNode}, a.id = b.id → a.Alike b → a = b := by
    intro a b sameId isAlike
    rw [← isAlike, ← sameId]
  exact ⟨ChangeSet.between_patches FlowNode.decides whole old.nodes new.nodes,
    ChangeSet.between_patches FlowEdge.decides (fun _ isAlike => isAlike) old.edges new.edges,
    ChangeSet.between_patches Workflow.decides (fun _ isAlike => isAlike) old.workflows new.workflows⟩

end SnapshotChanges

/-! ## Keys and ends -/

/-- The two ends of an edge. -/
def FlowEdge.ends (edge : FlowEdge) : String × String :=
  (edge.source, edge.target)

/-- **Keys tell ends**: of the edges listed, those of one key have the same ends. -/
def KeysTellEnds (edges : List FlowEdge) : Prop :=
  ∀ a ∈ edges, ∀ b ∈ edges, a.key = b.key → a.ends = b.ends

/-- Where the first of two texts holds no arrow, an arrow between them can be found again. -/
theorem append_arrow_inj {a b c d : List Char} (plainLeft : ¬ ['-', '>'] <:+: a) (plainRight : ¬ ['-', '>'] <:+: b)
    (same : a ++ '-' :: '>' :: c = b ++ '-' :: '>' :: d) : a = b ∧ c = d := by
  -- where one text is longer, it goes on over the arrow behind the other
  have noLonger : ∀ {front extra after before : List Char}, ¬ ['-', '>'] <:+: front ++ extra →
      '-' :: '>' :: after = extra ++ '-' :: '>' :: before → extra = [] := by
    intro front extra after before plain meets
    cases extra with
    | nil => rfl
    | cons first rest =>
      cases rest with
      | nil => simp at meets
      | cons second rest =>
        simp only [List.cons_append, List.cons.injEq] at meets
        obtain ⟨rfl, rfl, _⟩ := meets
        exact absurd ⟨front, rest, by simp⟩ plain
  rcases List.append_eq_append_iff.mp same with ⟨extra, rfl, meets⟩ | ⟨extra, rfl, meets⟩
  · obtain rfl := noLonger plainRight meets
    simpa using meets
  · obtain rfl := noLonger plainLeft meets
    simpa using meets.symm

/-- **Keys tell ends where no source holds an arrow.** -/
theorem keysTellEnds_of_noArrow {edges : List FlowEdge}
    (plain : ∀ edge ∈ edges, ¬ ['-', '>'] <:+: edge.source.toList) : KeysTellEnds edges := by
  intro a isFirst b isSecond same
  have texts : a.source.toList ++ '-' :: '>' :: a.target.toList = b.source.toList ++ '-' :: '>' :: b.target.toList := by
    simpa [FlowEdge.key] using congrArg String.toList same
  obtain ⟨sources, targets⟩ := append_arrow_inj (plain a isFirst) (plain b isSecond) texts
  rw [FlowEdge.ends, FlowEdge.ends, String.toList_inj.mp sources, String.toList_inj.mp targets]

theorem KeysTellEnds.subset {edges part : List FlowEdge} (told : KeysTellEnds edges) (within : part ⊆ edges) :
    KeysTellEnds part :=
  fun a isFirst b isSecond => told a (within isFirst) b (within isSecond)

theorem KeysTellEnds.nodup_keys {edges : List FlowEdge} (told : KeysTellEnds edges)
    (once : (edges.map FlowEdge.ends).Nodup) : (edges.map FlowEdge.key).Nodup := by
  rw [List.Nodup, List.pairwise_map] at once ⊢
  exact once.imp_of_mem fun isFirst isSecond apart same => apart (told _ isFirst _ isSecond same)

theorem FlowEdge.eq_of_alike {a b : FlowEdge} (ends : a.ends = b.ends) (isAlike : a.Alike b) : a = b := by
  obtain ⟨sources, targets⟩ := Prod.mk.inj ends
  obtain ⟨labels, flags⟩ := isAlike
  cases a
  cases b
  simp_all

/-- An edge whose key finds an edge alike among others is one of them. -/
theorem KeysTellEnds.mem_of_rel {first second : List FlowEdge} (told : KeysTellEnds (first ++ second))
    (once : (first.map FlowEdge.key).Nodup)
    (same : ∀ id, Option.Rel FlowEdge.Alike (lastWith FlowEdge.key first id) (lastWith FlowEdge.key second id))
    {edge : FlowEdge} (isFirst : edge ∈ first) : edge ∈ second := by
  have both := same edge.key
  rw [(lastWith_eq_some_iff once).mpr ⟨isFirst, rfl⟩] at both
  cases found : lastWith FlowEdge.key second edge.key with
  | none => rw [found] at both; cases both
  | some other =>
    rw [found] at both
    obtain ⟨isAlike⟩ := both
    have isSecond := mem_of_lastWith found
    have sameEnds := told edge (List.mem_append_left _ isFirst) other (List.mem_append_right _ isSecond)
      (key_of_lastWith found).symm
    rw [FlowEdge.eq_of_alike sameEnds isAlike]
    exact isSecond

namespace SnapshotChanges

/-- **Where keys tell ends, edges show no change exactly if they are the same.** -/
theorem edges_isEmpty_iff {old new : Snapshot} (onceOld : (old.edges.map FlowEdge.ends).Nodup)
    (onceNew : (new.edges.map FlowEdge.ends).Nodup) (told : KeysTellEnds (old.edges ++ new.edges)) :
    (between old new).edges.isEmpty = true ↔ ∀ edge, edge ∈ old.edges ↔ edge ∈ new.edges := by
  have keysOld := (told.subset (List.subset_append_left _ _)).nodup_keys onceOld
  have keysNew := (told.subset (List.subset_append_right _ _)).nodup_keys onceNew
  have toldBack : KeysTellEnds (new.edges ++ old.edges) := told.subset List.perm_append_comm.subset
  simp only [between]
  constructor
  · intro noChange edge
    have noChangeBack := noChange
    rw [ChangeSet.isEmpty_swap FlowEdge.decides] at noChangeBack
    exact ⟨told.mem_of_rel keysOld ((ChangeSet.isEmpty_iff FlowEdge.decides).mp noChange),
      toldBack.mem_of_rel keysNew ((ChangeSet.isEmpty_iff FlowEdge.decides).mp noChangeBack)⟩
  · intro same
    refine (ChangeSet.isEmpty_iff FlowEdge.decides).mpr fun id => ?_
    have found : lastWith FlowEdge.key old.edges id = lastWith FlowEdge.key new.edges id := by
      ext edge
      rw [lastWith_eq_some_iff keysOld, lastWith_eq_some_iff keysNew, same edge]
    rw [found]
    exact FlowEdge.decides.rel_refl _

/-- Edges that are listed the other way round, one of them to an id with an arrow. -/
def listedOnce : Snapshot where
  edges := [{ source := "plan", target := "search->web", label := some "calls" }, { source := "search", target := "plan" }]

def listedAgain : Snapshot where
  edges := [{ source := "search", target := "plan" }, { source := "plan", target := "search->web", label := some "calls" }]

theorem edges_isEmpty_listedAgain :
    (listedOnce.edges.map FlowEdge.ends).Nodup ∧ (listedAgain.edges.map FlowEdge.ends).Nodup ∧
    KeysTellEnds (listedOnce.edges ++ listedAgain.edges) ∧ (between listedOnce listedAgain).edges.isEmpty = true := by
  have onceOld : (listedOnce.edges.map FlowEdge.ends).Nodup := by decide
  have onceNew : (listedAgain.edges.map FlowEdge.ends).Nodup := by decide
  have told : KeysTellEnds (listedOnce.edges ++ listedAgain.edges) := keysTellEnds_of_noArrow (by decide +kernel)
  refine ⟨onceOld, onceNew, told, (edges_isEmpty_iff onceOld onceNew told).mpr ?_⟩
  intro edge
  simp [listedOnce, listedAgain, or_comm]

/-- Two edges with one key and different ends. -/
def arrowInSource : FlowEdge where
  source := "a->b"
  target := "c"

def arrowInTarget : FlowEdge where
  source := "a"
  target := "b->c"
  label := some "calls"

/-- **Where an id holds an arrow, keys may not tell ends**: a change of ends is not seen, and edges that are
only listed in another order are taken for changed. -/
theorem arrows_confused :
    (∃ old new : Snapshot, (old.edges.map FlowEdge.ends).Nodup ∧ (new.edges.map FlowEdge.ends).Nodup ∧
      (between old new).edges.isEmpty = true ∧ ∃ edge ∈ old.edges, edge ∉ new.edges) ∧
    (∃ old new : Snapshot, (old.edges.map FlowEdge.ends).Nodup ∧ (new.edges.map FlowEdge.ends).Nodup ∧
      (between old new).edges.isEmpty = false ∧ ∀ edge, edge ∈ old.edges ↔ edge ∈ new.edges) := by
  constructor
  · exact ⟨{ edges := [arrowInSource] }, { edges := [{ arrowInTarget with label := none }] },
      by decide, by decide, by decide +kernel, by decide⟩
  · refine ⟨{ edges := [arrowInSource, arrowInTarget] }, { edges := [arrowInTarget, arrowInSource] },
      by decide, by decide, by decide +kernel, ?_⟩
    intro edge
    simp [or_comm]

end SnapshotChanges

end WorkflowAtlas
