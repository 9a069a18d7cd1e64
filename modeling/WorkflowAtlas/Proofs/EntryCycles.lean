import Mathlib.Data.List.Cycle
import Mathlib.Data.String.Basic
import WorkflowAtlas.Proofs.SearchAgreement
import WorkflowAtlas.Proofs.Splitting

/-!
# A piece without entries has a cycle

**The law** (`entries_or_cycle`): where every member of a piece is called by another member, the edges
between members make a cycle of two members or more. So the title over a piece points to an arbitrary
member only where the piece has such a cycle, and to its entries everywhere else.

The cycle is found by walking backwards. Each member has another member before it, so a path of different
members either goes on at its front, or comes back to one of its own and closes; it cannot go on for
longer than there are members (`exists_cycle_of_path`).
-/

namespace WorkflowAtlas

variable {nodes : List FlowNode} {edges : List FlowEdge} {piece : List String}

/-! ## Walking backwards -/

section Walk

variable {α : Type} {step : α → α → Prop} {places : List α}

/-- A path that comes back from its first place to one behind it closes there. -/
theorem cycle_of_return {first back : α} {rest : List α} (once : (first :: rest).Nodup)
    (path : List.IsChain step (first :: rest)) (isBack : back ∈ rest) (returns : step back first) :
    ∃ cycle : Cycle α, cycle.Nodup ∧ cycle.Nontrivial ∧ cycle.Chain step := by
  obtain ⟨front, behind, rfl⟩ := List.append_of_mem isBack
  have upTo : List.IsChain step (first :: (front ++ [back])) := by
    rw [← List.cons_append] at path ⊢
    exact (List.isChain_split.mp path).1
  have onceUpTo : (first :: (front ++ [back])).Nodup := by
    refine once.sublist (List.Sublist.cons_cons first ?_)
    exact List.Sublist.append_left (List.singleton_sublist.mpr List.mem_cons_self) front
  refine ⟨(first :: (front ++ [back]) : List α), Cycle.nodup_coe_iff.mpr onceUpTo,
    (Cycle.nontrivial_coe_nodup_iff onceUpTo).mpr (by simp), (Cycle.chain_coe_cons _ _ _).mpr ?_⟩
  rw [List.append_assoc, List.singleton_append, ← List.cons_append]
  rw [← List.cons_append] at upTo
  exact List.isChain_split.mpr ⟨upTo, List.isChain_pair.mpr returns⟩

/-- **A path among finitely many places closes**, where each place has another before it. -/
theorem exists_cycle_of_path (before : ∀ b ∈ places, ∃ a ∈ places, a ≠ b ∧ step a b) (room : Nat) {first : α}
    {rest : List α} (once : (first :: rest).Nodup) (path : List.IsChain step (first :: rest))
    (within : first :: rest ⊆ places) (bound : places.length ≤ rest.length + room) :
    ∃ cycle : Cycle α, cycle.Nodup ∧ cycle.Nontrivial ∧ cycle.Chain step := by
  induction room generalizing first rest with
  | zero =>
    -- different places are no more than there are
    have fits : (first :: rest).length ≤ places.length := (once.subperm within).length_le
    rw [List.length_cons] at fits
    omega
  | succ room ih =>
    obtain ⟨previous, isPlace, differs, isStep⟩ := before first (within List.mem_cons_self)
    by_cases isBack : previous ∈ rest
    · exact cycle_of_return once path isBack isStep
    · have fresh : previous ∉ first :: rest := by simp [differs, isBack]
      refine ih (List.nodup_cons.mpr ⟨fresh, once⟩) (List.isChain_cons_cons.mpr ⟨isStep, path⟩) ?_ ?_
      · exact List.cons_subset.mpr ⟨isPlace, within⟩
      · rw [List.length_cons]
        omega

end Walk

/-! ## Pieces -/

/-- An edge between two members, which may be the same. -/
def CallsWithin (edges : List FlowEdge) (piece : List String) (caller callee : String) : Prop :=
  caller ∈ piece ∧ callee ∈ piece ∧ ∃ edge ∈ edges, edge.source = caller ∧ edge.target = callee

/-- **A piece with a cycle**: two members or more, each of them once, such that an edge goes from each to
the next and from the last to the first. -/
def HasCycle (edges : List FlowEdge) (piece : List String) : Prop :=
  ∃ cycle : Cycle String, cycle.Nodup ∧ cycle.Nontrivial ∧ cycle.Chain (CallsWithin edges piece)

/-- A member that is no entry is called by another one. -/
theorem exists_caller {id : String} (member : id ∈ piece) (noEntry : ¬ IsEntry edges piece id) :
    ∃ caller ∈ piece, caller ≠ id ∧ CallsWithin edges piece caller id := by
  simp only [IsEntry, not_and, not_forall] at noEntry
  obtain ⟨edge, isEdge, isTarget, isMember, differs⟩ := noEntry member
  exact ⟨edge.source, isMember, differs, isMember, member, edge, isEdge, rfl, isTarget⟩

/-- **A piece without entries has a cycle.** -/
theorem hasCycle_of_no_entries (nonEmpty : piece ≠ []) (known : ∀ id ∈ piece, id ∈ nodes.map (·.id))
    (noEntries : (FlowGraph.of nodes edges).entries piece = []) : HasCycle edges piece := by
  have before : ∀ id ∈ piece, ∃ caller ∈ piece, caller ≠ id ∧ CallsWithin edges piece caller id := by
    intro id member
    refine exists_caller member fun isEntry => ?_
    have isListed := (mem_entries known).mpr isEntry
    rw [noEntries] at isListed
    exact List.not_mem_nil isListed
  obtain ⟨start, isMember⟩ := List.exists_mem_of_ne_nil piece nonEmpty
  exact exists_cycle_of_path before piece.length (List.nodup_singleton start) (List.isChain_singleton start)
    (by simpa using isMember) (Nat.le_add_left _ _)

/-- The pieces of the groups that hints make are not empty and have known members. -/
theorem known_of_mem_pieces_hintGroups {passes : Nat} {hints : List WorkflowHint} {group : HintGroup}
    (isGroup : group ∈ hintGroups (FlowGraph.of nodes edges) edges passes hints) (isPiece : piece ∈ group.pieces) :
    piece ≠ [] ∧ ∀ id ∈ piece, id ∈ nodes.map (·.id) := by
  have apart := hintGroups_apart (FlowGraph.of nodes edges) edges passes hints
  have known : ∀ id ∈ group.members, id ∈ nodes.map (·.id) := fun id member =>
    FlowGraph.contains_of.mp (apart.known group isGroup id member)
  rw [(hintGroup_made isGroup).2] at isPiece
  exact ⟨(FlowGraph.pieces_exact known).ne_nil isPiece, fun id member =>
    known id (FlowGraph.mem_of_mem_pieces isPiece id member)⟩

/-- **Entries are missing only on cycles**: known ids without an entry among them, of which there is one at
least, have a cycle; and in detection along hints, the title over a piece without a cycle points to entries
of the piece, of which there are some. -/
theorem entries_or_cycle (nodes : List FlowNode) (edges : List FlowEdge) :
    (∀ piece : List String, piece ≠ [] → (∀ id ∈ piece, id ∈ nodes.map (·.id)) →
      (FlowGraph.of nodes edges).entries piece = [] → HasCycle edges piece) ∧
    ∀ (passes : Nat) (hints : List WorkflowHint),
      ∀ group ∈ hintGroups (FlowGraph.of nodes edges) edges passes hints, ∀ piece ∈ group.pieces,
        ¬ HasCycle edges piece →
          (FlowGraph.of nodes edges).entries piece ≠ [] ∧
            HintGroup.heads (FlowGraph.of nodes edges) piece = (FlowGraph.of nodes edges).entries piece := by
  refine ⟨fun piece nonEmpty known => hasCycle_of_no_entries nonEmpty known, ?_⟩
  intro passes hints group isGroup piece isPiece noCycle
  obtain ⟨nonEmpty, known⟩ := known_of_mem_pieces_hintGroups isGroup isPiece
  have someEntries : (FlowGraph.of nodes edges).entries piece ≠ [] := fun noEntries =>
    noCycle (hasCycle_of_no_entries nonEmpty known noEntries)
  refine ⟨someEntries, ?_⟩
  unfold HintGroup.heads
  split
  · next noEntries => exact absurd noEntries someEntries
  · rfl

/-- In the planner's first piece all edges go to a smaller id. -/
theorem sample_acyclic : ¬ HasCycle sampleEdges ["call", "plan"] := by
  rintro ⟨cycle, _, ⟨a, b, differ, isA, isB⟩, chain⟩
  have falls : ∀ a b, CallsWithin sampleEdges ["call", "plan"] a b → a ≥ b := by
    rintro a b ⟨_, isMember, edge, isEdge, rfl, rfl⟩
    have falling : ∀ edge ∈ sampleEdges, edge.target ∈ ["call", "plan"] → edge.source ≥ edge.target := by decide
    exact falling edge isEdge isMember
  exact differ (Cycle.forall_eq_of_chain (chain.imp falls) isA isB)

theorem entries_or_cycle_sample :
    HasCycle FlowGraph.ringEdges ["call", "plan", "write"] ∧
      ∃ group ∈ hintGroups (FlowGraph.of sampleNodes sampleEdges) sampleEdges standardPasses sampleHints,
        ["call", "plan"] ∈ group.pieces ∧
          HintGroup.heads (FlowGraph.of sampleNodes sampleEdges) ["call", "plan"] =
            (FlowGraph.of sampleNodes sampleEdges).entries ["call", "plan"] := by
  have isThere : ∃ group ∈ hintGroups (FlowGraph.of sampleNodes sampleEdges) sampleEdges standardPasses sampleHints,
      ["call", "plan"] ∈ group.pieces := by decide +kernel
  obtain ⟨group, isGroup, isPiece⟩ := isThere
  refine ⟨(entries_or_cycle FlowGraph.ringNodes FlowGraph.ringEdges).1 _ (by decide) (by decide) (by decide +kernel),
    group, isGroup, isPiece, ?_⟩
  exact ((entries_or_cycle sampleNodes sampleEdges).2 standardPasses sampleHints group isGroup _ isPiece sample_acyclic).2

end WorkflowAtlas
