import WorkflowAtlas.Proofs.Pieces

/-!
# Two searches for what is connected

`cluster` walks from one id over the whole graph, and `pieces` from member to member without leaving the
members. **The law** (`searches_agree`): whatever the members are, known or not, the pieces split the known
ones as paths of edges between them do, each piece in order and the pieces by their smallest ids; and among
all known ids, the piece with an id is the cluster of that id in order.

Unknown members change nothing (`pieces_knownAmong`): the search drops them first, and an edge of theirs is
no edge of the graph.
-/

namespace WorkflowAtlas

variable {nodes : List FlowNode} {edges : List FlowEdge} {members : List String} {id : String}

/-- The members that are known, in the order they are listed. -/
def knownAmong (nodes : List FlowNode) (members : List String) : List String :=
  members.filter (· ∈ nodes.map (·.id))

theorem mem_knownAmong : id ∈ knownAmong nodes members ↔ id ∈ members ∧ id ∈ nodes.map (·.id) := by
  rw [knownAmong, List.mem_filter, decide_eq_true_eq]

/-- **Lists that split the known members as paths do.** A path goes along edges between known members, in
either direction. -/
structure SplitByPaths (nodes : List FlowNode) (edges : List FlowEdge) (members : List String)
    (pieces : List (List String)) : Prop where
  sorted : ∀ piece ∈ pieces, piece.Pairwise (· < ·)
  nonEmpty : ∀ piece ∈ pieces, piece ≠ []
  disjoint : pieces.Pairwise List.Disjoint
  /-- The smallest id of a piece is smaller than all ids of the pieces behind it. -/
  ordered : pieces.Pairwise fun first second =>
    ∃ least ∈ first, (∀ id ∈ first, least ≤ id) ∧ ∀ id ∈ second, least < id
  /-- Together the pieces have the known members and nothing else. -/
  union : ∀ id, (∃ piece ∈ pieces, id ∈ piece) ↔ id ∈ members ∧ id ∈ nodes.map (·.id)
  /-- Known members are in one piece exactly where a path joins them. -/
  joined : ∀ a ∈ knownAmong nodes members, ∀ b,
    (∃ piece ∈ pieces, a ∈ piece ∧ b ∈ piece) ↔ Connected edges (knownAmong nodes members) a b

/-- A list in order starts with its least element. -/
theorem exists_least {piece : List String} (sorted : piece.Pairwise (· < ·)) (nonEmpty : piece ≠ []) :
    ∃ least ∈ piece, ∀ id ∈ piece, least ≤ id := by
  obtain ⟨first, rest, rfl⟩ := List.exists_cons_of_ne_nil nonEmpty
  refine ⟨first, List.mem_cons_self, List.forall_mem_cons.mpr ⟨String.le_refl first, fun id later => ?_⟩⟩
  exact String.not_lt.mp (String.lt_asymm ((List.pairwise_cons.mp sorted).1 id later))

namespace FlowGraph

/-- Members that are unknown make no difference to the pieces. -/
theorem pieces_knownAmong :
    (FlowGraph.of nodes edges).pieces (knownAmong nodes members) = (FlowGraph.of nodes edges).pieces members := by
  have known : (knownAmong nodes members).filter (FlowGraph.of nodes edges).contains =
      members.filter (FlowGraph.of nodes edges).contains := by
    rw [knownAmong, List.filter_filter]
    refine List.filter_congr fun id _ => Bool.and_eq_left_iff_imp.mpr fun isKnown => ?_
    exact decide_eq_true (contains_of.mp isKnown)
  rw [pieces, pieces, known]

theorem pieces_areConnected : ArePieces edges (knownAmong nodes members) ((FlowGraph.of nodes edges).pieces members) := by
  rw [← pieces_knownAmong]
  exact pieces_exact fun id member => (mem_knownAmong.mp member).2

/-- **The pieces split the known members as paths do.** -/
theorem pieces_splitByPaths :
    SplitByPaths nodes edges members ((FlowGraph.of nodes edges).pieces members) := by
  have run : ArePieces edges (knownAmong nodes members) ((FlowGraph.of nodes edges).pieces members) :=
    pieces_areConnected
  refine ⟨run.sorted, fun piece => run.ne_nil, run.disjoint, ?_, fun id => ⟨?_, ?_⟩, fun a member b => ⟨?_, ?_⟩⟩
  · refine run.ordered.imp_of_mem fun {first second} isFirst _ ⟨low, inFirst, below⟩ => ?_
    obtain ⟨least, isLeast, bound⟩ := exists_least (run.sorted first isFirst) (run.ne_nil isFirst)
    exact ⟨least, isLeast, bound, fun id inSecond => Std.lt_of_le_of_lt (bound low inFirst) (below id inSecond)⟩
  · rintro ⟨piece, isPiece, inPiece⟩
    exact mem_knownAmong.mp (IsPiece.subset (run.isPiece piece isPiece) id inPiece)
  · intro isKnown
    exact run.cover id (mem_knownAmong.mpr isKnown)
  · rintro ⟨piece, isPiece, inA, inB⟩
    exact (IsPiece.mem_iff (run.isPiece piece isPiece) inA).mp inB
  · intro connected
    obtain ⟨piece, isPiece, inA⟩ := run.cover a member
    exact ⟨piece, isPiece, inA, (IsPiece.mem_iff (run.isPiece piece isPiece) inA).mpr connected⟩

/-- **The two searches agree**, and both find exactly what paths join: the pieces of any members split the
known ones as paths do, and among all known ids the piece with an id lists the cluster of that id. -/
theorem searches_agree (nodes : List FlowNode) (edges : List FlowEdge) (members : List String) :
    SplitByPaths nodes edges members ((FlowGraph.of nodes edges).pieces members) ∧
      ((∀ id, id ∈ members ↔ id ∈ nodes.map (·.id)) → ∀ id ∈ nodes.map (·.id),
        ∃ piece ∈ (FlowGraph.of nodes edges).pieces members, id ∈ piece ∧
          piece.Perm ((FlowGraph.of nodes edges).cluster id)) := by
  refine ⟨pieces_splitByPaths, fun all id known => ?_⟩
  have run : ArePieces edges (knownAmong nodes members) ((FlowGraph.of nodes edges).pieces members) :=
    pieces_areConnected
  have same : ∀ id, id ∈ knownAmong nodes members ↔ id ∈ nodes.map (·.id) := fun id => by
    rw [mem_knownAmong, all, and_self]
  obtain ⟨piece, isPiece, inPiece⟩ := run.cover id ((same id).mpr known)
  have reading : ∀ other, other ∈ piece ↔ other ∈ (FlowGraph.of nodes edges).cluster id := by
    intro other
    rw [mem_cluster known, ← connected_congr same]
    exact IsPiece.mem_iff (run.isPiece piece isPiece) inPiece
  have once : piece.Nodup := nodup_of_sorted (run.sorted piece isPiece)
  exact ⟨piece, isPiece, inPiece, (List.perm_ext_iff_of_nodup once (nodup_cluster _ id)).mpr reading⟩

/-- A cycle, an id that calls itself, and two ids that only an unknown one lies between. -/
def ringNodes : List FlowNode :=
  ["write", "plan", "call", "log", "plan", "sum"].map fun id => { id, label := id, kind := .tool }

def ringEdges : List FlowEdge :=
  [{ source := "plan", target := "call" }, { source := "call", target := "write" }, { source := "write", target := "plan" },
    { source := "log", target := "log" }, { source := "log", target := "gone" }, { source := "gone", target := "sum" }]

theorem searches_agree_ring :
    (FlowGraph.of ringNodes ringEdges).pieces ["sum", "plan", "log", "write", "call"] =
        [["call", "plan", "write"], ["log"], ["sum"]] ∧
      (FlowGraph.of ringNodes ringEdges).pieces ["write", "gone", "sum", "plan"] = [["plan", "write"], ["sum"]] ∧
      ∃ piece ∈ (FlowGraph.of ringNodes ringEdges).pieces ["sum", "plan", "log", "write", "call"], "plan" ∈ piece ∧
        piece.Perm ((FlowGraph.of ringNodes ringEdges).cluster "plan") :=
  ⟨by decide +kernel, by decide +kernel,
    (searches_agree ringNodes ringEdges _).2 (by simp [ringNodes]; grind) "plan" (by decide)⟩

end FlowGraph

end WorkflowAtlas
