import Mathlib.Logic.Relation
import WorkflowAtlas.Proofs.Connectivity

/-!
# Connected pieces

What `cluster` and `pieces` find, against a relation that no search is part of: ids are **connected**
among some members when a path of edges joins them that never leaves the members, the direction of
edges set aside.

- `mem_cluster`: the cluster of a known id is what is connected with it among the known ids.
- `pieces_exact`: the pieces of known members are the classes of connected members, each in order, and
  the piece with the smaller least id comes first.

A piece is taken off the members that are left, and what is left stays closed under connection: that is
the invariant of the run (`ClosedIn`).
-/

namespace WorkflowAtlas

variable {nodes : List FlowNode} {edges : List FlowEdge} {members : List String} {a b c : String}

/-! ## Paths -/

/-- Two members that an edge joins, in either direction. -/
def Adjacent (edges : List FlowEdge) (members : List String) (a b : String) : Prop :=
  a ∈ members ∧ b ∈ members ∧
    ∃ edge ∈ edges, (edge.source = a ∧ edge.target = b) ∨ (edge.source = b ∧ edge.target = a)

/-- **Connected among members**: a path of edges joins them that never leaves the members. -/
def Connected (edges : List FlowEdge) (members : List String) : String → String → Prop :=
  Relation.ReflTransGen (Adjacent edges members)

/-- **A connected piece of members**: all that is connected with one of them. -/
def IsPiece (edges : List FlowEdge) (members piece : List String) : Prop :=
  ∃ id ∈ members, ∀ other, other ∈ piece ↔ Connected edges members id other

theorem Adjacent.symm (adjacent : Adjacent edges members a b) : Adjacent edges members b a := by
  obtain ⟨inA, inB, edge, isEdge, ends⟩ := adjacent
  exact ⟨inB, inA, edge, isEdge, ends.symm⟩

theorem Connected.symm (connected : Connected edges members a b) : Connected edges members b a := by
  induction connected with
  | refl => exact .refl
  | tail _ last ih => exact .head last.symm ih

theorem Connected.mem (connected : Connected edges members a b) (start : a ∈ members) : b ∈ members := by
  cases connected with
  | refl => exact start
  | tail _ last => exact last.2.1

/-- Connection depends on which the members are, and not on how they are listed. -/
theorem connected_congr {others : List String} (same : ∀ id, id ∈ members ↔ id ∈ others) :
    Connected edges members = Connected edges others := by
  have adjacent : Adjacent edges members = Adjacent edges others := by
    funext a b
    simp only [Adjacent, same]
  rw [Connected, Connected, adjacent]

/-- A piece is that of each of its members. -/
theorem IsPiece.mem_iff {piece : List String} (isPiece : IsPiece edges members piece) (member : a ∈ piece) :
    b ∈ piece ↔ Connected edges members a b := by
  obtain ⟨id, _, reading⟩ := isPiece
  have toA := (reading a).mp member
  rw [reading]
  exact ⟨fun toB => toA.symm.trans toB, fun fromA => toA.trans fromA⟩

theorem IsPiece.subset {piece : List String} (isPiece : IsPiece edges members piece) : ∀ id ∈ piece, id ∈ members := by
  obtain ⟨root, isMember, reading⟩ := isPiece
  intro id member
  exact ((reading id).mp member).mem isMember

/-- A search along neighbours follows paths, where neighbours are steps, as long as it stays
where `p` holds. -/
theorem reaches_iff_path {α : Type} {next : α → List α} {step : α → α → Prop} {p : α → Prop}
    (steps : ∀ a b, p a → (b ∈ next a ↔ step a b)) (stays : ∀ a b, step a b → p b) {a b : α} (start : p a) :
    Reaches next a b ↔ Relation.ReflTransGen step a b := by
  constructor
  · intro reached
    induction reached with
    | refl a => exact .refl
    | step first _ ih =>
      have isStep := (steps _ _ start).mp first
      exact .head isStep (ih (stays _ _ isStep))
  · intro path
    induction path using Relation.ReflTransGen.head_induction_on with
    | refl => exact .refl b
    | head isStep _ ih => exact .step ((steps _ _ start).mpr isStep) (ih (stays _ _ isStep))

/-! ## Neighbours -/

namespace FlowGraph

theorem mem_ids_of {id : String} : id ∈ (FlowGraph.of nodes edges).ids ↔ id ∈ nodes.map (·.id) := by
  simp [FlowGraph.of]

theorem contains_of {id : String} : (FlowGraph.of nodes edges).contains id = true ↔ id ∈ nodes.map (·.id) := by
  rw [contains, decide_eq_true_eq, mem_ids_of]

/-- The pairs of a graph are the ends of edges between known ids. -/
theorem mem_pairs_of : (a, b) ∈ (FlowGraph.of nodes edges).pairs ↔
    a ∈ nodes.map (·.id) ∧ b ∈ nodes.map (·.id) ∧ ∃ edge ∈ edges, edge.source = a ∧ edge.target = b := by
  simp only [FlowGraph.of, List.mem_eraseDups, List.mem_map, List.mem_filter, Bool.and_eq_true, decide_eq_true_eq,
    Prod.mk.injEq]
  constructor
  · rintro ⟨edge, ⟨isEdge, source, target⟩, rfl, rfl⟩
    exact ⟨source, target, edge, isEdge, rfl, rfl⟩
  · rintro ⟨source, target, edge, isEdge, rfl, rfl⟩
    exact ⟨edge, ⟨isEdge, source, target⟩, rfl, rfl⟩

theorem mem_neighbours {graph : FlowGraph} : b ∈ graph.neighbours a ↔ (a, b) ∈ graph.pairs ∨ (b, a) ∈ graph.pairs := by
  unfold neighbours
  rw [List.mem_filterMap]
  constructor
  · rintro ⟨⟨source, target⟩, isPair, found⟩
    simp only at found
    split at found
    · next same =>
      obtain rfl := Option.some.inj found
      exact .inl (same ▸ isPair)
    · split at found
      · next same =>
        obtain rfl := Option.some.inj found
        exact .inr (same ▸ isPair)
      · cases found
  · rintro (isPair | isPair)
    · exact ⟨(a, b), isPair, by simp⟩
    · refine ⟨(b, a), isPair, ?_⟩
      by_cases same : b = a
      · simp [same]
      · simp [same]

theorem mem_neighbours_of : b ∈ (FlowGraph.of nodes edges).neighbours a ↔ Adjacent edges (nodes.map (·.id)) a b := by
  rw [mem_neighbours, mem_pairs_of, mem_pairs_of]
  constructor
  · rintro (⟨inA, inB, edge, isEdge, ends⟩ | ⟨inB, inA, edge, isEdge, ends⟩)
    · exact ⟨inA, inB, edge, isEdge, .inl ends⟩
    · exact ⟨inA, inB, edge, isEdge, .inr ends⟩
  · rintro ⟨inA, inB, edge, isEdge, ends | ends⟩
    · exact .inl ⟨inA, inB, edge, isEdge, ends⟩
    · exact .inr ⟨inB, inA, edge, isEdge, ends⟩

theorem mem_neighboursIn_of (known : ∀ id ∈ members, id ∈ nodes.map (·.id)) (start : a ∈ members) :
    b ∈ (FlowGraph.of nodes edges).neighboursIn members a ↔ Adjacent edges members a b := by
  rw [neighboursIn, List.mem_filter, mem_neighbours_of, decide_eq_true_eq]
  constructor
  · rintro ⟨⟨_, _, joined⟩, inB⟩
    exact ⟨start, inB, joined⟩
  · rintro ⟨inA, inB, joined⟩
    exact ⟨⟨known a inA, known b inB, joined⟩, inB⟩

/-! ## Clusters -/

/-- **The cluster of a known id** is what is connected with it. -/
theorem mem_cluster (known : a ∈ nodes.map (·.id)) :
    b ∈ (FlowGraph.of nodes edges).cluster a ↔ Connected edges (nodes.map (·.id)) a b := by
  have within : ∀ a, ∀ b ∈ (FlowGraph.of nodes edges).neighbours a, b ∈ (FlowGraph.of nodes edges).ids :=
    fun a b next => mem_ids_of.mpr (mem_neighbours_of.mp next).2.1
  rw [cluster, if_pos (contains_of.mpr known), mem_reachedFrom within (Nat.le_refl _)]
  simp only [List.mem_singleton, exists_eq_left]
  exact reaches_iff_path (p := fun _ => True) (fun a b _ => mem_neighbours_of) (fun _ _ _ => trivial) trivial

theorem nodup_cluster (graph : FlowGraph) (id : String) : (graph.cluster id).Nodup := by
  unfold cluster
  split
  · exact nodup_reachedFrom _ _
  · exact List.nodup_nil

end FlowGraph

/-! ## Pieces -/

/-- **Lists that are the connected pieces of what is left of members**: each is a piece in order, all that
is left is in one, no two meet, and a piece comes before those with a larger least id. -/
structure PiecesOf (edges : List FlowEdge) (members left : List String) (pieces : List (List String)) : Prop where
  sorted : ∀ piece ∈ pieces, piece.Pairwise (· < ·)
  isPiece : ∀ piece ∈ pieces, ∃ id ∈ left, ∀ other, other ∈ piece ↔ Connected edges members id other
  cover : ∀ id ∈ left, ∃ piece ∈ pieces, id ∈ piece
  disjoint : pieces.Pairwise List.Disjoint
  ordered : pieces.Pairwise fun first second => ∃ least ∈ first, ∀ id ∈ second, least < id

/-- **Lists that are the connected pieces of members.** -/
abbrev ArePieces (edges : List FlowEdge) (members : List String) (pieces : List (List String)) : Prop :=
  PiecesOf edges members members pieces

theorem PiecesOf.nil : PiecesOf edges members [] [] :=
  ⟨by simp, by simp, by simp, .nil, .nil⟩

theorem PiecesOf.ne_nil {left : List String} {pieces : List (List String)} (made : PiecesOf edges members left pieces)
    {piece : List String} (isPiece : piece ∈ pieces) : piece ≠ [] := by
  obtain ⟨id, _, reading⟩ := made.isPiece piece isPiece
  exact List.ne_nil_of_mem ((reading id).mpr .refl)

/-- What is left is **closed** when all that is connected with it is left too. -/
def ClosedIn (edges : List FlowEdge) (members left : List String) : Prop :=
  ∀ a ∈ left, ∀ b, Connected edges members a b → b ∈ left

section Step

variable {first : String} {rest piece : List String} (closed : ClosedIn edges members (first :: rest))
  (reading : ∀ id, id ∈ piece ↔ Connected edges members first id)

include reading

theorem mem_rest_filter {id : String} :
    id ∈ rest.filter (· ∉ piece) ↔ id ∈ rest ∧ ¬ Connected edges members first id := by
  rw [List.mem_filter, decide_eq_true_eq, reading]

include closed

/-- What is connected with something left after a piece was taken off is left then, too. -/
theorem ClosedIn.filter : ClosedIn edges members (rest.filter (· ∉ piece)) := by
  intro a isLeft b connected
  obtain ⟨isRest, apart⟩ := (mem_rest_filter reading).mp isLeft
  have notFirst : ¬ Connected edges members first b := fun toB => apart (toB.trans connected.symm)
  refine (mem_rest_filter reading).mpr ⟨?_, notFirst⟩
  rcases List.mem_cons.mp (closed a (List.mem_cons_of_mem _ isRest) b connected) with rfl | isRest
  · exact absurd .refl notFirst
  · exact isRest

/-- **One piece more**: the piece of the first member left, before those of what is left without it. -/
theorem PiecesOf.cons {pieces : List (List String)} (sorted : (first :: rest).Pairwise (· < ·))
    (later : PiecesOf edges members (rest.filter (· ∉ piece)) pieces) :
    PiecesOf edges members (first :: rest) (sortedTexts piece :: pieces) := by
  -- later pieces are made of what is left without the piece
  have stays : ∀ other ∈ pieces, ∀ id ∈ other, id ∈ rest.filter (· ∉ piece) := by
    intro other isLater id inOther
    obtain ⟨root, isLeft, isPiece⟩ := later.isPiece other isLater
    exact closed.filter reading root isLeft id ((isPiece id).mp inOther)
  refine ⟨?_, ?_, ?_, List.pairwise_cons.mpr ⟨?_, later.disjoint⟩, List.pairwise_cons.mpr ⟨?_, later.ordered⟩⟩
  · intro other isPiece
    rcases List.mem_cons.mp isPiece with rfl | isLater
    · exact sortedTexts_sorted piece
    · exact later.sorted other isLater
  · intro other isPiece
    rcases List.mem_cons.mp isPiece with rfl | isLater
    · exact ⟨first, List.mem_cons_self, fun id => mem_sortedTexts.trans (reading id)⟩
    · obtain ⟨id, isLeft, isPiece⟩ := later.isPiece other isLater
      exact ⟨id, List.mem_cons_of_mem _ ((mem_rest_filter reading).mp isLeft).1, isPiece⟩
  · intro id isLeft
    by_cases connected : Connected edges members first id
    · exact ⟨_, List.mem_cons_self, mem_sortedTexts.mpr ((reading id).mpr connected)⟩
    · have isRest : id ∈ rest := by
        rcases List.mem_cons.mp isLeft with rfl | isRest
        · exact absurd .refl connected
        · exact isRest
      obtain ⟨other, isLater, inOther⟩ := later.cover id ((mem_rest_filter reading).mpr ⟨isRest, connected⟩)
      exact ⟨other, List.mem_cons_of_mem _ isLater, inOther⟩
  · intro other isLater id inPiece inOther
    have apart := ((mem_rest_filter reading).mp (stays other isLater id inOther)).2
    exact apart ((reading id).mp (mem_sortedTexts.mp inPiece))
  · intro other isLater
    refine ⟨first, mem_sortedTexts.mpr ((reading first).mpr .refl), fun id inOther => ?_⟩
    exact (List.pairwise_cons.mp sorted).1 id ((mem_rest_filter reading).mp (stays other isLater id inOther)).1

end Step

namespace FlowGraph

/-- What the search from one member returns. -/
theorem mem_reachedFrom_neighboursIn (known : ∀ id ∈ members, id ∈ nodes.map (·.id)) (start : a ∈ members) :
    b ∈ reachedFrom ((FlowGraph.of nodes edges).neighboursIn members) members.length [a] ↔ Connected edges members a b := by
  have within : ∀ a, ∀ b ∈ (FlowGraph.of nodes edges).neighboursIn members a, b ∈ members :=
    fun a b next => of_decide_eq_true (List.mem_filter.mp next).2
  rw [mem_reachedFrom within (Nat.le_refl _)]
  simp only [List.mem_singleton, exists_eq_left]
  exact reaches_iff_path (p := (· ∈ members)) (fun a b isMember => mem_neighboursIn_of known isMember)
    (fun _ _ adjacent => adjacent.2.1) start

/-- **The run over what is left**, which is in order and closed. -/
theorem piecesOf_exact (known : ∀ id ∈ members, id ∈ nodes.map (·.id)) (fuel : Nat) {left : List String}
    (enough : left.length ≤ fuel) (among : ∀ id ∈ left, id ∈ members) (sorted : left.Pairwise (· < ·))
    (closed : ClosedIn edges members left) :
    PiecesOf edges members left ((FlowGraph.of nodes edges).piecesOf members fuel left) := by
  induction fuel generalizing left with
  | zero =>
    obtain rfl : left = [] := List.eq_nil_of_length_eq_zero (Nat.le_zero.mp enough)
    exact .nil
  | succ fuel ih =>
    cases left with
    | nil => exact .nil
    | cons first rest =>
      have reading : ∀ id, id ∈ reachedFrom ((FlowGraph.of nodes edges).neighboursIn members) members.length [first] ↔
          Connected edges members first id :=
        fun id => mem_reachedFrom_neighboursIn known (among first List.mem_cons_self)
      rw [piecesOf]
      refine PiecesOf.cons closed reading sorted (ih ?_ ?_ ?_ (closed.filter reading))
      · exact Nat.le_trans (List.length_filter_le _ _) (Nat.le_of_succ_le_succ enough)
      · exact fun id isLeft => among id (List.mem_cons_of_mem _ (List.mem_filter.mp isLeft).1)
      · exact (List.pairwise_cons.mp sorted).2.filter _

/-- **The pieces of known members are their connected pieces.** -/
theorem pieces_exact (known : ∀ id ∈ members, id ∈ nodes.map (·.id)) :
    ArePieces edges members ((FlowGraph.of nodes edges).pieces members) := by
  have same : ∀ id, id ∈ members ↔ id ∈ sortedTexts (members.filter (FlowGraph.of nodes edges).contains) := by
    intro id
    rw [mem_sortedTexts, List.mem_filter, contains_of]
    exact ⟨fun member => ⟨member, known id member⟩, And.left⟩
  have connected : Connected edges members = _ := connected_congr same
  have run : ArePieces edges _ ((FlowGraph.of nodes edges).pieces members) :=
    piecesOf_exact (fun id member => known id ((same id).mpr member)) _ (Nat.le_refl _) (fun _ member => member)
      (sortedTexts_sorted _) (fun _ isMember _ connected => connected.mem isMember)
  refine ⟨run.sorted, fun piece isPiece => ?_, fun id member => run.cover id ((same id).mp member),
    run.disjoint, run.ordered⟩
  obtain ⟨id, isMember, reading⟩ := run.isPiece piece isPiece
  exact ⟨id, (same id).mpr isMember, connected ▸ reading⟩

end FlowGraph

end WorkflowAtlas
