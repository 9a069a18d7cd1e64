import Mathlib.Combinatorics.SimpleGraph.Metric
import WorkflowAtlas.Proofs.Adoption
import WorkflowAtlas.Proofs.Pieces

/-!
# Adoption goes by distance

Adoption grows a membership pass by pass, each pass looking at the membership as it was before. Here it is
set against distance: the length of a shortest path from the ids that have a number at the start (the
**seeds**), along edges between known ids in either direction.

**The law** (`adopt_spreads`): after adoption with a cap, the ids with a number are the known ids no farther
from a seed than the cap; seeds keep their number; an id at a positive distance has the number of a neighbour
one step nearer; and the passes that adopted something are as many as the largest distance, or the cap where
that is smaller.

The invariant is one line (`isSome_after`): after `n` passes the ids within distance `n` have a number, and
no others. Nothing else is followed from pass to pass. Which of several numbers an id is offered is decided
by the order of edges, and the law leaves it open.
-/

namespace WorkflowAtlas.Membership

variable {nodes : List FlowNode} {edges : List FlowEdge} {seeds : Membership} {numberOf : String → Option Nat}
  {id : String} {number n : Nat}

/-! ## Distance -/

/-- **The neighbour graph** of known ids: two of them are joined where an edge has one at either end. -/
def neighbourGraph (nodes : List FlowNode) (edges : List FlowEdge) : SimpleGraph String :=
  SimpleGraph.fromRel (Adjacent edges (nodes.map (·.id)))

/-- **The distance of an id from the ids of a membership**: infinite where no path leads to one of them. -/
noncomputable def distance (nodes : List FlowNode) (edges : List FlowEdge) (seeds : Membership) (id : String) : ℕ∞ :=
  ⨅ seed : { seed // (seeds.get? seed).isSome }, (neighbourGraph nodes edges).edist id seed

theorem adj_iff {a b : String} : (neighbourGraph nodes edges).Adj a b ↔
    a ≠ b ∧ Adjacent edges (nodes.map (·.id)) a b := by
  rw [neighbourGraph, SimpleGraph.fromRel_adj]
  refine and_congr_right fun _ => ⟨?_, .inl⟩
  rintro (adjacent | adjacent)
  · exact adjacent
  · exact adjacent.symm

theorem distance_le_iff : distance nodes edges seeds id ≤ n ↔
    ∃ seed, (seeds.get? seed).isSome ∧ ∃ path : (neighbourGraph nodes edges).Walk id seed, path.length ≤ n := by
  constructor
  · intro near
    cases isEmpty_or_nonempty { seed // (seeds.get? seed).isSome } with
    | inl noSeed =>
      rw [distance, iInf_of_empty] at near
      exact absurd near (by simp)
    | inr hasSeed =>
      obtain ⟨⟨seed, isSeed⟩, nearest⟩ := ENat.exists_eq_iInf fun seed : { seed // (seeds.get? seed).isSome } =>
        (neighbourGraph nodes edges).edist id seed
      have within : (neighbourGraph nodes edges).edist id seed ≤ n := nearest.trans_le near
      obtain ⟨path, shortest⟩ := SimpleGraph.exists_walk_of_edist_ne_top
        (ne_top_of_le_ne_top (ENat.natCast_ne_top n) within)
      refine ⟨seed, isSeed, path, ?_⟩
      rw [← shortest] at within
      exact_mod_cast within
  · rintro ⟨seed, isSeed, path, short⟩
    refine iInf_le_of_le ⟨seed, isSeed⟩ (path.edist_le.trans ?_)
    exact_mod_cast short

/-- At distance zero are the seeds. -/
theorem distance_le_zero_iff : distance nodes edges seeds id ≤ (0 : ℕ) ↔ (seeds.get? id).isSome := by
  rw [distance_le_iff]
  constructor
  · rintro ⟨seed, isSeed, path, short⟩
    cases path with
    | nil => exact isSeed
    | cons first rest => simp at short
  · intro isSeed
    exact ⟨id, isSeed, .nil, Nat.le_refl 0⟩

/-- **One step farther** are the neighbours of what is within a distance. -/
theorem distance_le_succ_iff : distance nodes edges seeds id ≤ (n + 1 : ℕ) ↔ distance nodes edges seeds id ≤ n ∨
    ∃ neighbour, (neighbourGraph nodes edges).Adj id neighbour ∧ distance nodes edges seeds neighbour ≤ n := by
  constructor
  · intro near
    obtain ⟨seed, isSeed, path, short⟩ := distance_le_iff.mp near
    cases path with
    | nil => exact .inl (distance_le_iff.mpr ⟨id, isSeed, .nil, Nat.zero_le n⟩)
    | cons first rest =>
      rw [SimpleGraph.Walk.length_cons, Nat.succ_le_succ_iff] at short
      exact .inr ⟨_, first, distance_le_iff.mpr ⟨seed, isSeed, rest, short⟩⟩
  · rintro (near | ⟨neighbour, first, near⟩)
    · exact near.trans (by exact_mod_cast Nat.le_succ n)
    · obtain ⟨seed, isSeed, path, short⟩ := distance_le_iff.mp near
      refine distance_le_iff.mpr ⟨seed, isSeed, .cons first path, ?_⟩
      rw [SimpleGraph.Walk.length_cons]
      exact Nat.succ_le_succ short

theorem distance_eq_succ_iff : distance nodes edges seeds id = (n + 1 : ℕ) ↔
    distance nodes edges seeds id ≤ (n + 1 : ℕ) ∧ ¬ distance nodes edges seeds id ≤ n := by
  rw [not_le, ← ENat.add_one_le_iff (ENat.natCast_ne_top n), le_antisymm_iff]
  rfl

/-! ## Passes -/

/-- An id without a number is offered the numbers of its neighbours. -/
theorem offered_iff (absent : numberOf id = none) :
    (∃ edge ∈ knownEdges (.of nodes edges) edges, offer? numberOf id edge = some number) ↔
      ∃ neighbour, (neighbourGraph nodes edges).Adj id neighbour ∧ numberOf neighbour = some number := by
  have known : ∀ edge, edge ∈ knownEdges (.of nodes edges) edges ↔
      edge ∈ edges ∧ edge.source ∈ nodes.map (·.id) ∧ edge.target ∈ nodes.map (·.id) := by
    intro edge
    rw [knownEdges, List.mem_filter, Bool.and_eq_true, FlowGraph.contains_of, FlowGraph.contains_of]
  have other : ∀ {neighbour}, numberOf neighbour = some number → id ≠ neighbour := by
    rintro neighbour found rfl
    rw [absent] at found
    cases found
  constructor
  · rintro ⟨edge, isKnown, offered⟩
    obtain ⟨isEdge, source, target⟩ := (known edge).mp isKnown
    unfold offer? at offered
    split at offered
    · next same =>
      refine ⟨edge.target, adj_iff.mpr ⟨other offered, ?_⟩, offered⟩
      exact ⟨same ▸ source, target, edge, isEdge, .inl ⟨same, rfl⟩⟩
    · split at offered
      · next same =>
        refine ⟨edge.source, adj_iff.mpr ⟨other offered, ?_⟩, offered⟩
        exact ⟨same ▸ target, source, edge, isEdge, .inr ⟨rfl, same⟩⟩
      · cases offered
  · rintro ⟨neighbour, joined, found⟩
    obtain ⟨_, isId, isNeighbour, edge, isEdge, ends⟩ := adj_iff.mp joined
    rcases ends with ⟨rfl, rfl⟩ | ⟨rfl, rfl⟩
    · exact ⟨edge, (known edge).mpr ⟨isEdge, isId, isNeighbour⟩, by rw [offer?, if_pos rfl, found]⟩
    · refine ⟨edge, (known edge).mpr ⟨isEdge, isNeighbour, isId⟩, ?_⟩
      rw [offer?, if_neg (other found).symm, if_pos rfl, found]

/-- An id without a number takes the first that it is offered. -/
theorem pass_of_absent (absent : numberOf id = none) : pass (.of nodes edges) edges numberOf id =
    (knownEdges (.of nodes edges) edges).findSome? (offer? numberOf id) := by
  rw [pass, absent, Option.none_or]

theorem pass_of_present (present : numberOf id = some number) :
    pass (.of nodes edges) edges numberOf id = some number := by
  rw [pass, present, Option.some_or]

/-- What a pass gives an id without a number is the number of a neighbour. -/
theorem exists_neighbour_of_pass (absent : numberOf id = none)
    (adopted : pass (.of nodes edges) edges numberOf id = some number) :
    ∃ neighbour, (neighbourGraph nodes edges).Adj id neighbour ∧ numberOf neighbour = some number := by
  rw [pass_of_absent absent] at adopted
  exact (offered_iff absent).mp (List.exists_of_findSome?_eq_some adopted)

theorem isSome_pass : (pass (.of nodes edges) edges numberOf id).isSome ↔ (numberOf id).isSome ∨
    ∃ neighbour, (neighbourGraph nodes edges).Adj id neighbour ∧ (numberOf neighbour).isSome := by
  cases present : numberOf id with
  | some number => simp [pass_of_present present]
  | none =>
    simp only [Option.isSome_none, Bool.false_eq_true, false_or, Option.isSome_iff_exists]
    constructor
    · rintro ⟨number, adopted⟩
      obtain ⟨neighbour, joined, found⟩ := exists_neighbour_of_pass present adopted
      exact ⟨neighbour, joined, number, found⟩
    · rintro ⟨neighbour, joined, number, found⟩
      obtain ⟨edge, isKnown, offered⟩ := (offered_iff present).mpr ⟨neighbour, joined, found⟩
      rw [pass_of_absent present, ← Option.isSome_iff_exists, List.findSome?_isSome_iff]
      exact ⟨edge, isKnown, Option.isSome_of_mem offered⟩

/-- The numbers after some passes. -/
def after (nodes : List FlowNode) (edges : List FlowEdge) (seeds : Membership) (passes : Nat) : String → Option Nat :=
  (pass (.of nodes edges) edges)^[passes] seeds.get?

theorem after_succ (passes : Nat) : after nodes edges seeds (passes + 1) =
    pass (.of nodes edges) edges (after nodes edges seeds passes) :=
  Function.iterate_succ_apply' _ _ _

/-- **After `n` passes, what is within distance `n` has a number.** -/
theorem isSome_after : (after nodes edges seeds n id).isSome ↔ distance nodes edges seeds id ≤ n := by
  induction n generalizing id with
  | zero => exact distance_le_zero_iff.symm
  | succ n ih =>
    rw [after_succ, isSome_pass, distance_le_succ_iff, ih]
    simp only [ih]

theorem after_stays {m : Nat} (earlier : n ≤ m) (found : after nodes edges seeds n id = some number) :
    after nodes edges seeds m id = some number := by
  induction earlier with
  | refl => exact found
  | step _ ih =>
    rw [after_succ]
    exact pass_of_present ih

/-- **An id at a positive distance has the number of a neighbour one step nearer.** -/
theorem exists_nearer_number {passes : Nat} (far : distance nodes edges seeds id = (n + 1 : ℕ))
    (reached : n + 1 ≤ passes) :
    ∃ neighbour, (neighbourGraph nodes edges).Adj id neighbour ∧ distance nodes edges seeds neighbour = n ∧
      ∃ number, after nodes edges seeds passes id = some number ∧
        after nodes edges seeds passes neighbour = some number := by
  obtain ⟨near, notNearer⟩ := distance_eq_succ_iff.mp far
  obtain ⟨number, adopted⟩ := Option.isSome_iff_exists.mp (isSome_after.mpr near)
  have absent : after nodes edges seeds n id = none := by
    simpa using mt isSome_after.mp notNearer
  obtain ⟨neighbour, joined, found⟩ := exists_neighbour_of_pass absent (after_succ n ▸ adopted)
  have within : distance nodes edges seeds neighbour ≤ n := isSome_after.mp (Option.isSome_of_mem found)
  refine ⟨neighbour, joined, ?_, number, after_stays reached adopted, after_stays (by omega) found⟩
  cases n with
  | zero => exact le_antisymm within zero_le
  | succ n =>
    refine distance_eq_succ_iff.mpr ⟨within, fun nearer => notNearer ?_⟩
    exact distance_le_succ_iff.mpr (.inr ⟨neighbour, joined, nearer⟩)

/-! ## The number of passes -/

/-- **A pass changes nothing exactly where no id is at its distance.** -/
theorem after_succ_eq_iff : after nodes edges seeds (n + 1) = after nodes edges seeds n ↔
    ∀ id, distance nodes edges seeds id ≠ (n + 1 : ℕ) := by
  constructor
  · intro same id far
    obtain ⟨near, notNearer⟩ := distance_eq_succ_iff.mp far
    rw [← isSome_after, same, isSome_after] at near
    exact notNearer near
  · intro nowhere
    funext id
    cases found : after nodes edges seeds n id with
    | some number => exact after_stays (Nat.le_succ n) found
    | none =>
      have notNearer : ¬ distance nodes edges seeds id ≤ n := by
        rw [← isSome_after, found]
        exact Bool.false_ne_true
      by_contra adopted
      have near := isSome_after.mp (Option.isSome_iff_ne_none.mpr adopted)
      exact nowhere id (distance_eq_succ_iff.mpr ⟨near, notNearer⟩)

/-- Where some id is at a distance, others are at every smaller one. -/
theorem exists_at_smaller {m : Nat} (smaller : m ≤ n) (somewhere : ∃ id, distance nodes edges seeds id = n) :
    ∃ id, distance nodes edges seeds id = m := by
  induction smaller with
  | refl => exact somewhere
  | step _ ih =>
    obtain ⟨id, far⟩ := somewhere
    obtain ⟨neighbour, _, nearer, _⟩ := exists_nearer_number far (Nat.le_refl _)
    exact ih ⟨neighbour, nearer⟩

/-- From known seeds only known ids are at a finite distance. -/
theorem known_of_distance_le (known : ∀ entry ∈ seeds, entry.1 ∈ nodes.map (·.id))
    (near : distance nodes edges seeds id ≤ n) : id ∈ nodes.map (·.id) := by
  induction n generalizing id with
  | zero =>
    obtain ⟨entry, isEntry, rfl⟩ := List.mem_map.mp (isSome_get?_iff.mp (distance_le_zero_iff.mp near))
    exact known entry isEntry
  | succ n ih =>
    rcases distance_le_succ_iff.mp near with nearer | ⟨neighbour, joined, _⟩
    · exact ih nearer
    · exact (adj_iff.mp joined).2.1

/-- The finite distances of ids, and zero, which is one of them where there is a seed. -/
def distances (nodes : List FlowNode) (edges : List FlowEdge) (seeds : Membership) : Set ℕ :=
  insert 0 { d | ∃ id, distance nodes edges seeds id = d }

/-- **There is a largest distance**, since there are finitely many known ids. -/
theorem exists_farthest (known : ∀ entry ∈ seeds, entry.1 ∈ nodes.map (·.id)) :
    ∃ farthest, IsGreatest (distances nodes edges seeds) farthest := by
  have finite : (distances nodes edges seeds).Finite := by
    have ofKnown := (nodes.map (·.id)).finite_toSet.image fun id => (distance nodes edges seeds id).toNat
    apply Set.Finite.insert
    apply ofKnown.subset
    rintro d ⟨id, atDistance⟩
    exact ⟨id, known_of_distance_le known atDistance.le, by simp [atDistance]⟩
  obtain ⟨farthest, isDistance, largest⟩ := finite.exists_maximal ⟨0, Set.mem_insert 0 _⟩
  refine ⟨farthest, isDistance, fun d member => ?_⟩
  rcases le_total d farthest with le | ge
  · exact le
  · exact largest member ge

/-- **The passes that change something are as many as the largest distance**, if there may be so many. -/
theorem CountsChanges.eq_min {cap used farthest : Nat} (counts : CountsChanges (.of nodes edges) edges seeds cap used)
    (greatest : IsGreatest (distances nodes edges seeds) farthest) : used = min cap farthest := by
  have reached : used ≤ farthest := by
    cases used with
    | zero => exact Nat.zero_le _
    | succ n =>
      have changes := mt after_succ_eq_iff.mpr (counts.changes n (Nat.lt_succ_self n))
      push Not at changes
      exact greatest.2 (.inr changes)
  have settled : used < cap → farthest ≤ used := by
    intro more
    have nowhere := after_succ_eq_iff.mp (counts.settled more)
    by_contra farther
    rcases greatest.1 with rfl | somewhere
    · exact farther (Nat.zero_le _)
    · obtain ⟨id, atNext⟩ := exists_at_smaller (Nat.lt_of_not_le farther) somewhere
      exact nowhere id atNext
  have le := counts.le
  omega

/-! ## Adoption -/

/-- **A membership spreads from its ids**: to which ids, with which numbers, and in how many passes. -/
structure Spreads (nodes : List FlowNode) (edges : List FlowEdge) (seeds : Membership) (cap : Nat)
    (result : Membership) (used : Nat) : Prop where
  assigned : ∀ id, id ∈ result.map (·.1) ↔ id ∈ nodes.map (·.id) ∧ distance nodes edges seeds id ≤ cap
  keeps : ∀ id number, seeds.get? id = some number → result.get? id = some number
  adopted : ∀ id (d : ℕ), distance nodes edges seeds id = (d + 1 : ℕ) → d + 1 ≤ cap →
    ∃ neighbour, Adjacent edges (nodes.map (·.id)) id neighbour ∧ distance nodes edges seeds neighbour = d ∧
      ∃ number, result.get? id = some number ∧ result.get? neighbour = some number
  used : ∃ farthest, IsGreatest (distances nodes edges seeds) farthest ∧ used = min cap farthest

/-- **Adoption is a breadth-first search up to its cap.** -/
theorem adopt_spreads (nodes : List FlowNode) (edges : List FlowEdge) (seeds : Membership) (cap : Nat)
    (known : ∀ entry ∈ seeds, entry.1 ∈ nodes.map (·.id)) :
    Spreads nodes edges seeds cap (seeds.adopt (.of nodes edges) edges cap).1
      (seeds.adopt (.of nodes edges) edges cap).2 where
  assigned := by
    intro id
    rw [← isSome_get?_iff, get?_adopt]
    refine isSome_after.trans ⟨fun near => ⟨known_of_distance_le known near, near⟩, And.right⟩
  keeps := by
    intro id number isSeed
    rw [get?_adopt]
    exact after_stays (Nat.zero_le cap) isSeed
  adopted := by
    intro id d far reached
    rw [get?_adopt]
    obtain ⟨neighbour, joined, nearer, same⟩ := exists_nearer_number far reached
    exact ⟨neighbour, (adj_iff.mp joined).2, nearer, same⟩
  used := by
    obtain ⟨farthest, greatest⟩ := exists_farthest known
    exact ⟨farthest, greatest, (adopt_countsChanges cap seeds).eq_min greatest⟩

/-- A ring of five, one edge of it doubled, with a tail of two; a pair apart, and an edge into the unknown. -/
def tailedRingNodes : List FlowNode :=
  ["a", "b", "c", "d", "e", "tail", "end", "x", "y"].map fun id => { id, label := id, kind := .tool }

def tailedRingEdges : List FlowEdge :=
  [("a", "b"), ("c", "b"), ("b", "c"), ("c", "d"), ("d", "e"), ("a", "e"), ("d", "tail"), ("end", "tail"), ("x", "y"),
    ("x", "gone"), ("gone", "a")].map fun (source, target) => { source, target }

/-- Two seeds compete for `b`, and the end of the tail is out of reach. -/
theorem adopt_spreads_ring :
    (∀ entry ∈ [("a", 0), ("c", 1)], entry.1 ∈ tailedRingNodes.map (·.id)) ∧
    Spreads tailedRingNodes tailedRingEdges [("a", 0), ("c", 1)] 2
      [("a", 0), ("c", 1), ("b", 0), ("d", 1), ("e", 0), ("tail", 1)] 2 := by
  have known : ∀ entry ∈ [("a", 0), ("c", 1)], entry.1 ∈ tailedRingNodes.map (·.id) := by decide
  have run : adopt (.of tailedRingNodes tailedRingEdges) tailedRingEdges 2 [("a", 0), ("c", 1)] =
      ([("a", 0), ("c", 1), ("b", 0), ("d", 1), ("e", 0), ("tail", 1)], 2) := by
    decide +kernel
  have spreads := adopt_spreads tailedRingNodes tailedRingEdges [("a", 0), ("c", 1)] 2 known
  rw [run] at spreads
  exact ⟨known, spreads⟩

end WorkflowAtlas.Membership
