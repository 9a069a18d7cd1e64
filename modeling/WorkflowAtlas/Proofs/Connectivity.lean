import WorkflowAtlas.Proofs.Listing
import WorkflowAtlas.Workflow.Graph

/-!
# Searches stay where they may go, and go everywhere

**The law** (`reachedFrom_sound`): what a search in rounds returns is reached from one of its seeds,
however many rounds it had. A search among members follows neighbours that are members, so the
connected pieces of members hold members only (`mem_of_mem_pieces`).

Where neighbours lie among finitely many places, as many rounds as there are places find everything
(`mem_reachedFrom`), each once (`nodup_reachedFrom`): a round that adds nothing has come to an end, and
any other leaves fewer places unseen.
-/

namespace WorkflowAtlas

/-! ## The search -/

section Search

variable {α : Type} {next : α → List α} {a b c : α}

theorem Reaches.tail (reached : Reaches next a b) (step : c ∈ next b) : Reaches next a c := by
  induction reached with
  | refl a => exact .step step (.refl c)
  | step first _ ih => exact .step first (ih step)

/-- What is closed under neighbours is closed under reachability. -/
theorem Reaches.closed {p : α → Prop} (closed : ∀ a b, p a → b ∈ next a → p b) (reached : Reaches next a b)
    (start : p a) : p b := by
  induction reached with
  | refl a => exact start
  | step first _ ih => exact ih (closed _ _ start first)

variable [DecidableEq α]

theorem mem_fresh {seen frontier : List α} :
    a ∈ fresh next seen frontier ↔ (∃ b ∈ frontier, a ∈ next b) ∧ a ∉ seen := by
  simp [fresh]

/-- A property of what is seen and of the frontier, closed under neighbours, holds of all that further
rounds return. -/
theorem spread_closed {p : α → Prop} (closed : ∀ a b, p a → b ∈ next a → p b) (rounds : Nat)
    {seen frontier : List α} (onSeen : ∀ a ∈ seen, p a) (onFrontier : ∀ a ∈ frontier, p a) :
    ∀ a ∈ spread next rounds seen frontier, p a := by
  induction rounds generalizing seen frontier with
  | zero => exact onSeen
  | succ rounds ih =>
    have onFresh : ∀ a ∈ fresh next seen frontier, p a := by
      intro a member
      obtain ⟨⟨b, inFrontier, step⟩, _⟩ := mem_fresh.mp member
      exact closed b a (onFrontier b inFrontier) step
    rw [spread]
    split
    · exact onSeen
    · refine ih (fun a member => ?_) onFresh
      rcases List.mem_append.mp member with member | member
      · exact onSeen a member
      · exact onFresh a member

/-- **A search returns only what is reached from its seeds.** -/
theorem reachedFrom_sound {rounds : Nat} {seeds : List α} (found : a ∈ reachedFrom next rounds seeds) :
    ∃ seed ∈ seeds, Reaches next seed a := by
  have start : ∀ a ∈ seeds.eraseDups, ∃ seed ∈ seeds, Reaches next seed a := fun a member =>
    ⟨a, List.mem_eraseDups.mp member, .refl a⟩
  refine spread_closed (p := fun a => ∃ seed ∈ seeds, Reaches next seed a) ?_ rounds start start a found
  rintro a b ⟨seed, isSeed, reached⟩ step
  exact ⟨seed, isSeed, reached.tail step⟩

theorem subset_spread (rounds : Nat) {seen frontier : List α} (member : a ∈ seen) :
    a ∈ spread next rounds seen frontier := by
  induction rounds generalizing seen frontier with
  | zero => exact member
  | succ rounds ih =>
    rw [spread]
    split
    · exact member
    · exact ih (List.mem_append_left _ member)

/-- A place that is added is no longer among the places unseen. -/
theorem length_unseen_lt {places seen added : List α} (isPlace : a ∈ places) (isNew : a ∉ seen) (isAdded : a ∈ added) :
    (places.filter (· ∉ seen ++ added)).length < (places.filter (· ∉ seen)).length := by
  have split : places.filter (· ∉ seen ++ added) = (places.filter (· ∉ seen)).filter (· ∉ added) := by
    rw [List.filter_filter]
    simp [Bool.and_comm]
  rw [split]
  refine List.length_filter_lt_length_iff_exists.mpr ⟨a, ?_, ?_⟩
  · simpa using ⟨isPlace, isNew⟩
  · simpa using isAdded

/-- **Enough rounds leave nothing to add**, where what is seen before them has its neighbours seen too,
the frontier apart. -/
theorem spread_saturated {places : List α} (within : ∀ a, ∀ b ∈ next a, b ∈ places) (rounds : Nat)
    {seen frontier : List α} (settled : ∀ a ∈ seen, a ∈ frontier ∨ ∀ b ∈ next a, b ∈ seen)
    (enough : (places.filter (· ∉ seen)).length ≤ rounds) :
    ∀ a ∈ spread next rounds seen frontier, ∀ b ∈ next a, b ∈ spread next rounds seen frontier := by
  induction rounds generalizing seen frontier with
  | zero =>
    intro a _ b step
    have none : places.filter (· ∉ seen) = [] := List.eq_nil_of_length_eq_zero (Nat.le_zero.mp enough)
    simpa [spread] using List.filter_eq_nil_iff.mp none b (within a b step)
  | succ rounds ih =>
    have reach : ∀ a ∈ seen, ∀ b ∈ next a, b ∈ seen ∨ b ∈ fresh next seen frontier := by
      intro a member b step
      by_cases known : b ∈ seen
      · exact .inl known
      · rcases settled a member with inFrontier | closed
        · exact .inr (mem_fresh.mpr ⟨⟨a, inFrontier, step⟩, known⟩)
        · exact .inl (closed b step)
    rw [spread]
    split
    · next isEmpty =>
      intro a member b step
      rcases reach a member b step with known | isFresh
      · exact known
      · simp [List.isEmpty_iff.mp isEmpty] at isFresh
    · next notEmpty =>
      refine ih (fun a member => ?_) ?_
      · rcases List.mem_append.mp member with member | member
        · exact .inr fun b step => List.mem_append.mpr (reach a member b step)
        · exact .inl member
      · obtain ⟨b, isFresh⟩ := List.exists_mem_of_ne_nil _ (fun h => notEmpty (List.isEmpty_iff.mpr h))
        obtain ⟨⟨a, _, step⟩, isNew⟩ := mem_fresh.mp isFresh
        have less := length_unseen_lt (within a b step) isNew isFresh
        omega

/-- **A search with a round for each place finds exactly what is reached.** -/
theorem mem_reachedFrom {places : List α} (within : ∀ a, ∀ b ∈ next a, b ∈ places) {rounds : Nat}
    (enough : places.length ≤ rounds) {seeds : List α} :
    a ∈ reachedFrom next rounds seeds ↔ ∃ seed ∈ seeds, Reaches next seed a := by
  refine ⟨reachedFrom_sound, ?_⟩
  rintro ⟨seed, isSeed, reached⟩
  have bound : (places.filter (· ∉ seeds.eraseDups)).length ≤ rounds :=
    Nat.le_trans (List.length_filter_le _ _) enough
  have saturated := spread_saturated within rounds (fun a member => .inl member) bound
  exact reached.closed (fun a b member => saturated a member b) (subset_spread rounds (List.mem_eraseDups.mpr isSeed))

theorem nodup_spread (rounds : Nat) {seen frontier : List α} (once : seen.Nodup) :
    (spread next rounds seen frontier).Nodup := by
  induction rounds generalizing seen frontier with
  | zero => exact once
  | succ rounds ih =>
    rw [spread]
    split
    · exact once
    · refine ih (List.nodup_append'.mpr ⟨once, nodup_eraseDups _, ?_⟩)
      intro a member isFresh
      exact (mem_fresh.mp isFresh).2 member

/-- A search finds nothing twice. -/
theorem nodup_reachedFrom (rounds : Nat) (seeds : List α) : (reachedFrom next rounds seeds).Nodup :=
  nodup_spread rounds (nodup_eraseDups seeds)

end Search

/-! ## Pieces -/

namespace FlowGraph

variable {graph : FlowGraph} {members : List String}

theorem mem_of_reaches_neighboursIn {a b : String} (reached : Reaches (graph.neighboursIn members) a b)
    (start : a ∈ members) : b ∈ members := by
  refine reached.closed (p := (· ∈ members)) (fun a b _ step => ?_) start
  simpa using (List.mem_filter.mp step).2

theorem mem_of_mem_piecesOf {fuel : Nat} {left piece : List String} (among : ∀ id ∈ left, id ∈ members)
    (isPiece : piece ∈ graph.piecesOf members fuel left) : ∀ id ∈ piece, id ∈ members := by
  induction fuel generalizing left with
  | zero => simp [piecesOf] at isPiece
  | succ fuel ih =>
    cases left with
    | nil => simp [piecesOf] at isPiece
    | cons first rest =>
      rw [piecesOf] at isPiece
      rcases List.mem_cons.mp isPiece with rfl | later
      · intro id member
        obtain ⟨seed, isSeed, reached⟩ := reachedFrom_sound (mem_sortedTexts.mp member)
        rw [List.mem_singleton.mp isSeed] at reached
        exact mem_of_reaches_neighboursIn reached (among first List.mem_cons_self)
      · refine ih (fun id member => ?_) later
        exact among id (List.mem_cons_of_mem first (List.mem_filter.mp member).1)

/-- **The pieces of members hold members.** -/
theorem mem_of_mem_pieces {piece : List String} (isPiece : piece ∈ graph.pieces members) :
    ∀ id ∈ piece, id ∈ members := by
  intro id member
  have known := mem_of_mem_piecesOf (fun _ h => h) isPiece id member
  exact (List.mem_filter.mp (mem_sortedTexts.mp known)).1

end FlowGraph

end WorkflowAtlas
