import Mathlib.Logic.Function.Iterate
import WorkflowAtlas.Proofs.Listing
import WorkflowAtlas.Workflow.Membership

/-!
# Adoption, id by id

A membership is a list of entries that passes append to. Read through its look-ups it is a function
from ids to numbers of hints, and a pass is a function of such functions: an id that has a number
keeps it, and an id without one takes the first that an edge offers. `hintOf?` is that reading of
seeding and a number of passes, with no list in it.

**The laws**: seeding and adopting give the look-ups of `hintOf?` (`get?_adopt_ofHints`), each id is
entered once (`nodup_keys_adopt_ofHints`), and every entry is a known id with the number of a hint
(`hintOf?_spec`). A run may stop early: a pass that adopts nothing is a fixed point of the passes, and
those before it are counted (`adopt_countsChanges`). So it does not show where one run ends and another goes
on from its result: their passes add up (`adopt_add`).
-/

namespace WorkflowAtlas.Membership

/-- What an edge offers an id: the number at its other end. -/
def offer? (numberOf : String → Option Nat) (id : String) (edge : FlowEdge) : Option Nat :=
  if edge.source = id then numberOf edge.target
  else if edge.target = id then numberOf edge.source
  else none

/-- The edges between known ids. -/
def knownEdges (graph : FlowGraph) (edges : List FlowEdge) : List FlowEdge :=
  edges.filter fun edge => graph.contains edge.source && graph.contains edge.target

/-- **A pass, id by id**: what has a number keeps it, and the first edge that offers one decides for the
others. -/
def pass (graph : FlowGraph) (edges : List FlowEdge) (numberOf : String → Option Nat) (id : String) : Option Nat :=
  (numberOf id).or ((knownEdges graph edges).findSome? (offer? numberOf id))

/-- **Seeding, id by id**: a known id has the number of the first hint that names it. -/
def seed? (graph : FlowGraph) (hints : List WorkflowHint) (id : String) : Option Nat :=
  if graph.contains id then hints.findIdx? (id ∈ ·.nodeIds) else none

/-- **The hint that an id belongs to**, by its number, after seeding and some passes. -/
def hintOf? (graph : FlowGraph) (edges : List FlowEdge) (hints : List WorkflowHint) (passes : Nat) :
    String → Option Nat :=
  (pass graph edges)^[passes] (seed? graph hints)

variable {graph : FlowGraph} {edges : List FlowEdge} {hints : List WorkflowHint} {membership : Membership}
  {id : String} {number passes : Nat}

/-! ## A pass -/

/-- An orphan has no number yet. -/
theorem get?_orphan {edge : FlowEdge} (orphan : membership.orphan? edge = some (id, number)) :
    membership.get? id = none := by
  unfold orphan? at orphan
  split at orphan
  · next _ _ absent => cases orphan; exact absent
  · next _ absent _ => cases orphan; exact absent
  · cases orphan

/-- For an id without a number, an edge has it as an orphan exactly when the edge offers it a number. -/
theorem orphan?_bind (absent : membership.get? id = none) (edge : FlowEdge) :
    ((membership.orphan? edge).bind fun entry => if id == entry.1 then some entry.2 else none) =
      offer? membership.get? id edge := by
  unfold orphan? offer?
  cases source : membership.get? edge.source with
  | none =>
    by_cases atSource : edge.source = id
    · cases target : membership.get? edge.target with
      | none => simp [atSource]
      | some number => simp [atSource]
    · cases target : membership.get? edge.target with
      | none => simp [atSource]
      | some number => simp [atSource, Ne.symm atSource]
  | some number =>
    have atSource : edge.source ≠ id := fun same => by simp [← same, source] at absent
    cases target : membership.get? edge.target with
    | none =>
      by_cases atTarget : edge.target = id
      · simp [atSource, atTarget]
      · simp [atSource, atTarget, Ne.symm atTarget]
    | some other =>
      have atTarget : edge.target ≠ id := fun same => by simp [← same, target] at absent
      simp [atSource, atTarget]

theorem get?_adoptable (absent : membership.get? id = none) :
    (adoptable graph edges membership).get? id =
      (knownEdges graph edges).findSome? (offer? membership.get? id) := by
  change (List.eraseDupsBy _ ((knownEdges graph edges).filterMap membership.orphan?)).lookup id = _
  rw [lookup_eraseDupsBy, List.lookup_eq_findSome?, ← List.head?_filterMap, List.filterMap_filterMap,
    List.head?_filterMap]
  exact congrArg (List.findSome? · _) (funext (orphan?_bind absent))

/-- **A membership with what a pass adopts has the look-ups of the pass.** -/
theorem get?_append_adoptable (graph : FlowGraph) (edges : List FlowEdge) (membership : Membership) :
    get? (membership ++ adoptable graph edges membership) = pass graph edges membership.get? := by
  ext1 id
  unfold pass
  cases present : membership.get? id with
  | some number =>
    unfold get? at present ⊢
    rw [List.lookup_append, present]
    rfl
  | none =>
    rw [← get?_adoptable present]
    unfold get? at present ⊢
    rw [List.lookup_append, present]

theorem isSome_get?_iff : (membership.get? id).isSome ↔ id ∈ membership.map (·.1) := by
  simp [get?, List.lookup_isSome_iff, eq_comm (a := id)]

/-- What a pass adopts has no number before. -/
theorem get?_of_adopted (adopted : id ∈ (adoptable graph edges membership).map (·.1)) : membership.get? id = none := by
  have offered : id ∈ ((knownEdges graph edges).filterMap membership.orphan?).map (·.1) := by
    unfold adoptable at adopted
    rw [map_eraseDupsBy] at adopted
    exact List.mem_eraseDups.mp adopted
  obtain ⟨⟨key, number⟩, isOrphan, rfl⟩ := List.mem_map.mp offered
  obtain ⟨edge, _, orphan⟩ := List.mem_filterMap.mp isOrphan
  exact get?_orphan orphan

/-- A pass enters no id that is entered, and none twice. -/
theorem nodup_keys_append_adoptable (unique : (membership.map (·.1)).Nodup) :
    ((membership ++ adoptable graph edges membership).map (·.1)).Nodup := by
  rw [List.map_append, List.nodup_append]
  refine ⟨unique, ?_, ?_⟩
  · unfold adoptable
    rw [map_eraseDupsBy]
    exact nodup_eraseDups _
  · rintro key entered _ adopted rfl
    have present := isSome_get?_iff.mpr entered
    rw [get?_of_adopted adopted] at present
    cases present

/-- A pass that adopts something changes look-ups. -/
theorem pass_ne_of_adoptable (some : adoptable graph edges membership ≠ []) :
    pass graph edges membership.get? ≠ membership.get? := by
  intro same
  obtain ⟨entry, isAdopted⟩ := List.exists_mem_of_ne_nil _ some
  have adopted : entry.1 ∈ (adoptable graph edges membership).map (·.1) := List.mem_map_of_mem isAdopted
  have present : (get? (membership ++ adoptable graph edges membership) entry.1).isSome := by
    rw [isSome_get?_iff, List.map_append]
    exact List.mem_append_right _ adopted
  rw [get?_append_adoptable, same, get?_of_adopted adopted] at present
  cases present

/-! ## Passes -/

/-- Where a pass adopts nothing, a run ends before it. -/
theorem adopt_of_settled (settled : adoptable graph edges membership = []) (passes : Nat) :
    membership.adopt graph edges passes = (membership, 0) := by
  cases passes with
  | zero => rfl
  | succ passes =>
    rw [adopt, settled]
    rfl

/-- Where a pass adopts something, a run goes on with it and counts the pass. -/
theorem adopt_of_adopts (adopts : adoptable graph edges membership ≠ []) (passes : Nat) :
    membership.adopt graph edges (passes + 1) =
      (((membership ++ adoptable graph edges membership).adopt graph edges passes).1,
        ((membership ++ adoptable graph edges membership).adopt graph edges passes).2 + 1) := by
  rw [adopt]
  exact if_neg fun none => adopts (List.isEmpty_iff.mp none)

/-- **Adoption has the look-ups of its passes**, also when it stops early. -/
theorem get?_adopt (passes : Nat) (membership : Membership) :
    (membership.adopt graph edges passes).1.get? = (pass graph edges)^[passes] membership.get? := by
  induction passes generalizing membership with
  | zero => rfl
  | succ passes ih =>
    have step := get?_append_adoptable graph edges membership
    by_cases settled : adoptable graph edges membership = []
    · rw [settled, List.append_nil] at step
      rw [adopt_of_settled settled]
      exact (Function.iterate_fixed step.symm _).symm
    · rw [adopt_of_adopts settled, Function.iterate_succ_apply, ← step]
      exact ih _

/-- **A count of passes that change something**: each pass that is counted does, and the next one does not,
unless there are no more passes. -/
structure CountsChanges (graph : FlowGraph) (edges : List FlowEdge) (membership : Membership) (passes used : Nat) :
    Prop where
  le : used ≤ passes
  changes : ∀ n < used, (pass graph edges)^[n + 1] membership.get? ≠ (pass graph edges)^[n] membership.get?
  settled : used < passes → (pass graph edges)^[used + 1] membership.get? = (pass graph edges)^[used] membership.get?

/-- **Adoption counts the passes that change something.** -/
theorem adopt_countsChanges (passes : Nat) (membership : Membership) :
    CountsChanges graph edges membership passes (membership.adopt graph edges passes).2 := by
  induction passes generalizing membership with
  | zero => exact ⟨Nat.le_refl 0, by simp [adopt], fun more => absurd more (Nat.lt_irrefl 0)⟩
  | succ passes ih =>
    have step := get?_append_adoptable graph edges membership
    by_cases stops : adoptable graph edges membership = []
    · rw [stops, List.append_nil] at step
      rw [adopt_of_settled stops]
      exact ⟨Nat.zero_le _, fun n counted => absurd counted (Nat.not_lt_zero n), fun _ => step.symm⟩
    · obtain ⟨le, changes, settled⟩ := ih (membership ++ adoptable graph edges membership)
      simp only [step, ← Function.iterate_succ_apply] at changes settled
      rw [adopt_of_adopts stops]
      refine ⟨Nat.succ_le_succ le, fun n counted => ?_, fun more => settled (Nat.lt_of_succ_lt_succ more)⟩
      cases n with
      | zero => exact pass_ne_of_adoptable stops
      | succ n => exact changes n (Nat.lt_of_succ_lt_succ counted)

/-- **Runs of adoption add up**: a run that goes on from the result of another gives the membership of one run with
the passes of both, and their counts add up to its count. -/
theorem adopt_add (graph : FlowGraph) (edges : List FlowEdge) (membership : Membership) (first second : Nat) :
    let before := membership.adopt graph edges first
    let after := before.1.adopt graph edges second
    membership.adopt graph edges (first + second) = (after.1, before.2 + after.2) := by
  induction first generalizing membership with
  | zero => simp [adopt]
  | succ first ih =>
    rw [Nat.succ_add]
    by_cases settled : adoptable graph edges membership = []
    · -- the first run stops at once, and so do the second and the one with the passes of both
      simp [adopt_of_settled settled]
    · simp only [Nat.succ_eq_add_one, adopt_of_adopts settled]
      rw [ih]
      simp only [Prod.mk.injEq, true_and]
      omega

theorem nodup_keys_adopt (passes : Nat) (unique : (membership.map (·.1)).Nodup) :
    ((membership.adopt graph edges passes).1.map (·.1)).Nodup := by
  induction passes generalizing membership with
  | zero => exact unique
  | succ passes ih =>
    by_cases settled : adoptable graph edges membership = []
    · rw [adopt_of_settled settled]
      exact unique
    · rw [adopt_of_adopts settled]
      exact ih (nodup_keys_append_adoptable unique)

/-! ## Seeding -/

/-- Among the names of numbered hints, the first with an id gives the first hint that names it. -/
theorem lookup_named (hints : List WorkflowHint) (start : Nat) (id : String) :
    ((hints.zipIdx start).flatMap fun (hint, index) => hint.nodeIds.map (·, index)).lookup id =
      (hints.findIdx? (id ∈ ·.nodeIds)).map (· + start) := by
  induction hints generalizing start with
  | nil => rfl
  | cons hint rest ih =>
    have own : (hint.nodeIds.map (·, start)).lookup id = if id ∈ hint.nodeIds then some start else none := by
      induction hint.nodeIds with
      | nil => rfl
      | cons named names ih =>
        rw [List.map_cons, List.lookup_cons, ih]
        by_cases same : id = named
        · simp [same]
        · simp [same, beq_false_of_ne same]
    rw [List.zipIdx_cons, List.flatMap_cons, List.lookup_append, own, ih, List.findIdx?_cons]
    by_cases names : id ∈ hint.nodeIds
    · simp [names]
    · simp [names, Option.map_map, Function.comp_def, Nat.add_assoc, Nat.add_comm 1]

theorem get?_ofHints (graph : FlowGraph) (hints : List WorkflowHint) :
    (ofHints graph hints).get? = seed? graph hints := by
  funext id
  change (List.eraseDupsBy _ (List.filter (fun entry => graph.contains entry.1) _)).lookup id = _
  rw [lookup_eraseDupsBy, lookup_filter_key, lookup_named hints 0 id]
  simp [seed?]

/-! ## Both -/

/-- **Seeding and adopting have the look-ups of `hintOf?`.** -/
theorem get?_adopt_ofHints (graph : FlowGraph) (edges : List FlowEdge) (hints : List WorkflowHint) (passes : Nat) :
    ((ofHints graph hints).adopt graph edges passes).1.get? = hintOf? graph edges hints passes := by
  rw [get?_adopt, get?_ofHints, hintOf?]

/-- Each id is entered once. -/
theorem nodup_keys_adopt_ofHints (graph : FlowGraph) (edges : List FlowEdge) (hints : List WorkflowHint)
    (passes : Nat) : (((ofHints graph hints).adopt graph edges passes).1.map (·.1)).Nodup := by
  refine nodup_keys_adopt passes ?_
  unfold ofHints
  rw [map_eraseDupsBy]
  exact nodup_eraseDups _

/-- An id that belongs to a hint is known, and the number is that of a hint. -/
theorem hintOf?_spec (belongs : hintOf? graph edges hints passes id = some number) :
    graph.contains id ∧ number < hints.length := by
  induction passes generalizing id number with
  | zero =>
    change seed? graph hints id = some number at belongs
    unfold seed? at belongs
    split at belongs
    · next known => exact ⟨known, (List.findIdx?_eq_some_iff_getElem.mp belongs).1⟩
    · cases belongs
  | succ passes ih =>
    rw [hintOf?, Function.iterate_succ_apply', pass] at belongs
    rcases Option.or_eq_some_iff.mp belongs with before | ⟨_, adopted⟩
    · exact ih before
    · obtain ⟨edge, isKnown, offered⟩ := List.exists_of_findSome?_eq_some adopted
      have ends : graph.contains edge.source ∧ graph.contains edge.target := by
        simpa using (List.mem_filter.mp isKnown).2
      unfold offer? at offered
      split at offered
      · next same => exact ⟨same ▸ ends.1, (ih offered).2⟩
      · split at offered
        · next same => exact ⟨same ▸ ends.2, (ih offered).2⟩
        · cases offered

end WorkflowAtlas.Membership
