import Mathlib.Data.List.Forall2
import WorkflowAtlas.Proofs.Listing
import WorkflowAtlas.Proofs.TextCuts
import WorkflowAtlas.Workflow.Hints

/-!
# Repaired hints

An unknown id **stands for** a known one when both have the same text behind the first double colon and their
files match: the segments of one path end those of the other, or the two have the same last segment.

**The law** (`repairHints_exact`): repair keeps known ids, gives each unknown id the least known id that it
stands for, where one by path goes before any by file name, and keeps an unknown id only when it stands for
none. Nothing else of a hint changes, the number returned is that of the ids that changed, and a second repair
finds nothing to do.

An id is put together from the file that was found and the function that was asked for. That this is a known id
again, whatever colons are in the two, is `IsFirstCut.text`: the cut loses nothing of the text.
-/

namespace WorkflowAtlas

open WorkflowAtlas.Text

/-! ## Specification -/

/-- The segments of a path. -/
def pathSegments (file : List Char) : List (List Char) :=
  pieces (· == '/') file

/-- One of two paths ends in the segments of the other. -/
def EndsAlike (file other : List Char) : Prop :=
  pathSegments file <:+ pathSegments other ∨ pathSegments other <:+ pathSegments file

/-- Two paths have the same last segment. -/
def SameFileName (file other : List Char) : Prop :=
  (pathSegments file).getLast? = (pathSegments other).getLast?

/-- **An id of a function in a file**: the first double colon stands between them. -/
def IsNodeId (id : String) (file function : List Char) : Prop :=
  IsFirstCut [':', ':'] id.toList file function

/-- **A known id that an id stands for**: one of the same function, in a file that matches. -/
def StandsFor (matching : List Char → List Char → Prop) (known : List String) (id other : String) : Prop :=
  other ∈ known ∧ ∃ file otherFile function,
    IsNodeId id file function ∧ IsNodeId other otherFile function ∧ matching otherFile file

/-- The least of the texts with a property. -/
def IsLeastText (property : String → Prop) (text : String) : Prop :=
  property text ∧ ∀ other, property other → text = other ∨ text < other

/-- **What repair makes of an id.** -/
structure RepairsTo (known : List String) (id repaired : String) : Prop where
  keeps : id ∈ known → repaired = id
  /-- A changed id is the least that the old one stands for, by path if there is one by path. -/
  changes : repaired ≠ id → IsLeastText (StandsFor EndsAlike known id) repaired ∨
    (∀ other, ¬ StandsFor EndsAlike known id other) ∧ IsLeastText (StandsFor SameFileName known id) repaired
  /-- An unknown id is kept exactly where it stands for none. -/
  keeps_iff : id ∉ known →
    (repaired = id ↔ ∀ other, ¬ StandsFor EndsAlike known id other ∧ ¬ StandsFor SameFileName known id other)

/-- **What repair makes of a hint**: only ids change, each in its place. -/
structure WorkflowHint.RepairsTo (known : List String) (hint repaired : WorkflowHint) : Prop where
  others : repaired = { hint with nodeIds := repaired.nodeIds }
  ids : List.Forall₂ (WorkflowAtlas.RepairsTo known) hint.nodeIds repaired.nodeIds

/-- How many ids of hints differ from those in their places. -/
def changedIds (hints repaired : List WorkflowHint) : Nat :=
  ((hints.flatMap (·.nodeIds)).zip (repaired.flatMap (·.nodeIds))).countP fun ids => ids.1 ≠ ids.2

/-! ## Matching files -/

/-- Different paths match by suffix where the segments of one end the other's. -/
theorem suffixMatch_iff {file other : List Char} (differ : file ≠ other) :
    suffixMatch file other = true ↔ EndsAlike file other := by
  rw [suffixMatch, EndsAlike, Bool.or_eq_true, List.isSuffixOf_iff_suffix, List.isSuffixOf_iff_suffix, pathSegments,
    pathSegments, suffix_pieces_iff, suffix_pieces_iff, or_iff_right differ, or_iff_right differ.symm, or_comm]

theorem sameFileName_iff {file other : List Char} : SameFileName file other ↔ lastName file = lastName other := by
  rw [SameFileName, pathSegments, pathSegments, getLast?_pieces, getLast?_pieces, Option.some.injEq]
  rfl

/-! ## The files of a function -/

section Files

variable {known : List String} {id other : String} {file function : List Char} {matching : List Char → List Char → Prop}

theorem splitNodeId?_eq_some_iff : splitNodeId? id = some (file, function) ↔ IsNodeId id file function :=
  cutAt_eq_some_iff

/-- An id is put together again from its parts. -/
theorem IsNodeId.join_eq (isId : IsNodeId id file function) : joinNodeId file function = id := by
  have text : file ++ ':' :: ':' :: function = id.toList := by simpa using isId.text
  rw [joinNodeId, text, String.ofList_toList]

theorem mem_filesOf : file ∈ filesOf known function ↔ ∃ other ∈ known, IsNodeId other file function := by
  simp [filesOf, splitNodeId?_eq_some_iff]

/-- The files of a function come in the order of its ids. -/
theorem filesOf_sorted (known : List String) (function : List Char) :
    (filesOf known function).Pairwise fun a b => joinNodeId a function < joinNodeId b function := by
  rw [filesOf, List.pairwise_map, List.pairwise_filter]
  refine (sortedTexts_sorted known).filterMap splitNodeId? ?_
  intro a b before first isFirst second isSecond ofFirst ofSecond
  rw [decide_eq_true_eq] at ofFirst ofSecond
  obtain rfl := (splitNodeId?_eq_some_iff.mp isFirst).join_eq
  obtain rfl := (splitNodeId?_eq_some_iff.mp isSecond).join_eq
  rwa [ofFirst, ofSecond] at before

/-- The known ids that an id stands for are those of its function in the files that match. -/
theorem standsFor_iff (isId : IsNodeId id file function) : StandsFor matching known id other ↔
    ∃ otherFile ∈ filesOf known function, matching otherFile file ∧ joinNodeId otherFile function = other := by
  constructor
  · rintro ⟨isKnown, file', otherFile, function', isId', isOther, isMatch⟩
    obtain ⟨rfl, rfl⟩ := isId.unique isId'
    exact ⟨otherFile, mem_filesOf.mpr ⟨other, isKnown, isOther⟩, isMatch, isOther.join_eq⟩
  · rintro ⟨otherFile, isFile, isMatch, rfl⟩
    obtain ⟨other, isKnown, isOther⟩ := mem_filesOf.mp isFile
    rw [isOther.join_eq]
    exact ⟨isKnown, file, otherFile, function, isId, isOther, isMatch⟩

/-- The first of some items in order is the least of them. -/
theorem least_of_find? {α : Type} {before : α → α → Prop} {items : List α} (sorted : items.Pairwise before)
    {test : α → Bool} {item : α} (found : items.find? test = some item) :
    ∀ other ∈ items, test other → item = other ∨ before item other := by
  obtain ⟨_, front, back, rfl, skipped⟩ := List.find?_eq_some_iff_append.mp found
  intro other isItem passes
  rcases List.mem_append.mp isItem with earlier | later
  · exact absurd passes (by simpa using skipped other earlier)
  · rcases List.mem_cons.mp later with rfl | later
    · exact .inl rfl
    · exact .inr ((List.pairwise_cons.mp (List.pairwise_append.mp sorted).2.1).1 other later)

variable (isId : IsNodeId id file function) {test : List Char → Bool}
  (tests : ∀ otherFile ∈ filesOf known function, test otherFile = true ↔ matching otherFile file)

include isId tests

/-- **The first file that passes a test for matching** gives the least id that an id stands for. -/
theorem isLeastText_of_find? {found : List Char} (isFound : (filesOf known function).find? test = some found) :
    IsLeastText (StandsFor matching known id) (joinNodeId found function) := by
  have isFile := List.mem_of_find?_eq_some isFound
  refine ⟨(standsFor_iff isId).mpr ⟨found, isFile, (tests found isFile).mp (List.find?_some isFound), rfl⟩, ?_⟩
  intro other stands
  obtain ⟨otherFile, isFile, isMatch, rfl⟩ := (standsFor_iff isId).mp stands
  have first := least_of_find? (filesOf_sorted known function) isFound otherFile isFile ((tests _ isFile).mpr isMatch)
  exact first.imp_left (congrArg (joinNodeId · function))

theorem not_standsFor_of_find? (isNone : (filesOf known function).find? test = none) (other : String) :
    ¬ StandsFor matching known id other := by
  intro stands
  obtain ⟨otherFile, isFile, isMatch, _⟩ := (standsFor_iff isId).mp stands
  exact List.find?_eq_none.mp isNone otherFile isFile ((tests _ isFile).mpr isMatch)

end Files

/-! ## One id -/

section Id

variable {known : List String} {id : String}

/-- An unknown id is not that of its function in any file where that is known. -/
theorem ne_of_mem_filesOf {file otherFile function : List Char} (unknown : id ∉ known) (isId : IsNodeId id file function)
    (isFile : otherFile ∈ filesOf known function) : otherFile ≠ file := by
  rintro rfl
  obtain ⟨other, isKnown, isOther⟩ := mem_filesOf.mp isFile
  rw [← isOther.join_eq, isId.join_eq] at isKnown
  exact unknown isKnown

/-- **What is found for an unknown id** is the least that it stands for, by path before file name. -/
theorem repairedId?_spec (unknown : id ∉ known) :
    match repairedId? known id with
    | some repaired => IsLeastText (StandsFor EndsAlike known id) repaired ∨
        (∀ other, ¬ StandsFor EndsAlike known id other) ∧ IsLeastText (StandsFor SameFileName known id) repaired
    | none => ∀ other, ¬ StandsFor EndsAlike known id other ∧ ¬ StandsFor SameFileName known id other := by
  cases isSplit : splitNodeId? id with
  | none =>
    have uncut : ∀ matching other, ¬ StandsFor matching known id other := by
      rintro matching other ⟨_, file, _, function, isId, _⟩
      rw [splitNodeId?_eq_some_iff.mpr isId] at isSplit
      cases isSplit
    simpa [repairedId?, isSplit] using fun other => ⟨uncut EndsAlike other, uncut SameFileName other⟩
  | some parts =>
    obtain ⟨file, function⟩ := parts
    have isId := splitNodeId?_eq_some_iff.mp isSplit
    have byPath : ∀ otherFile ∈ filesOf known function, suffixMatch otherFile file = true ↔ EndsAlike otherFile file :=
      fun otherFile isFile => suffixMatch_iff (ne_of_mem_filesOf unknown isId isFile)
    have byName : ∀ otherFile ∈ filesOf known function,
        decide (lastName otherFile = lastName file) = true ↔ SameFileName otherFile file :=
      fun otherFile _ => by rw [decide_eq_true_eq, sameFileName_iff]
    cases first : (filesOf known function).find? (suffixMatch · file) with
    | some found =>
      simpa [repairedId?, isSplit, first] using .inl (isLeastText_of_find? isId byPath first)
    | none =>
      have noPath := not_standsFor_of_find? isId byPath first
      cases second : (filesOf known function).find? (lastName · = lastName file) with
      | some found =>
        simpa [repairedId?, isSplit, first, second] using .inr ⟨noPath, isLeastText_of_find? isId byName second⟩
      | none =>
        simpa [repairedId?, isSplit, first, second] using
          fun other => ⟨noPath other, not_standsFor_of_find? isId byName second other⟩

/-- What is found for an unknown id is known. -/
theorem mem_of_repairedId? {repaired : String} (unknown : id ∉ known) (found : repairedId? known id = some repaired) :
    repaired ∈ known := by
  have spec := repairedId?_spec unknown
  rw [found] at spec
  rcases spec with least | ⟨_, least⟩
  · exact least.1.1
  · exact least.1.1

theorem ne_of_repairedId? {repaired : String} (unknown : id ∉ known) (found : repairedId? known id = some repaired) :
    repaired ≠ id := by
  rintro rfl
  exact unknown (mem_of_repairedId? unknown found)

theorem repairId_repairsTo (known : List String) (id : String) : RepairsTo known id (repairId known id).1 := by
  unfold repairId
  split
  · next isKnown => exact ⟨fun _ => rfl, fun changed => absurd rfl changed, fun unknown => absurd isKnown unknown⟩
  · next unknown =>
    have spec := repairedId?_spec unknown
    split
    · next repaired found =>
      have changed := ne_of_repairedId? unknown found
      rw [found] at spec
      refine ⟨fun isKnown => absurd isKnown unknown, fun _ => spec, fun _ => iff_of_false changed fun none => ?_⟩
      rcases spec with least | ⟨_, least⟩
      · exact (none repaired).1 least.1
      · exact (none repaired).2 least.1
    · next found =>
      rw [found] at spec
      exact ⟨fun isKnown => absurd isKnown unknown, fun changed => absurd rfl changed, fun _ => iff_of_true rfl spec⟩

-- By path before file name, though the id of the latter is smaller; a double colon in the function stays.
example : repairId ["a/llm.rs::chat::ask", "backend/src/llm.rs::chat::ask"] "src/llm.rs::chat::ask" =
    ("backend/src/llm.rs::chat::ask", true) := by
  decide +kernel

/-- An id counts as repaired where it changed. -/
theorem repairId_snd (known : List String) (id : String) :
    (repairId known id).2 = decide (id ≠ (repairId known id).1) := by
  unfold repairId
  split
  · simp
  · next unknown =>
    split
    · next repaired found => simp [(ne_of_repairedId? unknown found).symm]
    · simp

/-- **A second repair has nothing to do.** -/
theorem repairId_repairId (known : List String) (id : String) :
    repairId known (repairId known id).1 = ((repairId known id).1, false) := by
  rw [repairId.eq_def known id]
  split
  · next isKnown => simp [repairId, isKnown]
  · next unknown =>
    split
    · next repaired found => simp [repairId, mem_of_repairedId? unknown found]
    · next found => simp [repairId, unknown, found]

end Id

/-! ## Hints -/

/-- The ids of repaired hints, in their places. -/
theorem nodeIds_repairHints (known : List String) (hints : List WorkflowHint) :
    (repairHints known hints).1.flatMap (·.nodeIds) =
      (hints.flatMap (·.nodeIds)).map fun id => (repairId known id).1 := by
  simp [repairHints, WorkflowHint.repair, List.flatMap_map, List.map_flatMap, Function.comp_def]

/-- The number that repair returns, as a count over the ids of all hints. -/
theorem repairHints_snd (known : List String) (hints : List WorkflowHint) :
    (repairHints known hints).2 = (hints.flatMap (·.nodeIds)).countP fun id => (repairId known id).2 := by
  simp only [repairHints, WorkflowHint.repair, List.map_map, Function.comp_def, List.countP_map, List.countP_flatMap,
    List.sum_eq_foldl]

theorem WorkflowHint.repair_repairsTo (known : List String) (hint : WorkflowHint) :
    hint.RepairsTo known (hint.repair known).1 := by
  refine ⟨rfl, ?_⟩
  simp only [WorkflowHint.repair, List.map_map, List.forall₂_map_right_iff, List.forall₂_same]
  exact fun id _ => repairId_repairsTo known id

theorem repairHints_counts (known : List String) (hints : List WorkflowHint) :
    (repairHints known hints).2 = changedIds hints (repairHints known hints).1 := by
  have pairs : ∀ ids : List String, ids.zip (ids.map fun id => (repairId known id).1) =
      ids.map fun id => (id, (repairId known id).1) := by
    intro ids
    nth_rewrite 1 [← List.map_id ids]
    exact List.zip_map'
  rw [repairHints_snd, changedIds, nodeIds_repairHints, pairs, List.countP_map]
  simp only [repairId_snd, Function.comp_def]

theorem repairHints_again (known : List String) (hints : List WorkflowHint) :
    repairHints known (repairHints known hints).1 = ((repairHints known hints).1, 0) := by
  refine Prod.ext ?_ ?_
  · simp [repairHints, WorkflowHint.repair, Function.comp_def, repairId_repairId]
  · rw [repairHints_snd, nodeIds_repairHints, List.countP_map]
    simp [Function.comp_def, repairId_repairId]

/-- **Repair is sound, minimal and idempotent**, and says how many ids it changed. -/
theorem repairHints_exact (known : List String) (hints : List WorkflowHint) :
    List.Forall₂ (WorkflowHint.RepairsTo known) hints (repairHints known hints).1 ∧
    (repairHints known hints).2 = changedIds hints (repairHints known hints).1 ∧
    repairHints known (repairHints known hints).1 = ((repairHints known hints).1, 0) := by
  refine ⟨?_, repairHints_counts known hints, repairHints_again known hints⟩
  simp only [repairHints, List.map_map, List.forall₂_map_right_iff, List.forall₂_same]
  exact fun hint _ => hint.repair_repairsTo known

end WorkflowAtlas
