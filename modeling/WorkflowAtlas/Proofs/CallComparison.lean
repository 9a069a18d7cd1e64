import WorkflowAtlas.Proofs.Listing
import WorkflowAtlas.Scan.Views

/-!
# Comparing call graphs

Two call tables have **the same structure** when they name the same functions and give each the same set of
callees. Three things are compared to find out: names, the callees of a name as sets, and calls written as
arrows. Hosts compare a fourth, the structural hash.

**The law** (`changes_exact`): all of them agree. A comparison finds a change exactly where the structure
differs, whatever hashes are stored with the graphs; it lists the names that one table has and the other has
not, and the names of both with other callees; and where it finds none the two tables have one hash.

An arrow may be written for two different calls, so arrows alone would miss changes. They never add one:
tables of the same structure have the same arrows. That tables of different structure have different hashes
is not claimed; see `Proofs.CallEncoding` for what is.
-/

namespace WorkflowAtlas

namespace SortedMap

variable {α : Type}

theorem mem_keys {map : SortedMap α} {key : String} : key ∈ map.keys ↔ ∃ value, map.get? key = some value := by
  unfold keys
  simp only [List.mem_map, Prod.exists, mem_entries_iff, exists_and_right, exists_eq_right]

theorem contains_iff {map : SortedMap α} {key : String} : map.contains key = true ↔ key ∈ map.keys := by
  rw [contains, Option.isSome_iff_exists, mem_keys]

/-- **A map is determined by its look-ups.** -/
theorem entries_eq_of_get? {first second : SortedMap α} (same : ∀ key, first.get? key = second.get? key) :
    first.entries = second.entries := by
  apply eq_of_sorted_keys Prod.fst first.sorted second.sorted
  rintro ⟨key, value⟩
  rw [mem_entries_iff, mem_entries_iff, same]

end SortedMap

namespace CallTable

variable {old new : CallTable} {name : String}

/-! ## Structure -/

/-- The same set of callees, in whatever order and however often they are listed. -/
def SameCallees (before after : List String) : Prop :=
  ∀ callee, callee ∈ before ↔ callee ∈ after

/-- **The same structure**: the same functions, each with the same set of callees. -/
structure SameStructure (old new : CallTable) : Prop where
  names : ∀ name, name ∈ old.keys ↔ name ∈ new.keys
  callees : ∀ name before after, old.get? name = some before → new.get? name = some after → SameCallees before after

theorem sameCallees_iff {before after : List String} : sameCallees before after = true ↔ SameCallees before after := by
  simp only [sameCallees, Bool.and_eq_true, List.all_eq_true, decide_eq_true_eq]
  constructor
  · intro both callee
    exact ⟨both.1 callee, both.2 callee⟩
  · intro same
    exact ⟨fun callee => (same callee).mp, fun callee => (same callee).mpr⟩

/-- **The outline of a table**: each function with its callees in order, each once. -/
def outline (table : CallTable) : CallTable where
  entries := table.entries.map fun entry => (entry.1, sortedTexts entry.2)
  sorted := List.pairwise_map.mpr table.sorted

theorem get?_outline (table : CallTable) (name : String) :
    table.outline.get? name = (table.get? name).map sortedTexts := by
  show (table.entries.map fun entry => (entry.1, sortedTexts entry.2)).lookup name =
    (table.entries.lookup name).map sortedTexts
  induction table.entries with
  | nil => rfl
  | cons entry rest ih =>
    rw [List.map_cons, lookup_cons_ite, lookup_cons_ite, ih]
    split
    · rfl
    · rfl

theorem sortedTexts_eq_iff {before after : List String} :
    sortedTexts before = sortedTexts after ↔ SameCallees before after := by
  constructor
  · intro same callee
    rw [← mem_sortedTexts, same, mem_sortedTexts]
  · intro same
    apply eq_of_sorted (sortedTexts_sorted before) (sortedTexts_sorted after)
    intro callee
    rw [mem_sortedTexts, mem_sortedTexts, same]

/-- **Tables have the same structure exactly where they have the same outline.** -/
theorem outline_eq_iff : old.outline.entries = new.outline.entries ↔ SameStructure old new := by
  constructor
  · intro same
    have found : ∀ name, (old.get? name).map sortedTexts = (new.get? name).map sortedTexts := by
      intro name
      rw [← get?_outline, ← get?_outline, SortedMap.get?, SortedMap.get?, same]
    constructor
    · intro name
      rw [← SortedMap.contains_iff, ← SortedMap.contains_iff, SortedMap.contains, SortedMap.contains,
        ← Option.isSome_map (f := sortedTexts), found, Option.isSome_map]
    · intro name before after was is
      have both := found name
      rw [was, is, Option.map_some, Option.map_some, Option.some.injEq] at both
      exact sortedTexts_eq_iff.mp both
  · intro same
    apply SortedMap.entries_eq_of_get?
    intro name
    rw [get?_outline, get?_outline]
    have known := same.names name
    rw [SortedMap.mem_keys, SortedMap.mem_keys] at known
    cases was : old.get? name with
    | none =>
      cases is : new.get? name with
      | none => rfl
      | some after => simp [was, is] at known
    | some before =>
      cases is : new.get? name with
      | none => simp [was, is] at known
      | some after => rw [Option.map_some, Option.map_some, sortedTexts_eq_iff.mpr (same.callees name _ _ was is)]

theorem SameStructure.symm (same : SameStructure old new) : SameStructure new old :=
  outline_eq_iff.mp (outline_eq_iff.mpr same).symm

/-- The bytes of a table are those of its outline. -/
theorem encode_eq (table : CallTable) : table.encode = table.outline.entries.flatMap fun entry =>
    encodeText entry.1 ++ encodeNat entry.2.length ++ entry.2.flatMap encodeText := by
  simp only [encode, outline, List.flatMap_map, encodeEntry]

/-- **Tables of the same structure have one hash.** -/
theorem SameStructure.structuralHash_eq (same : SameStructure old new) :
    old.structuralHash = new.structuralHash := by
  unfold structuralHash
  rw [encode_eq, encode_eq, outline_eq_iff.mpr same]

/-! ## What a comparison lists -/

theorem mem_addedFunctions : name ∈ (old.changes new).addedFunctions ↔ name ∈ new.keys ∧ name ∉ old.keys := by
  simp only [changes, List.mem_filter, Bool.not_eq_true', ← SortedMap.contains_iff, Bool.not_eq_true]

theorem mem_removedFunctions : name ∈ (old.changes new).removedFunctions ↔ name ∈ old.keys ∧ name ∉ new.keys := by
  simp only [changes, List.mem_filter, Bool.not_eq_true', ← SortedMap.contains_iff, Bool.not_eq_true]

theorem mem_modifiedFunctions : name ∈ (old.changes new).modifiedFunctions ↔
    ∃ before after, old.get? name = some before ∧ new.get? name = some after ∧ ¬ SameCallees before after := by
  simp only [changes, List.mem_map, List.mem_filter, Option.any_eq_true, Bool.not_eq_true', Prod.exists,
    SortedMap.mem_entries_iff]
  constructor
  · rintro ⟨key, after, ⟨is, before, was, differ⟩, rfl⟩
    refine ⟨before, after, was, is, ?_⟩
    rw [← sameCallees_iff, differ]
    exact Bool.false_ne_true
  · rintro ⟨before, after, was, is, differ⟩
    refine ⟨name, after, ⟨is, before, was, ?_⟩, rfl⟩
    exact Bool.eq_false_iff.mpr (mt sameCallees_iff.mp differ)

theorem mem_arrows {table : CallTable} {text : String} : text ∈ table.arrows ↔
    ∃ name callees, table.get? name = some callees ∧ ∃ callee ∈ callees, arrow name callee = text := by
  simp only [arrows, mem_sortedTexts, List.mem_flatMap, List.mem_map, Prod.exists, SortedMap.mem_entries_iff]

/-- A table has the arrows of any table of the same structure. -/
theorem SameStructure.mem_arrows {text : String} (same : SameStructure old new) (isArrow : text ∈ old.arrows) :
    text ∈ new.arrows := by
  obtain ⟨name, before, was, callee, isCallee, rfl⟩ := CallTable.mem_arrows.mp isArrow
  obtain ⟨after, is⟩ := SortedMap.mem_keys.mp ((same.names name).mp (SortedMap.mem_keys.mpr ⟨before, was⟩))
  exact CallTable.mem_arrows.mpr ⟨name, after, is, callee, (same.callees name _ _ was is callee).mp isCallee, rfl⟩

/-- **A comparison lists nothing exactly where the structure is the same.** -/
theorem changes_eq_none_iff : old.changes new = {} ↔ SameStructure old new := by
  constructor
  · intro none
    have noneAdded : ∀ name, name ∉ (old.changes new).addedFunctions := by simp [none]
    have noneRemoved : ∀ name, name ∉ (old.changes new).removedFunctions := by simp [none]
    have noneModified : ∀ name, name ∉ (old.changes new).modifiedFunctions := by simp [none]
    simp only [mem_addedFunctions, mem_removedFunctions, not_and_not_right] at noneAdded noneRemoved
    constructor
    · intro name
      exact ⟨noneRemoved name, noneAdded name⟩
    · intro name before after was is
      by_contra differ
      exact noneModified name (mem_modifiedFunctions.mpr ⟨before, after, was, is, differ⟩)
  · intro same
    apply CallChanges.ext
    · apply List.eq_nil_iff_forall_not_mem.mpr
      intro name isAdded
      obtain ⟨isNew, isOld⟩ := mem_addedFunctions.mp isAdded
      exact isOld ((same.names name).mpr isNew)
    · apply List.eq_nil_iff_forall_not_mem.mpr
      intro name isRemoved
      obtain ⟨isOld, isNew⟩ := mem_removedFunctions.mp isRemoved
      exact isNew ((same.names name).mp isOld)
    · apply List.eq_nil_iff_forall_not_mem.mpr
      intro name isModified
      obtain ⟨before, after, was, is, differ⟩ := mem_modifiedFunctions.mp isModified
      exact differ (same.callees name before after was is)
    · apply List.filter_eq_nil_iff.mpr
      intro text isArrow
      simpa using same.symm.mem_arrows isArrow
    · apply List.filter_eq_nil_iff.mpr
      intro text isArrow
      simpa using same.mem_arrows isArrow

end CallTable

/-! ## Call graphs -/

theorem CallChanges.isChange_eq_false_iff {changes : CallChanges} : changes.isChange = false ↔ changes = {} := by
  cases changes
  simp [isChange, and_assoc]

/-- **A report of what differs between two tables**: names by what happened to them, each once and in order,
and whether there is a change of structure. -/
structure CallChanges.Reports (changes : CallChanges) (old new : CallTable) : Prop where
  added : ∀ name, name ∈ changes.addedFunctions ↔ name ∈ new.keys ∧ name ∉ old.keys
  removed : ∀ name, name ∈ changes.removedFunctions ↔ name ∈ old.keys ∧ name ∉ new.keys
  modified : ∀ name, name ∈ changes.modifiedFunctions ↔
    ∃ before after, old.get? name = some before ∧ new.get? name = some after ∧
      ¬ CallTable.SameCallees before after
  ordered : ∀ names ∈ [changes.addedFunctions, changes.removedFunctions, changes.modifiedFunctions],
    names.Pairwise (· < ·)
  isChange : changes.isChange = false ↔ CallTable.SameStructure old new

theorem CallTable.changes_reports (old new : CallTable) : (old.changes new).Reports old new where
  added := fun _ => mem_addedFunctions
  removed := fun _ => mem_removedFunctions
  modified := fun _ => mem_modifiedFunctions
  ordered := by
    intro names isList
    simp only [List.mem_cons, List.not_mem_nil, or_false] at isList
    rcases isList with rfl | rfl | rfl
    · exact new.keys_sorted.sublist List.filter_sublist
    · exact old.keys_sorted.sublist List.filter_sublist
    · exact List.pairwise_map.mpr (new.sorted.sublist List.filter_sublist)
  isChange := by
    rw [CallChanges.isChange_eq_false_iff]
    exact changes_eq_none_iff

namespace FileCallGraph

/-- **Not comparing further changes no answer**: graphs are passed over only where they have the same calls,
and the hashes stored with them decide nothing. -/
theorem changes_eq (old new : FileCallGraph) : old.changes new = old.calls.changes new.calls := by
  unfold changes
  split
  · next passed =>
    symm
    apply CallTable.changes_eq_none_iff.mpr
    apply CallTable.outline_eq_iff.mp
    simp only [CallTable.outline, passed.2]
  · rfl

/-- **Comparing call graphs reports the changes of structure**, whatever hashes are stored; and where there is
none, the two tables have one hash. -/
theorem changes_exact (old new : FileCallGraph) : (old.changes new).Reports old.calls new.calls ∧
    ((old.changes new).isChange = false → old.calls.structuralHash = new.calls.structuralHash) := by
  have reports := CallTable.changes_reports old.calls new.calls
  rw [changes_eq]
  refine ⟨reports, fun unchanged => ?_⟩
  exact (reports.isChange.mp unchanged).structuralHash_eq

/-- A graph in which `a` has the given callees, stored with a hash. -/
def stored (callees : List String) (structuralHash : String) : FileCallGraph where
  file := ⟨"m.py"⟩
  calls := .ofList [("a", callees), ("b", [])]
  structuralHash := structuralHash

theorem changes_exact_reordered :
    ((stored ["b", "c", "b"] "0").changes (stored ["c", "b"] "1")).isChange = false ∧
    (stored ["b", "c", "b"] "0").calls.structuralHash = (stored ["c", "b"] "1").calls.structuralHash := by
  have unchanged : ((stored ["b", "c", "b"] "0").changes (stored ["c", "b"] "1")).isChange = false := by
    decide +kernel
  exact ⟨unchanged, (changes_exact _ _).2 unchanged⟩

end FileCallGraph

end WorkflowAtlas
