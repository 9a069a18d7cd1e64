/-!
# Maps in key order

A **sorted map** from texts to values: its entries have strictly increasing keys, so a key has at
most one value and the entries of a map are determined by its look-ups.
-/

namespace WorkflowAtlas

/-- **A map** whose entries are in strict key order. -/
structure SortedMap (α : Type) where
  entries : List (String × α)
  sorted : entries.Pairwise fun a b => a.1 < b.1

namespace SortedMap

variable {α : Type}

/-- The entries with a key set to a value. -/
def insertEntry (key : String) (value : α) : List (String × α) → List (String × α)
  | [] => [(key, value)]
  | entry :: rest =>
    if key < entry.1 then (key, value) :: entry :: rest
    else if key = entry.1 then (key, value) :: rest
    else entry :: insertEntry key value rest

/-- An entry after setting a key is the new one or was there before. -/
theorem mem_insertEntry {key : String} {value : α} {entry : String × α} {entries : List (String × α)}
    (h : entry ∈ insertEntry key value entries) : entry = (key, value) ∨ entry ∈ entries := by
  induction entries with
  | nil => simp_all [insertEntry]
  | cons first rest ih =>
    rw [insertEntry] at h
    split at h
    · simpa using h
    · split at h
      · simp at h ⊢; grind
      · simp at h ⊢; grind

/-- Setting a key keeps the order. -/
theorem insertEntry_sorted (key : String) (value : α) {entries : List (String × α)}
    (h : entries.Pairwise fun a b => a.1 < b.1) :
    (insertEntry key value entries).Pairwise fun a b => a.1 < b.1 := by
  induction entries with
  | nil => simp [insertEntry]
  | cons first rest ih =>
    obtain ⟨below, tail⟩ := List.pairwise_cons.1 h
    rw [insertEntry]
    split
    · refine List.pairwise_cons.2 ⟨fun entry member => ?_, h⟩
      rcases List.mem_cons.1 member with rfl | member
      · assumption
      · exact String.lt_trans ‹_› (below entry member)
    · split
      · refine List.pairwise_cons.2 ⟨fun entry member => ?_, tail⟩
        have := below entry member
        simp_all
      · refine List.pairwise_cons.2 ⟨fun entry member => ?_, ih tail⟩
        rcases mem_insertEntry member with rfl | member
        · grind
        · exact below entry member

/-- The map without entries. -/
def empty : SortedMap α := ⟨[], .nil⟩

/-- The map with a key set to a value. -/
def insert (map : SortedMap α) (key : String) (value : α) : SortedMap α :=
  ⟨insertEntry key value map.entries, insertEntry_sorted key value map.sorted⟩

/-- **The map of some entries**; of two with one key the later counts. -/
def ofList (entries : List (String × α)) : SortedMap α :=
  entries.foldl (fun map entry => map.insert entry.1 entry.2) empty

/-- The value of a key. -/
def get? (map : SortedMap α) (key : String) : Option α :=
  map.entries.lookup key

/-- Whether a key has a value. -/
def contains (map : SortedMap α) (key : String) : Bool :=
  (map.get? key).isSome

/-- The keys in order. -/
def keys (map : SortedMap α) : List String :=
  map.entries.map (·.1)

/-- The values in the order of their keys. -/
def values (map : SortedMap α) : List α :=
  map.entries.map (·.2)

end SortedMap

/-- Texts in order, each once. -/
def sortedTexts (texts : List String) : List String :=
  (SortedMap.ofList (texts.map (·, ()))).keys

end WorkflowAtlas
