import WorkflowAtlas.Proofs.Listing
import WorkflowAtlas.Workflow.Changes

/-!
# Comparing items by key

A change set reads each of two lists as a map from a key to the last item that has it (`lastWith`).
Three lemmas say what stands in it (`mem_added`, `mem_updated`, `mem_removed`), three that its keys
increase; everything else follows from these. **The laws**, for a comparison that decides whether items
are alike:

* turned around, a change set swaps the keys of what is added and removed and keeps the keys of what is
  updated (`keys_added_swap`, `keys_updated_swap`);
* it is empty exactly where the two maps have the same keys with items alike (`isEmpty_iff`);
* applied to the old map it gives the new one, as far as the comparison looks (`between_patches`).

The last two rest on one fact: a key is in no list of a change set exactly where its two items are alike
(`notMem_keys_iff`).

Nothing is assumed of the lists: keys may repeat and come in any order.
-/

namespace WorkflowAtlas

variable {α : Type} {key : α → String} {items old new : List α} {item : α} {id : String}

/-- **The last of the items that have a key.** -/
def lastWith (key : α → String) (items : List α) (id : String) : Option α :=
  items.reverse.find? (key · == id)

theorem key_of_lastWith (found : lastWith key items id = some item) : key item = id := by
  simpa using List.find?_some found

theorem mem_of_lastWith (found : lastWith key items id = some item) : item ∈ items :=
  List.mem_reverse.mp (List.mem_of_find?_eq_some found)

theorem lastWith_eq_none_iff : lastWith key items id = none ↔ id ∉ items.map key := by
  simp [lastWith]

/-- Where keys are listed once, the last item of a key is the one that has it. -/
theorem lastWith_eq_some_iff (once : (items.map key).Nodup) :
    lastWith key items id = some item ↔ item ∈ items ∧ key item = id := by
  constructor
  · intro found
    exact ⟨mem_of_lastWith found, key_of_lastWith found⟩
  · rintro ⟨isItem, rfl⟩
    cases found : lastWith key items (key item) with
    | none => exact absurd (List.mem_map_of_mem isItem) (lastWith_eq_none_iff.mp found)
    | some other =>
      rw [List.inj_on_of_nodup_map once (mem_of_lastWith found) isItem (key_of_lastWith found)]

/-- **A comparison that decides** whether items are alike. -/
structure Decides (differs : α → α → Bool) (alike : α → α → Prop) : Prop where
  refl : ∀ a, alike a a
  symm : ∀ {a b}, alike a b → alike b a
  exact : ∀ a b, differs a b = false ↔ alike a b

theorem Decides.differs_comm {differs : α → α → Bool} {alike : α → α → Prop} (decides : Decides differs alike)
    (a b : α) : differs a b = differs b a := by
  have swap : differs a b = false ↔ differs b a = false := by
    rw [decides.exact, decides.exact]
    exact ⟨decides.symm, decides.symm⟩
  cases ab : differs a b with
  | false => exact (swap.mp ab).symm
  | true =>
    cases ba : differs b a with
    | false => rw [swap.mpr ba] at ab; cases ab
    | true => rfl

theorem Decides.rel_refl {differs : α → α → Bool} {alike : α → α → Prop} (decides : Decides differs alike)
    (found : Option α) : Option.Rel alike found found := by
  cases found with
  | none => exact .none
  | some item => exact .some (decides.refl item)

namespace ChangeSet

variable {differs : α → α → Bool} {alike agrees : α → α → Prop}

theorem get?_keyed (key : α → String) (items : List α) (id : String) :
    (keyed key items).get? id = lastWith key items id := by
  rw [keyed, SortedMap.get?_ofList, ← List.map_reverse, lastWith]
  induction items.reverse with
  | nil => rfl
  | cons first rest ih =>
    rw [List.map_cons, lookup_cons_ite, ih, List.find?_cons]
    by_cases same : key first = id
    · simp [same]
    · rw [if_neg (Ne.symm same), beq_eq_false_iff_ne.mpr same]

theorem mem_entries_keyed : (id, item) ∈ (keyed key items).entries ↔ lastWith key items id = some item := by
  rw [← get?_keyed]
  exact SortedMap.mem_entries_iff

/-! ## What stands in a change set -/

theorem mem_added : item ∈ (between key differs old new).added ↔
    lastWith key old (key item) = none ∧ lastWith key new (key item) = some item := by
  simp only [between, List.mem_map, List.mem_filter, Prod.exists, mem_entries_keyed, SortedMap.contains, get?_keyed]
  constructor
  · rintro ⟨id, item, ⟨found, isNew⟩, rfl⟩
    obtain rfl := key_of_lastWith found
    exact ⟨by simpa using isNew, found⟩
  · rintro ⟨isNew, found⟩
    exact ⟨key item, item, ⟨found, by simp [isNew]⟩, rfl⟩

theorem mem_updated : item ∈ (between key differs old new).updated ↔
    (∃ before, lastWith key old (key item) = some before ∧ differs before item = true) ∧
      lastWith key new (key item) = some item := by
  simp only [between, List.mem_map, List.mem_filter, Prod.exists, mem_entries_keyed, get?_keyed, Option.any_eq_true]
  constructor
  · rintro ⟨id, item, ⟨found, changed⟩, rfl⟩
    obtain rfl := key_of_lastWith found
    exact ⟨changed, found⟩
  · rintro ⟨changed, found⟩
    exact ⟨key item, item, ⟨found, changed⟩, rfl⟩

theorem mem_removed : id ∈ (between key differs old new).removed ↔
    (∃ before, lastWith key old id = some before) ∧ lastWith key new id = none := by
  simp only [between, SortedMap.keys, List.mem_filter, List.mem_map, Prod.exists, mem_entries_keyed,
    SortedMap.contains, get?_keyed]
  constructor
  · rintro ⟨⟨id, before, found, rfl⟩, gone⟩
    exact ⟨⟨before, found⟩, by simpa using gone⟩
  · rintro ⟨⟨before, found⟩, gone⟩
    exact ⟨⟨id, before, found, rfl⟩, by simp [gone]⟩

theorem mem_keys_added : id ∈ (between key differs old new).added.map key ↔
    lastWith key old id = none ∧ ∃ after, lastWith key new id = some after := by
  rw [List.mem_map]
  constructor
  · rintro ⟨item, isAdded, rfl⟩
    obtain ⟨isNew, found⟩ := mem_added.mp isAdded
    exact ⟨isNew, item, found⟩
  · rintro ⟨isNew, after, found⟩
    obtain rfl := key_of_lastWith found
    exact ⟨after, mem_added.mpr ⟨isNew, found⟩, rfl⟩

theorem mem_keys_updated : id ∈ (between key differs old new).updated.map key ↔
    ∃ before after, lastWith key old id = some before ∧ lastWith key new id = some after ∧
      differs before after = true := by
  rw [List.mem_map]
  constructor
  · rintro ⟨item, isUpdated, rfl⟩
    obtain ⟨⟨before, was, changed⟩, found⟩ := mem_updated.mp isUpdated
    exact ⟨before, item, was, found, changed⟩
  · rintro ⟨before, after, was, found, changed⟩
    obtain rfl := key_of_lastWith found
    exact ⟨after, mem_updated.mpr ⟨⟨before, was, changed⟩, found⟩, rfl⟩

/-- Items picked from a map of items by key are in the order of their keys. -/
theorem sorted_keys_filter (items : List α) (pick : String × α → Bool) :
    ((((keyed key items).entries.filter pick).map (·.2)).map key).Pairwise (· < ·) := by
  rw [List.map_map, List.pairwise_map]
  refine List.Pairwise.imp_of_mem ?_ ((keyed key items).sorted.sublist List.filter_sublist)
  intro a b isFirst isSecond before
  have keyFirst := key_of_lastWith (mem_entries_keyed.mp (List.mem_filter.mp isFirst).1)
  have keySecond := key_of_lastWith (mem_entries_keyed.mp (List.mem_filter.mp isSecond).1)
  simpa [keyFirst, keySecond] using before

theorem sorted_added (differs : α → α → Bool) (old new : List α) :
    ((between key differs old new).added.map key).Pairwise (· < ·) :=
  sorted_keys_filter new _

theorem sorted_updated (differs : α → α → Bool) (old new : List α) :
    ((between key differs old new).updated.map key).Pairwise (· < ·) :=
  sorted_keys_filter new _

theorem sorted_removed (differs : α → α → Bool) (old new : List α) :
    (between key differs old new).removed.Pairwise (· < ·) :=
  (keyed key old).keys_sorted.sublist List.filter_sublist

/-! ## Turned around -/

/-- **What is added one way is removed the other way.** -/
theorem keys_added_swap (key : α → String) (differs : α → α → Bool) (old new : List α) :
    (between key differs old new).added.map key = (between key differs new old).removed := by
  refine eq_of_sorted (sorted_added differs old new) (sorted_removed differs new old) fun id => ?_
  rw [mem_keys_added, mem_removed, and_comm]

/-- **What is updated one way is updated the other way.** -/
theorem keys_updated_swap (decides : Decides differs alike) (key : α → String) (old new : List α) :
    (between key differs old new).updated.map key = (between key differs new old).updated.map key := by
  refine eq_of_sorted (sorted_updated differs old new) (sorted_updated differs new old) fun id => ?_
  rw [mem_keys_updated, mem_keys_updated]
  constructor
  · rintro ⟨before, after, was, is, changed⟩
    exact ⟨after, before, is, was, decides.differs_comm before after ▸ changed⟩
  · rintro ⟨after, before, is, was, changed⟩
    exact ⟨before, after, was, is, decides.differs_comm before after ▸ changed⟩

/-! ## Keys without a change -/

/-- **A key is in no list of a change set exactly where its two items are alike**, or there are none. -/
theorem notMem_keys_iff (decides : Decides differs alike) :
    (id ∉ (between key differs old new).added.map key ∧ id ∉ (between key differs old new).removed ∧
      id ∉ (between key differs old new).updated.map key) ↔
      Option.Rel alike (lastWith key old id) (lastWith key new id) := by
  rw [mem_keys_added, mem_removed, mem_keys_updated]
  constructor
  · rintro ⟨notAdded, notRemoved, notUpdated⟩
    cases was : lastWith key old id with
    | none =>
      cases is : lastWith key new id with
      | none => exact .none
      | some after => exact absurd ⟨was, after, is⟩ notAdded
    | some before =>
      cases is : lastWith key new id with
      | none => exact absurd ⟨⟨before, was⟩, is⟩ notRemoved
      | some after =>
        refine .some ((decides.exact before after).mp ?_)
        exact Bool.eq_false_iff.mpr fun changed => notUpdated ⟨before, after, was, is, changed⟩
  · intro both
    refine ⟨?_, ?_, ?_⟩
    · rintro ⟨was, after, is⟩
      rw [was, is] at both
      cases both
    · rintro ⟨⟨before, was⟩, is⟩
      rw [was, is] at both
      cases both
    · rintro ⟨before, after, was, is, changed⟩
      rw [was, is] at both
      obtain ⟨isAlike⟩ := both
      rw [(decides.exact before after).mpr isAlike] at changed
      cases changed

/-! ## Empty change sets -/

theorem isEmpty_eq_true_iff {set : ChangeSet α} (key : α → String) :
    set.isEmpty = true ↔ set.added.map key = [] ∧ set.removed = [] ∧ set.updated.map key = [] := by
  simp [isEmpty, and_assoc]

theorem isEmpty_swap (decides : Decides differs alike) (key : α → String) (old new : List α) :
    (between key differs old new).isEmpty = (between key differs new old).isEmpty := by
  rw [Bool.eq_iff_iff, isEmpty_eq_true_iff key, isEmpty_eq_true_iff key, keys_added_swap, keys_added_swap,
    keys_updated_swap decides]
  exact and_left_comm

/-- **A change set is empty exactly where both lists have the same keys, with items alike.** -/
theorem isEmpty_iff (decides : Decides differs alike) : (between key differs old new).isEmpty = true ↔
    ∀ id, Option.Rel alike (lastWith key old id) (lastWith key new id) := by
  rw [isEmpty_eq_true_iff key]
  simp only [List.eq_nil_iff_forall_not_mem, ← forall_and, notMem_keys_iff decides]

theorem isEmpty_self (decides : Decides differs alike) (key : α → String) (items : List α) :
    (between key differs items items).isEmpty = true :=
  (isEmpty_iff decides).mpr fun _ => decides.rel_refl _

/-! ## Patches -/

/-- **A change set applied** to a map: the keys that are removed lose their item, and those of items that
are added or updated get them. -/
def applyTo (key : α → String) (set : ChangeSet α) (before : String → Option α) (id : String) : Option α :=
  (lastWith key (set.added ++ set.updated) id).or (if id ∈ set.removed then none else before id)

/-- The keys of a change set, by what happens to them. -/
def keyLists (key : α → String) (set : ChangeSet α) : List (List String) :=
  [set.added.map key, set.updated.map key, set.removed]

/-- **A change set is a patch** from one list of items to another, as far as `agrees` looks. -/
structure Patches (key : α → String) (agrees : α → α → Prop) (old new : List α) (set : ChangeSet α) : Prop where
  /-- Applied to the last old items it has the keys of the new ones, and where both have a key they agree. -/
  patched : ∀ id, Option.Rel agrees (set.applyTo key (lastWith key old) id) (lastWith key new id)
  increasing : ∀ keys ∈ set.keyLists key, keys.Pairwise (· < ·)
  disjoint : (set.keyLists key).Pairwise List.Disjoint

/-- What is set by a change set is the new item of its key. -/
theorem lastWith_new_of_set (isSet : lastWith key ((between key differs old new).added ++
    (between key differs old new).updated) id = some item) : lastWith key new id = some item := by
  obtain rfl := key_of_lastWith isSet
  rcases List.mem_append.mp (mem_of_lastWith isSet) with isAdded | isUpdated
  · exact (mem_added.mp isAdded).2
  · exact (mem_updated.mp isUpdated).2

/-- **A change set applied to the old items gives the new ones**, as far as the comparison looks. -/
theorem applyTo_between (decides : Decides differs alike)
    (agree : ∀ {a b}, key a = key b → alike a b → agrees a b) (old new : List α) (id : String) :
    Option.Rel agrees ((between key differs old new).applyTo key (lastWith key old) id) (lastWith key new id) := by
  unfold applyTo
  cases isSet : lastWith key ((between key differs old new).added ++ (between key differs old new).updated) id with
  | some item =>
    rw [lastWith_new_of_set isSet, Option.some_or]
    exact .some (agree rfl (decides.refl item))
  | none =>
    rw [Option.none_or]
    by_cases isRemoved : id ∈ (between key differs old new).removed
    · rw [if_pos isRemoved, (mem_removed.mp isRemoved).2]
      exact .none
    · rw [if_neg isRemoved]
      rw [lastWith_eq_none_iff, List.map_append, List.mem_append, not_or] at isSet
      have both := (notMem_keys_iff decides).mp ⟨isSet.1, isRemoved, isSet.2⟩
      generalize was : lastWith key old id = before, is : lastWith key new id = after at both ⊢
      cases both with
      | none => exact .none
      | some isAlike => exact .some (agree ((key_of_lastWith was).trans (key_of_lastWith is).symm) isAlike)

/-- A key is in one list of a change set at most. -/
theorem disjoint_keyLists (differs : α → α → Bool) (old new : List α) :
    ((between key differs old new).keyLists key).Pairwise List.Disjoint := by
  have addedUpdated : List.Disjoint ((between key differs old new).added.map key)
      ((between key differs old new).updated.map key) := by
    intro id isAdded isUpdated
    obtain ⟨before, _, was, _⟩ := mem_keys_updated.mp isUpdated
    rw [(mem_keys_added.mp isAdded).1] at was
    cases was
  have addedRemoved : List.Disjoint ((between key differs old new).added.map key)
      (between key differs old new).removed := by
    intro id isAdded isRemoved
    obtain ⟨before, was⟩ := (mem_removed.mp isRemoved).1
    rw [(mem_keys_added.mp isAdded).1] at was
    cases was
  have updatedRemoved : List.Disjoint ((between key differs old new).updated.map key)
      (between key differs old new).removed := by
    intro id isUpdated isRemoved
    obtain ⟨_, after, _, is, _⟩ := mem_keys_updated.mp isUpdated
    rw [(mem_removed.mp isRemoved).2] at is
    cases is
  simp [keyLists, addedUpdated, addedRemoved, updatedRemoved]

/-- **Comparing two lists gives a patch between them.** -/
theorem between_patches (decides : Decides differs alike)
    (agree : ∀ {a b}, key a = key b → alike a b → agrees a b) (old new : List α) :
    (between key differs old new).Patches key agrees old new where
  patched := applyTo_between decides agree old new
  increasing := by
    simp only [keyLists, List.forall_mem_cons]
    exact ⟨sorted_added differs old new, sorted_updated differs old new, sorted_removed differs old new, by simp⟩
  disjoint := disjoint_keyLists differs old new

end ChangeSet

end WorkflowAtlas
