import Mathlib.Data.List.Nodup
import WorkflowAtlas.SortedMap

/-!
# Lists without repetition

Two ways of listing things once. **By first occurrence**: `eraseDups` keeps the first of equal items,
and entries with one key give way to the first of them, which is the one a look-up finds. **In key
order**: the keys of a sorted map, and so the texts of `sortedTexts`, increase strictly. A list is then
determined by its members.

Before them, the one fact about reading a list back that does not depend on order: a mark that one side
does not have cuts a list in one way.
-/

namespace WorkflowAtlas

variable {α β : Type}

/-- Where keys differ, a key tells the place of its item. -/
theorem index_eq_of_nodup_map {key : α → β} {items : List α} (unique : (items.map key).Nodup) {i j : Nat} {a b : α}
    (atI : items[i]? = some a) (atJ : items[j]? = some b) (same : key a = key b) : i = j := by
  have inRange : i < (items.map key).length := by
    rw [List.length_map]
    exact (List.getElem?_eq_some_iff.mp atI).1
  refine (List.getElem?_inj inRange unique).mp ?_
  rw [List.getElem?_map, List.getElem?_map, atI, atJ]
  exact congrArg some same

/-! ## Around a mark -/

/-- A list is cut at the first place of a mark in one way. -/
theorem append_cons_inj_of_notMem_left {mark : α} {front front' back back' : List α}
    (absent : mark ∉ front) (absent' : mark ∉ front')
    (same : front ++ mark :: back = front' ++ mark :: back') : front = front' ∧ back = back' := by
  induction front generalizing front' with
  | nil =>
    cases front' with
    | nil => exact ⟨rfl, (List.cons.inj same).2⟩
    | cons first rest => exact absurd ((List.cons.inj same).1 ▸ List.mem_cons_self) absent'
  | cons first rest ih =>
    cases front' with
    | nil => exact absurd ((List.cons.inj same).1 ▸ List.mem_cons_self) absent
    | cons other rest' =>
      obtain ⟨rfl, tails⟩ := List.cons.inj same
      obtain ⟨rfl, backs⟩ := ih (List.not_mem_of_not_mem_cons absent) (List.not_mem_of_not_mem_cons absent') tails
      exact ⟨rfl, backs⟩

/-- A list is cut at the last place of a mark in one way. -/
theorem append_cons_inj_of_notMem_right {mark : α} {front front' back back' : List α}
    (absent : mark ∉ back) (absent' : mark ∉ back')
    (same : front ++ mark :: back = front' ++ mark :: back') : front = front' ∧ back = back' := by
  have reversed : back.reverse ++ mark :: front.reverse = back'.reverse ++ mark :: front'.reverse := by
    simpa using congrArg List.reverse same
  rw [← List.mem_reverse] at absent absent'
  obtain ⟨backs, fronts⟩ := append_cons_inj_of_notMem_left absent absent' reversed
  exact ⟨List.reverse_injective fronts, List.reverse_injective backs⟩

/-! ## By first occurrence -/

/-- Kept by first occurrence, no item is listed twice. -/
theorem nodup_eraseDups [BEq α] [LawfulBEq α] : ∀ items : List α, items.eraseDups.Nodup
  | [] => by simp
  | item :: rest => by
    rw [List.eraseDups_cons, List.nodup_cons]
    refine ⟨?_, nodup_eraseDups _⟩
    intro again
    have kept := (List.mem_filter.mp (List.mem_eraseDups.mp again)).2
    simp at kept
termination_by items => items.length
decreasing_by exact Nat.lt_succ_of_le (List.length_filter_le _ rest)

/-- What is listed once is kept as it is. -/
theorem eraseDups_of_nodup [BEq α] [LawfulBEq α] {items : List α} (once : items.Nodup) : items.eraseDups = items := by
  induction items with
  | nil => rfl
  | cons item rest ih =>
    obtain ⟨absent, once⟩ := List.nodup_cons.mp once
    have others : rest.filter (fun other => !other == item) = rest := by
      apply List.filter_eq_self.mpr
      intro other member
      have differs : other ≠ item := fun same => absent (same ▸ member)
      simpa using differs
    rw [List.eraseDups_cons, others, ih once]

/-- It does not matter whether items are left out before repetitions or after them. -/
theorem filter_eraseDups [BEq α] [LawfulBEq α] (keep : α → Bool) : ∀ items : List α,
    items.eraseDups.filter keep = (items.filter keep).eraseDups
  | [] => rfl
  | item :: rest => by
    have ih := filter_eraseDups keep (rest.filter fun other => !other == item)
    rw [List.eraseDups_cons]
    cases kept : keep item with
    | true =>
      rw [List.filter_cons_of_pos kept, List.filter_cons_of_pos kept, List.eraseDups_cons, ih, List.filter_filter,
        List.filter_filter]
      simp only [Bool.and_comm]
    | false =>
      have others : (rest.filter fun other => !other == item).filter keep = rest.filter keep := by
        rw [List.filter_filter]
        refine List.filter_congr fun other _ => ?_
        by_cases same : other = item
        · simp [same, kept]
        · simp [same]
      rw [List.filter_cons_of_neg (by simp [kept]), List.filter_cons_of_neg (by simp [kept]), ih, others]
termination_by items => items.length
decreasing_by exact Nat.lt_succ_of_le (List.length_filter_le _ rest)

@[simp]
theorem eraseDups_append_left [BEq α] [LawfulBEq α] (first second : List α) :
    (first.eraseDups ++ second).eraseDups = (first ++ second).eraseDups := by
  have left : second.removeAll first.eraseDups = second.removeAll first := by
    refine List.filter_congr fun item _ => ?_
    simp [List.elem_eq_contains]
  rw [List.eraseDups_append, List.eraseDups_append, eraseDups_of_nodup (nodup_eraseDups first), left]

@[simp]
theorem eraseDups_append_right [BEq α] [LawfulBEq α] (first second : List α) :
    (first ++ second.eraseDups).eraseDups = (first ++ second).eraseDups := by
  have left : (second.eraseDups.removeAll first).eraseDups = (second.removeAll first).eraseDups := by
    show (second.eraseDups.filter _).eraseDups = _
    rw [filter_eraseDups]
    exact eraseDups_of_nodup (nodup_eraseDups _)
  rw [List.eraseDups_append, List.eraseDups_append, left]

/-- **The items of a list in the order in which they are first seen.** Order and membership leave only one such
list, and none of its items stands in it twice. -/
structure FirstSeen [DecidableEq α] (occurrences items : List α) : Prop where
  mem_iff : ∀ item, item ∈ items ↔ item ∈ occurrences
  ordered : items.Pairwise fun a b => occurrences.idxOf a < occurrences.idxOf b

theorem FirstSeen.nodup [DecidableEq α] {occurrences items : List α} (firstSeen : FirstSeen occurrences items) :
    items.Nodup := by
  refine firstSeen.ordered.imp ?_
  rintro a b before rfl
  exact Nat.lt_irrefl _ before

/-- Leaving items out does not change which of two others is seen first. -/
theorem idxOf_lt_of_filter [DecidableEq α] {keep : α → Bool} {a b : α} (keepsA : keep a) (keepsB : keep b)
    {items : List α} (before : (items.filter keep).idxOf a < (items.filter keep).idxOf b) :
    items.idxOf a < items.idxOf b := by
  induction items with
  | nil => simp at before
  | cons item rest ih =>
    by_cases isA : item = a
    · subst isA
      by_cases isB : item = b
      · subst isB
        exact absurd before (Nat.lt_irrefl _)
      · rw [List.idxOf_cons_self, List.idxOf_cons_ne rest isB]
        exact Nat.succ_pos _
    · by_cases isB : item = b
      · subst isB
        rw [List.filter_cons_of_pos keepsB, List.idxOf_cons_self] at before
        exact absurd before (Nat.not_lt_zero _)
      · rw [List.idxOf_cons_ne rest isA, List.idxOf_cons_ne rest isB]
        refine Nat.succ_lt_succ (ih ?_)
        rw [List.filter_cons] at before
        split at before
        · rw [List.idxOf_cons_ne _ isA, List.idxOf_cons_ne _ isB] at before
          exact Nat.lt_of_succ_lt_succ before
        · exact before

/-- **Keeping first occurrences lists items as they are first seen.** -/
theorem firstSeen_eraseDups [DecidableEq α] : ∀ items : List α, FirstSeen items items.eraseDups
  | [] => ⟨by simp, by simp⟩
  | item :: rest => by
    refine ⟨fun _ => List.mem_eraseDups, ?_⟩
    rw [List.eraseDups_cons, List.pairwise_cons]
    have differs : ∀ other ∈ (rest.filter fun b => !b == item).eraseDups, item ≠ other := by
      intro other member
      have kept : other ≠ item := by simpa using (List.mem_filter.mp (List.mem_eraseDups.mp member)).2
      exact kept.symm
    constructor
    · intro other member
      rw [List.idxOf_cons_self, List.idxOf_cons_ne rest (differs other member)]
      exact Nat.succ_pos _
    · refine (firstSeen_eraseDups _).ordered.imp_of_mem ?_
      intro a b isA isB before
      have otherA := differs a isA
      have otherB := differs b isB
      rw [List.idxOf_cons_ne rest otherA, List.idxOf_cons_ne rest otherB]
      refine Nat.succ_lt_succ (idxOf_lt_of_filter ?_ ?_ before)
      · simpa using otherA.symm
      · simpa using otherB.symm
termination_by items => items.length
decreasing_by exact Nat.lt_succ_of_le (List.length_filter_le _ rest)

/-- Items kept by the first occurrence of their key have the keys kept by first occurrence. -/
theorem map_eraseDupsBy [BEq β] (key : α → β) : ∀ items : List α,
    (items.eraseDupsBy fun a b => key a == key b).map key = (items.map key).eraseDups
  | [] => rfl
  | item :: rest => by
    rw [List.eraseDupsBy_cons, List.map_cons, List.map_cons, List.eraseDups_cons, map_eraseDupsBy,
      List.filter_map]
    congr 4
    funext other
    simp only [Function.comp_apply]
    cases key other == key item <;> rfl
termination_by items => items.length
decreasing_by exact Nat.lt_succ_of_le (List.length_filter_le _ rest)

/-- **Kept by first occurrence of a key are the items that are found first by their own.** -/
theorem mem_eraseDupsBy_key [BEq β] [LawfulBEq β] {key : α → β} {item : α} : ∀ {items : List α},
    item ∈ items.eraseDupsBy (fun a b => key a == key b) ↔ items.find? (key · == key item) = some item
  | [] => by simp
  | first :: rest => by
    rw [List.eraseDupsBy_cons, List.mem_cons, mem_eraseDupsBy_key, List.find?_filter, List.find?_cons]
    cases same : key first == key item with
    | true =>
      have differs : ∀ b ∈ rest, ¬ ((key b == key first) = false ∧ key b == key item) := by
        rintro b _ ⟨other, own⟩
        rw [beq_iff_eq.mp own, beq_iff_eq.mp same, beq_self_eq_true] at other
        exact Bool.noConfusion other
      rw [List.find?_eq_none.mpr (by simpa using differs)]
      simp [eq_comm]
    | false =>
      have skip : item ≠ first := by
        rintro rfl
        simp at same
      have agree : (fun b => decide (decide ((key b == key first) = false) = true ∧ (key b == key item) = true)) =
          (key · == key item) := by
        funext b
        cases own : key b == key item with
        | false => simp
        | true =>
          have other : (key b == key first) = false := by
            rw [beq_iff_eq.mp own, beq_eq_false_iff_ne]
            exact (beq_eq_false_iff_ne.mp same).symm
          simp [other]
      rw [agree]
      simp [skip]
termination_by items => items.length
decreasing_by exact Nat.lt_succ_of_le (List.length_filter_le _ rest)

/-- **Sorting items by different keys loses and repeats none** that has one of the keys. -/
theorem flatMap_filter_key_perm [DecidableEq β] {keys : List β} (unique : keys.Nodup) (key : α → β) (items : List α) :
    (keys.flatMap fun k => items.filter (key · = k)).Perm (items.filter (key · ∈ keys)) := by
  induction keys with
  | nil => simp
  | cons k rest ih =>
    obtain ⟨absent, unique⟩ := List.nodup_cons.mp unique
    have ofKey : (items.filter (key · ∈ k :: rest)).filter (key · = k) = items.filter (key · = k) := by
      rw [List.filter_filter]
      refine List.filter_congr fun item _ => ?_
      by_cases same : key item = k <;> simp [same]
    have ofRest : (items.filter (key · ∈ k :: rest)).filter (fun item => !decide (key item = k)) =
        items.filter (key · ∈ rest) := by
      rw [List.filter_filter]
      refine List.filter_congr fun item _ => ?_
      by_cases same : key item = k
      · simp [same, absent]
      · simp [same]
    have split := List.filter_append_perm (key · = k) (items.filter (key · ∈ k :: rest))
    rw [ofKey, ofRest] at split
    exact ((ih unique).append_left _).trans split

theorem lookup_cons_ite [DecidableEq α] (entry : α × β) (rest : List (α × β)) (key : α) :
    (entry :: rest).lookup key = if key = entry.1 then some entry.2 else rest.lookup key := by
  rw [List.lookup_cons]
  by_cases same : key = entry.1
  · rw [if_pos same, beq_iff_eq.mpr same]
  · rw [if_neg same, beq_eq_false_iff_ne.mpr same]

/-- A look-up among the entries whose key passes a test. -/
theorem lookup_filter_key [BEq α] [LawfulBEq α] (test : α → Bool) (key : α) (entries : List (α × β)) :
    (entries.filter fun entry => test entry.1).lookup key = if test key then entries.lookup key else none := by
  induction entries with
  | nil => simp
  | cons entry rest ih =>
    obtain ⟨other, value⟩ := entry
    rw [List.filter_cons]
    by_cases same : key = other
    · subst same
      cases passes : test key with
      | true => simp
      | false => simpa [passes] using ih
    · have skip : (key == other) = false := by simpa using same
      rw [List.lookup_cons, skip, ← ih]
      split
      · rw [List.lookup_cons, skip]
      · rfl

/-- **Keeping the first entry of each key changes no look-up.** -/
theorem lookup_eraseDupsBy [BEq α] [LawfulBEq α] (key : α) : ∀ entries : List (α × β),
    (entries.eraseDupsBy fun a b => a.1 == b.1).lookup key = entries.lookup key
  | [] => rfl
  | entry :: rest => by
    rw [List.eraseDupsBy_cons, List.lookup_cons, List.lookup_cons, lookup_eraseDupsBy]
    cases found : key == entry.1 with
    | true => rfl
    | false => rw [lookup_filter_key fun other => decide ((other == entry.1) = false), found, if_pos (by simp)]
termination_by entries => entries.length
decreasing_by exact Nat.lt_succ_of_le (List.length_filter_le _ rest)

/-- Where keys are listed once, a look-up finds exactly the entries. -/
theorem lookup_eq_some_iff_mem [BEq α] [LawfulBEq α] {entries : List (α × β)}
    (unique : (entries.map (·.1)).Nodup) {key : α} {value : β} :
    entries.lookup key = some value ↔ (key, value) ∈ entries := by
  induction entries with
  | nil => simp
  | cons entry rest ih =>
    obtain ⟨absent, uniqueRest⟩ := List.nodup_cons.mp unique
    rw [List.lookup_cons]
    cases found : key == entry.1 with
    | true =>
      have same : key = entry.1 := by simpa using found
      have elsewhere : (key, value) ∉ rest := fun member =>
        absent (List.mem_map.mpr ⟨(key, value), member, same⟩)
      rw [List.mem_cons, or_iff_left elsewhere, Prod.ext_iff]
      simp [same, eq_comm]
    | false =>
      have differs : key ≠ entry.1 := by simpa using found
      simp [ih uniqueRest, Prod.ext_iff, differs]

/-! ## In key order -/

/-- **Items in the order of their keys are determined by which they are.** -/
theorem eq_of_sorted_keys (key : α → String) {first second : List α}
    (sortedFirst : first.Pairwise (key · < key ·)) (sortedSecond : second.Pairwise (key · < key ·))
    (same : ∀ item, item ∈ first ↔ item ∈ second) : first = second := by
  have once : ∀ {items : List α}, items.Pairwise (key · < key ·) → items.Nodup := fun sorted =>
    sorted.imp fun before => ne_of_apply_ne key (String.ne_of_lt before)
  refine List.Perm.eq_of_pairwise (fun a b _ _ before after => ?_) sortedFirst sortedSecond ?_
  · exact absurd after (String.lt_asymm before)
  · exact (List.perm_ext_iff_of_nodup (once sortedFirst) (once sortedSecond)).mpr same

namespace SortedMap

/-- The keys after setting one are that one and those before. -/
theorem mem_keys_insertEntry {key text : String} {value : α} {entries : List (String × α)} :
    text ∈ (insertEntry key value entries).map (·.1) ↔ text = key ∨ text ∈ entries.map (·.1) := by
  induction entries with
  | nil => simp [insertEntry]
  | cons entry rest ih =>
    rw [insertEntry]
    split
    · simp
    · split
      · next same => simp [same]
      · rw [List.map_cons, List.mem_cons, ih, List.map_cons, List.mem_cons]
        exact or_left_comm

theorem mem_keys_foldl (map : SortedMap α) (entries : List (String × α)) (text : String) :
    text ∈ (entries.foldl (fun map entry => map.insert entry.1 entry.2) map).keys ↔
      text ∈ map.keys ∨ text ∈ entries.map (·.1) := by
  induction entries generalizing map with
  | nil => simp
  | cons entry rest ih =>
    have step : text ∈ (map.insert entry.1 entry.2).keys ↔ text = entry.1 ∨ text ∈ map.keys :=
      mem_keys_insertEntry
    rw [List.foldl_cons, ih, step, List.map_cons, List.mem_cons, or_comm (a := text = entry.1), or_assoc]

/-- The keys of a sorted map increase strictly. -/
theorem keys_sorted (map : SortedMap α) : map.keys.Pairwise (· < ·) :=
  List.pairwise_map.mpr map.sorted

theorem get?_insert (map : SortedMap α) (key : String) (value : α) (other : String) :
    (map.insert key value).get? other = if other = key then some value else map.get? other := by
  obtain ⟨entries, sorted⟩ := map
  show (insertEntry key value entries).lookup other = if other = key then some value else entries.lookup other
  clear sorted
  induction entries with
  | nil => rw [insertEntry, lookup_cons_ite]
  | cons entry rest ih =>
    rw [insertEntry]
    split
    · rw [lookup_cons_ite]
    · split
      · next replaced =>
        rw [lookup_cons_ite, lookup_cons_ite, ← replaced]
        split <;> rfl
      · next differs =>
        rw [lookup_cons_ite, lookup_cons_ite, ih]
        by_cases same : other = entry.1
        · rw [if_pos same, if_pos same, if_neg (same ▸ Ne.symm differs)]
        · rw [if_neg same, if_neg same]

/-- **A map of some entries finds the last entry of a key.** -/
theorem get?_ofList (entries : List (String × α)) (key : String) :
    (ofList entries).get? key = entries.reverse.lookup key := by
  have run : ∀ (rest : List (String × α)) (map : SortedMap α),
      (rest.foldl (fun map entry => map.insert entry.1 entry.2) map).get? key =
        (rest.reverse.lookup key).or (map.get? key) := by
    intro rest
    induction rest with
    | nil => intro map; rfl
    | cons entry rest ih =>
      intro map
      rw [List.foldl_cons, ih, get?_insert, List.reverse_cons, List.lookup_append, Option.or_assoc,
        lookup_cons_ite]
      split <;> rfl
  rw [ofList, run]
  exact Option.or_none

/-- The entries of a map are what it finds. -/
theorem mem_entries_iff {map : SortedMap α} {key : String} {value : α} :
    (key, value) ∈ map.entries ↔ map.get? key = some value :=
  (lookup_eq_some_iff_mem (map.keys_sorted.imp fun before => String.ne_of_lt before)).symm

theorem mem_keys_ofList {entries : List (String × α)} {key : String} :
    key ∈ (ofList entries).keys ↔ key ∈ entries.map (·.1) := by
  rw [ofList, mem_keys_foldl]
  simp [keys, empty]

/-- Of entries with different keys a map finds every one. -/
theorem get?_ofList_of_mem {entries : List (String × α)} (unique : (entries.map (·.1)).Nodup) {key : String}
    {value : α} (member : (key, value) ∈ entries) : (ofList entries).get? key = some value := by
  rw [get?_ofList]
  refine (lookup_eq_some_iff_mem ?_).mpr (List.mem_reverse.mpr member)
  rw [List.map_reverse]
  exact List.nodup_reverse.mpr unique

/-- The keys of a map of entries with different keys are theirs, in order. -/
theorem keys_ofList_perm {entries : List (String × α)} (unique : (entries.map (·.1)).Nodup) :
    (ofList entries).keys.Perm (entries.map (·.1)) := by
  have increasing := (ofList entries).keys_sorted
  refine (List.perm_ext_iff_of_nodup (increasing.imp fun before => String.ne_of_lt before) unique).mpr ?_
  intro key
  exact mem_keys_ofList

end SortedMap

/-- Putting texts in order keeps which they are. -/
@[simp]
theorem mem_sortedTexts {texts : List String} {text : String} : text ∈ sortedTexts texts ↔ text ∈ texts := by
  rw [sortedTexts, SortedMap.mem_keys_ofList]
  simp

theorem sortedTexts_sorted (texts : List String) : (sortedTexts texts).Pairwise (· < ·) :=
  SortedMap.keys_sorted _

theorem nodup_of_sorted {texts : List String} (sorted : texts.Pairwise (· < ·)) : texts.Nodup :=
  sorted.imp fun before => String.ne_of_lt before

theorem nodup_sortedTexts (texts : List String) : (sortedTexts texts).Nodup :=
  nodup_of_sorted (sortedTexts_sorted texts)

/-- Texts in order are determined by which they are. -/
theorem eq_of_sorted {first second : List String} (sortedFirst : first.Pairwise (· < ·))
    (sortedSecond : second.Pairwise (· < ·)) (same : ∀ text, text ∈ first ↔ text ∈ second) : first = second :=
  eq_of_sorted_keys (fun text => text) sortedFirst sortedSecond same

/-- Putting texts in order that are listed once keeps how many they are. -/
theorem length_sortedTexts {texts : List String} (once : texts.Nodup) : (sortedTexts texts).length = texts.length :=
  ((List.perm_ext_iff_of_nodup (nodup_sortedTexts texts) once).mpr fun _ => mem_sortedTexts).length_eq

end WorkflowAtlas
