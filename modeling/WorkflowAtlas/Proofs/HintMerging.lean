import Mathlib.Data.List.Induction
import WorkflowAtlas.Proofs.Listing
import WorkflowAtlas.Workflow.Hints

/-!
# Hints may come in batches

Hints that share an id are merged into the first of them. The first hint of an id and the later ones go
different ways: the first is listed with its node ids once each, a later one is absorbed.

**The law** (`merge_batched`): merged hints are what their ids say (`MergesTo`), and merging in batches
gives what merging all at once gives, so merging twice changes nothing.

The proof reads merged hints id by id. `said?` is what hints say of an id together. Absorbing is
associative, so two lists of hints say what the first says and then what the second says
(`said?_append`), however the hints of one id are spread over them. Merged hints say what the hints say,
and lists with the same ids that say the same are equal (`eq_of_find?`).
-/

namespace WorkflowAtlas.WorkflowHint

/-! ## One hint after another -/

/-- What one hint says of an id: itself, with its node ids once each, if it has the id. -/
def alone? (hint : WorkflowHint) (id : String) : Option WorkflowHint :=
  if hint.id = id then some { hint with nodeIds := hint.nodeIds.eraseDups } else none

/-- **It does not matter in which order absorbed hints are put together.** -/
theorem absorb_assoc (a b c : WorkflowHint) : (a.absorb b).absorb c = a.absorb (b.absorb c) := by
  simp [absorb, Option.or_assoc]

instance : Std.Associative absorb := ⟨absorb_assoc⟩

/-- Absorbing changes no id. -/
theorem id_absorbing (first hint : WorkflowHint) :
    (if first.id = hint.id then first.absorb hint else first).id = first.id := by
  split <;> rfl

theorem ids_insertInto (merged : List WorkflowHint) (hint : WorkflowHint) :
    (insertInto merged hint).map (·.id) =
      if hint.id ∈ merged.map (·.id) then merged.map (·.id) else merged.map (·.id) ++ [hint.id] := by
  have present : merged.any (·.id == hint.id) = true ↔ hint.id ∈ merged.map (·.id) := by
    simp
  unfold insertInto
  by_cases there : hint.id ∈ merged.map (·.id)
  · rw [if_pos (present.mpr there), if_pos there, List.map_map]
    exact List.map_congr_left fun first _ => id_absorbing first hint
  · rw [if_neg (mt present.mp there), if_neg there, List.map_append]
    rfl

/-- **A further hint adds what it says alone.** -/
theorem find?_insertInto (merged : List WorkflowHint) (hint : WorkflowHint) (id : String) :
    (insertInto merged hint).find? (·.id == id) =
      Option.merge absorb (merged.find? (·.id == id)) (hint.alone? id) := by
  unfold insertInto alone?
  by_cases there : merged.any (·.id == hint.id) = true
  · rw [if_pos there, List.find?_map]
    simp only [Function.comp_def, id_absorbing]
    cases found : merged.find? (·.id == id) with
    | none =>
      -- the hint that has the id of `hint` would be found
      have other : hint.id ≠ id := by
        intro same
        obtain ⟨first, member, sameId⟩ := List.any_eq_true.mp there
        exact List.find?_eq_none.mp found first member (same ▸ sameId)
      simp [other]
    | some first =>
      have isId : first.id = id := by simpa using List.find?_some found
      by_cases same : hint.id = id
      · simp [same, isId, absorb]
      · simp [same, isId, Ne.symm same]
  · rw [if_neg there, List.find?_append]
    by_cases same : hint.id = id
    · have absent : merged.find? (·.id == id) = none := by
        rw [List.find?_eq_none]
        intro first member isId
        exact there (List.any_eq_true.mpr ⟨first, member, same ▸ isId⟩)
      simp [same, absent]
    · simp [same]

/-! ## What hints say of an id -/

/-- **What hints say of an id together**: the merged hint that has it. -/
def said? (hints : List WorkflowHint) (id : String) : Option WorkflowHint :=
  (merge hints).find? (·.id == id)

theorem find?_foldl_insertInto (hints merged : List WorkflowHint) (id : String) :
    (hints.foldl insertInto merged).find? (·.id == id) =
      Option.merge absorb (merged.find? (·.id == id)) (said? hints id) := by
  induction hints generalizing merged with
  | nil => simp [said?, merge]
  | cons hint rest ih =>
    have alone : said? (hint :: rest) id = Option.merge absorb (hint.alone? id) (said? rest id) := by
      rw [said?, merge, List.foldl_cons, ih, find?_insertInto]
      simp
    rw [List.foldl_cons, ih, find?_insertInto, alone]
    exact Std.Associative.assoc ..

/-- **Two lists of hints say what the first says and then what the second says.** -/
theorem said?_append (first second : List WorkflowHint) (id : String) :
    said? (first ++ second) id = Option.merge absorb (said? first id) (said? second id) := by
  rw [said?, merge, List.foldl_append]
  exact find?_foldl_insertInto second (merge first) id

theorem said?_singleton (hint : WorkflowHint) (id : String) : said? [hint] id = hint.alone? id := by
  have step := find?_insertInto [] hint id
  rwa [List.find?_nil, Option.merge_none_left] at step

/-- The hints of an id. -/
def ofId (hints : List WorkflowHint) (id : String) : List WorkflowHint :=
  hints.filter (·.id == id)

/-- Hints put together, the first of them giving the name. -/
def together? : List WorkflowHint → Option WorkflowHint
  | [] => none
  | first :: rest =>
    some { first with
      nodeIds := ((first :: rest).flatMap (·.nodeIds)).eraseDups
      description := (first :: rest).findSome? (·.description) }

/-- The first of several hints takes in what the others have together. -/
theorem together?_cons (hint : WorkflowHint) (rest : List WorkflowHint) :
    together? (hint :: rest) =
      Option.merge absorb (some { hint with nodeIds := hint.nodeIds.eraseDups }) (together? rest) := by
  cases rest with
  | nil => cases described : hint.description <;> simp [together?, described]
  | cons second later => cases described : hint.description <;> simp [together?, absorb, described]

/-- **What is said of an id is what its hints have, put together.** -/
theorem said?_eq (hints : List WorkflowHint) (id : String) : said? hints id = together? (ofId hints id) := by
  induction hints with
  | nil => rfl
  | cons hint rest ih =>
    rw [← List.singleton_append, said?_append, said?_singleton, ih, alone?, ofId, ofId, List.filter_append]
    by_cases same : hint.id = id
    · simp [same, together?_cons]
    · simp [same]

/-! ## The list of merged hints -/

theorem merge_concat (hints : List WorkflowHint) (hint : WorkflowHint) :
    merge (hints ++ [hint]) = insertInto (merge hints) hint := by
  rw [merge, List.foldl_append]
  rfl

/-- **Merged hints have the ids of the hints, as they are first seen.** -/
theorem ids_merge (hints : List WorkflowHint) : (merge hints).map (·.id) = (hints.map (·.id)).eraseDups := by
  induction hints using List.reverseRecOn with
  | nil => rfl
  | append_singleton hints hint ih =>
    rw [merge_concat, ids_insertInto, ih, List.map_append, List.eraseDups_append]
    by_cases there : hint.id ∈ hints.map (·.id)
    · have gone : [hint.id].removeAll (hints.map (·.id)) = [] := by
        simpa [List.removeAll] using there
      rw [if_pos (List.mem_eraseDups.mpr there), List.map_singleton, gone, List.eraseDups_nil, List.append_nil]
    · have stays : [hint.id].removeAll (hints.map (·.id)) = [hint.id] := by
        simpa [List.removeAll] using there
      rw [if_neg (mt List.mem_eraseDups.mp there), List.map_singleton, stays]
      rfl

/-- **Merged hints have different ids.** -/
theorem nodup_ids_merge (hints : List WorkflowHint) : ((merge hints).map (·.id)).Nodup := by
  rw [ids_merge]
  exact nodup_eraseDups _

/-- **Merged hints have the ids that hints have.** -/
theorem mem_ids_merge {hints : List WorkflowHint} {id : String} :
    id ∈ (merge hints).map (·.id) ↔ id ∈ hints.map (·.id) := by
  rw [ids_merge, List.mem_eraseDups]

/-- Among hints with different ids, each is found by its own. -/
theorem find?_of_mem {hints : List WorkflowHint} (unique : (hints.map (·.id)).Nodup) {hint : WorkflowHint}
    (member : hint ∈ hints) : hints.find? (·.id == hint.id) = some hint := by
  induction hints with
  | nil => cases member
  | cons first rest ih =>
    obtain ⟨absent, unique⟩ := List.nodup_cons.mp unique
    cases member with
    | head => simp
    | tail _ later =>
      have other : first.id ≠ hint.id := fun same => absent (List.mem_map.mpr ⟨hint, later, same.symm⟩)
      rw [List.find?_cons_of_neg (by simpa using other), ih unique later]

/-- **Hints with the same different ids that are found alike are the same.** -/
theorem eq_of_find? {first second : List WorkflowHint} (unique : (first.map (·.id)).Nodup)
    (sameIds : first.map (·.id) = second.map (·.id))
    (alike : ∀ id, first.find? (·.id == id) = second.find? (·.id == id)) : first = second := by
  refine List.ext_getElem? fun i => ?_
  have sameId : (first[i]?).map (·.id) = (second[i]?).map (·.id) := by
    rw [← List.getElem?_map, sameIds, List.getElem?_map]
  cases atFirst : first[i]? with
  | none =>
    rw [atFirst] at sameId
    exact (Option.map_eq_none_iff.mp sameId.symm).symm
  | some hint =>
    rw [atFirst] at sameId
    obtain ⟨other, atSecond, same⟩ := Option.map_eq_some_iff.mp sameId.symm
    have found := find?_of_mem unique (List.mem_of_getElem? atFirst)
    have foundAlso := find?_of_mem (sameIds ▸ unique) (List.mem_of_getElem? atSecond)
    rw [same, ← alike] at foundAlso
    rw [atSecond]
    exact found.symm.trans foundAlso

/-- Hints that are merged already: different ids, and the node ids of each once. -/
structure IsMerged (hints : List WorkflowHint) : Prop where
  ids : (hints.map (·.id)).Nodup
  nodeIds : ∀ hint ∈ hints, hint.nodeIds.Nodup

/-- **A merged hint is made from the hints of its id**, of which there is a first. -/
theorem exists_ofId_of_mem {hints : List WorkflowHint} {hint : WorkflowHint} (member : hint ∈ merge hints) :
    ∃ first rest, ofId hints hint.id = first :: rest ∧
      hint = { first with
        nodeIds := ((first :: rest).flatMap (·.nodeIds)).eraseDups
        description := (first :: rest).findSome? (·.description) } := by
  have said : together? (ofId hints hint.id) = some hint := by
    rw [← said?_eq]
    exact find?_of_mem (nodup_ids_merge hints) member
  cases own : ofId hints hint.id with
  | nil => rw [own] at said; cases said
  | cons first rest =>
    rw [own] at said
    exact ⟨first, rest, rfl, (Option.some.inj said).symm⟩

theorem isMerged_merge (hints : List WorkflowHint) : IsMerged (merge hints) := by
  refine ⟨nodup_ids_merge hints, fun hint member => ?_⟩
  obtain ⟨first, rest, _, made⟩ := exists_ofId_of_mem member
  rw [made]
  exact nodup_eraseDups _

/-- **Merged hints stay as they are.** -/
theorem IsMerged.merge_eq {hints : List WorkflowHint} (merged : IsMerged hints) : merge hints = hints := by
  induction hints using List.reverseRecOn with
  | nil => rfl
  | append_singleton hints hint ih =>
    obtain ⟨ids, nodeIds⟩ := merged
    rw [List.map_append, List.nodup_append] at ids
    have before : IsMerged hints := ⟨ids.1, fun other member => nodeIds other (List.mem_append_left _ member)⟩
    have absent : ¬ hints.any (·.id == hint.id) = true := by
      intro there
      obtain ⟨other, member, sameId⟩ := List.any_eq_true.mp there
      exact ids.2.2 other.id (List.mem_map_of_mem member) hint.id (by simp) (by simpa using sameId)
    rw [merge_concat, ih before, insertInto, if_neg absent, eraseDups_of_nodup (nodeIds hint (by simp))]

/-- What merged hints say is what the hints say. -/
theorem said?_merge (hints : List WorkflowHint) (id : String) : said? (merge hints) id = said? hints id := by
  rw [said?, (isMerged_merge hints).merge_eq, said?]

/-! ## Batches -/

theorem merge_append_merge (first second : List WorkflowHint) :
    merge (merge first ++ merge second) = merge (first ++ second) := by
  refine eq_of_find? (nodup_ids_merge _) ?_ fun id => ?_
  · simp only [ids_merge, List.map_append, eraseDups_append_left, eraseDups_append_right]
  · show said? (merge first ++ merge second) id = said? (first ++ second) id
    rw [said?_append, said?_append, said?_merge, said?_merge]

/-- **What hints merge to**: each id once, as it is first seen; for an id the node ids of its hints, each once and
as it is first seen, the name of its first hint, and the first description that one of them has. -/
structure MergesTo (hints merged : List WorkflowHint) : Prop where
  distinct : (merged.map (·.id)).Nodup
  ids : FirstSeen (hints.map (·.id)) (merged.map (·.id))
  once : ∀ entry ∈ merged, entry.nodeIds.Nodup
  nodeIds : ∀ entry ∈ merged, FirstSeen ((ofId hints entry.id).flatMap (·.nodeIds)) entry.nodeIds
  name : ∀ entry ∈ merged, (ofId hints entry.id).head?.map (·.name) = some entry.name
  description : ∀ entry ∈ merged, entry.description = (ofId hints entry.id).findSome? (·.description)

theorem merge_mergesTo (hints : List WorkflowHint) : MergesTo hints (merge hints) where
  distinct := nodup_ids_merge hints
  ids := by
    rw [ids_merge]
    exact firstSeen_eraseDups _
  once := (isMerged_merge hints).nodeIds
  nodeIds := by
    intro entry member
    obtain ⟨first, rest, own, made⟩ := exists_ofId_of_mem member
    rw [own, made]
    exact firstSeen_eraseDups _
  name := by
    intro entry member
    obtain ⟨first, rest, own, made⟩ := exists_ofId_of_mem member
    rw [own, made]
    rfl
  description := by
    intro entry member
    obtain ⟨first, rest, own, made⟩ := exists_ofId_of_mem member
    rw [own, made]

/-- **Hints may come in batches**: merging gathers the hints of each id, merging batches and then their results gives
what merging all hints gives, and merging twice is merging once. -/
theorem merge_batched :
    (∀ hints, MergesTo hints (merge hints)) ∧
    (∀ first second, merge (merge first ++ merge second) = merge (first ++ second)) ∧
    ∀ hints, merge (merge hints) = merge hints :=
  ⟨merge_mergesTo, merge_append_merge, fun hints => (isMerged_merge hints).merge_eq⟩

end WorkflowAtlas.WorkflowHint
