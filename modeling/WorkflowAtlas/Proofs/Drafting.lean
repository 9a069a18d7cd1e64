import WorkflowAtlas.Proofs.Grouping

/-!
# What going through the edges leaves

Detection turns each crossing edge to a reference and adds the reference unless its id is there. This
module says what that leaves behind, for any groups that are apart.

**Titles** have different ids whatever the hints are called: the number after the last underscore and
the text before it can be read off (`titleId_inj`). **The run** (`drafted_spec`): edge after edge the
draft holds the edges turned so far, and its additions are titles and references of the edges gone
through, with different ids, among them one for each crossing. **Without a clash** of ids this is
exact (`mem_additions_iff`): every title, and the reference of every crossing, is added as it is.
-/

namespace WorkflowAtlas

variable {graph : FlowGraph} {groups : List HintGroup} {edges : List FlowEdge}

/-! ## Titles -/

/-- **A title id tells the leading hint and the number of the piece.** -/
theorem titleId_inj {a b : HintGroup} {m n : Nat} (same : a.titleId m = b.titleId n) :
    a.lead.id = b.lead.id ∧ m = n := by
  have text : ∀ (group : HintGroup) (part : Nat), (group.titleId part).toList =
      (group.lead.id.toList ++ "__title".toList) ++ '_' :: Nat.toDigits 10 part := by
    intro group part
    simp [HintGroup.titleId, String.toList_append]
  have cut := congrArg String.toList same
  rw [text, text] at cut
  obtain ⟨fronts, digits⟩ :=
    append_cons_inj_of_notMem_right Nat.underscore_not_in_toDigits Nat.underscore_not_in_toDigits cut
  refine ⟨String.toList_injective (List.append_cancel_right fronts), ?_⟩
  rw [← Nat.ofDigitChars_ten_toDigits (n := m), digits, Nat.ofDigitChars_ten_toDigits]

/-- The ids of the titles of a group. -/
def HintGroup.titleIds (group : HintGroup) : List String :=
  group.titles.map (·.id)

theorem HintGroup.titleIds_eq (group : HintGroup) :
    group.titleIds = group.parts.map fun (_, part) => group.titleId part := by
  rw [HintGroup.titleIds, HintGroup.titles, List.map_map]
  rfl

theorem HintGroup.nodup_numbers (group : HintGroup) : (group.parts.map (·.2)).Nodup := by
  unfold HintGroup.parts
  split
  · rw [List.zipIdx_map_snd]
    exact List.nodup_range' ..
  · exact List.nodup_nil

theorem HintGroup.nodup_titleIds (group : HintGroup) : group.titleIds.Nodup := by
  rw [HintGroup.titleIds_eq]
  have composed : (group.parts.map fun (_, part) => group.titleId part) =
      (group.parts.map (·.2)).map group.titleId := by
    rw [List.map_map]
    rfl
  rw [composed]
  exact group.nodup_numbers.map fun m n same => (titleId_inj same).2

theorem HintGroup.exists_of_mem_titleIds {group : HintGroup} {id : String} (isTitle : id ∈ group.titleIds) :
    ∃ part, id = group.titleId part := by
  rw [HintGroup.titleIds_eq] at isTitle
  obtain ⟨⟨_, part⟩, _, rfl⟩ := List.mem_map.mp isTitle
  exact ⟨part, rfl⟩

theorem kind_of_mem_titles {group : HintGroup} {node : FlowNode} (isTitle : node ∈ group.titles) :
    node.kind = .workflowTitle group.lead.id := by
  obtain ⟨_, _, rfl⟩ := List.mem_map.mp isTitle
  rfl

theorem ids_titleAdditions (groups : List HintGroup) :
    (titleAdditions groups).map (·.node.id) = groups.flatMap (·.titleIds) := by
  have titles : ∀ start, ((groups.zipIdx start).flatMap fun numbered =>
      numbered.1.titles.map (Addition.mk numbered.2)).map (·.node.id) = groups.flatMap (·.titleIds) := by
    induction groups with
    | nil => intro start; rfl
    | cons group rest ih =>
      intro start
      rw [List.zipIdx_cons, List.flatMap_cons, List.map_append, ih, List.flatMap_cons, List.map_map]
      rfl
  exact titles 0

/-- **Titles have different ids.** -/
theorem nodup_ids_titleAdditions (apart : Apart graph groups) : ((titleAdditions groups).map (·.node.id)).Nodup := by
  rw [ids_titleAdditions, List.nodup_flatMap]
  refine ⟨fun group _ => group.nodup_titleIds, ?_⟩
  refine (List.pairwise_map.mp apart.leads).imp fun {a b} differ id inA inB => differ ?_
  obtain ⟨m, rfl⟩ := HintGroup.exists_of_mem_titleIds inA
  obtain ⟨n, same⟩ := HintGroup.exists_of_mem_titleIds inB
  exact (titleId_inj same).1

/-- The titles are those of the groups, each owned by the number of its group. -/
theorem mem_titleAdditions {addition : Addition} :
    addition ∈ titleAdditions groups ↔
      ∃ group, groups[addition.group]? = some group ∧ addition.node ∈ group.titles := by
  unfold titleAdditions
  rw [List.mem_flatMap]
  constructor
  · rintro ⟨⟨group, number⟩, numbered, added⟩
    obtain ⟨title, isTitle, rfl⟩ := List.mem_map.mp added
    exact ⟨group, List.mem_zipIdx_iff_getElem?.mp numbered, isTitle⟩
  · rintro ⟨group, atNumber, isTitle⟩
    exact ⟨(group, addition.group), List.mem_zipIdx_iff_getElem?.mpr atNumber, List.mem_map.mpr ⟨_, isTitle, rfl⟩⟩

/-! ## Crossings -/

/-- A member tells the number of its group. -/
theorem Apart.number_eq (apart : Apart graph groups) {m n : Nat} {a b : HintGroup} {id : String}
    (atM : groups[m]? = some a) (atN : groups[n]? = some b) (inA : id ∈ a.members) (inB : id ∈ b.members) :
    m = n := by
  have disjoint := (List.nodup_flatMap.mp apart.members).2
  obtain ⟨inM, rfl⟩ := List.getElem?_eq_some_iff.mp atM
  obtain ⟨inN, rfl⟩ := List.getElem?_eq_some_iff.mp atN
  rcases Nat.lt_trichotomy m n with before | same | after
  · exact (List.pairwise_iff_getElem.mp disjoint m n inM inN before inA inB).elim
  · exact same
  · exact (List.pairwise_iff_getElem.mp disjoint n m inN inM after inB inA).elim

/-- A leading id tells the number of its group. -/
theorem Apart.number_eq_of_lead (apart : Apart graph groups) {m n : Nat} {a b : HintGroup}
    (atM : groups[m]? = some a) (atN : groups[n]? = some b) (same : a.lead.id = b.lead.id) : m = n :=
  index_eq_of_nodup_map apart.leads atM atN same

theorem groupOf?_eq_some (apart : Apart graph groups) {id : String} {number : Nat} :
    groupOf? groups id = some number ↔ ∃ group, groups[number]? = some group ∧ id ∈ group.members := by
  unfold groupOf?
  rw [List.findIdx?_eq_some_iff_getElem]
  constructor
  · rintro ⟨inRange, member, _⟩
    exact ⟨groups[number], List.getElem?_eq_getElem inRange, by simpa using member⟩
  · rintro ⟨group, atNumber, member⟩
    obtain ⟨inRange, rfl⟩ := List.getElem?_eq_some_iff.mp atNumber
    refine ⟨inRange, by simpa using member, fun earlier before also => ?_⟩
    have same := apart.number_eq (List.getElem?_eq_getElem (by omega)) atNumber (of_decide_eq_true also) member
    omega

/-- **A crossing** runs between members of two kept groups with different numbers. -/
theorem crossing?_eq_some (apart : Apart graph groups) {edge : FlowEdge} {number : Nat} {a b : HintGroup} :
    crossing? graph groups edge = some (number, a, b) ↔ ∃ other, number ≠ other ∧
      groups[number]? = some a ∧ groups[other]? = some b ∧ edge.source ∈ a.members ∧ edge.target ∈ b.members ∧
      a.isKept graph ∧ b.isKept graph := by
  unfold crossing?
  constructor
  · intro crosses
    obtain ⟨source, atSource, crosses⟩ := Option.bind_eq_some_iff.mp crosses
    obtain ⟨target, atTarget, crosses⟩ := Option.bind_eq_some_iff.mp crosses
    obtain ⟨first, isFirst, crosses⟩ := Option.bind_eq_some_iff.mp crosses
    obtain ⟨second, isSecond, crosses⟩ := Option.bind_eq_some_iff.mp crosses
    split at crosses
    · next kept =>
      cases crosses
      obtain ⟨_, isA, inA⟩ := (groupOf?_eq_some apart).mp atSource
      obtain ⟨_, isB, inB⟩ := (groupOf?_eq_some apart).mp atTarget
      rw [isFirst] at isA
      rw [isSecond] at isB
      cases isA
      cases isB
      simp only [Bool.and_eq_true, decide_eq_true_eq] at kept
      exact ⟨target, kept.1.1, isFirst, isSecond, inA, inB, kept.1.2, kept.2⟩
    · cases crosses
  · rintro ⟨other, differ, isA, isB, inA, inB, keptA, keptB⟩
    have atSource := (groupOf?_eq_some apart).mpr ⟨a, isA, inA⟩
    have atTarget := (groupOf?_eq_some apart).mpr ⟨b, isB, inB⟩
    simp [atSource, atTarget, isA, isB, differ, keptA, keptB]

/-! ## The run -/

/-- The reference that an edge calls for, with the number of the group that the edge leaves. -/
def reference? (graph : FlowGraph) (groups : List HintGroup) (edge : FlowEdge) : Option Addition :=
  (crossing? graph groups edge).map fun (number, sourceGroup, targetGroup) =>
    ⟨number, referenceNode graph sourceGroup targetGroup edge.target⟩

/-- An edge turned to the reference that it calls for, if it does. -/
def turned (graph : FlowGraph) (groups : List HintGroup) (edge : FlowEdge) : FlowEdge :=
  match reference? graph groups edge with
  | none => edge
  | some reference => { edge with target := reference.node.id }

/-- The references that edges call for. -/
def calledFor (graph : FlowGraph) (groups : List HintGroup) (edges : List FlowEdge) : List Addition :=
  edges.filterMap (reference? graph groups)

theorem additionOwner?_isSome {additions : List Addition} {id : String} :
    (additionOwner? additions id).isSome ↔ id ∈ additions.map (·.node.id) := by
  simp [additionOwner?]

theorem Draft.add_edges (draft : Draft) (edge : FlowEdge) :
    (draft.add graph groups edge).edges = draft.edges ++ [turned graph groups edge] := by
  unfold Draft.add turned reference?
  cases crossing? graph groups edge with
  | none => rfl
  | some crossing => rfl

theorem Draft.add_additions (draft : Draft) (edge : FlowEdge) :
    (draft.add graph groups edge).additions =
      match reference? graph groups edge with
      | none => draft.additions
      | some reference =>
        if reference.node.id ∈ draft.additions.map (·.node.id) then draft.additions
        else draft.additions ++ [reference] := by
  unfold Draft.add reference?
  cases crossing? graph groups edge with
  | none => rfl
  | some crossing =>
    simp only [Option.map_some]
    split
    · next owned => rw [if_pos (additionOwner?_isSome.mp owned)]
    · next free => rw [if_neg (mt additionOwner?_isSome.mpr free)]

/-- An edge adds the reference that it calls for, unless the id of that is there. -/
theorem Draft.mem_add_additions {draft : Draft} {edge : FlowEdge} {addition : Addition} :
    addition ∈ (draft.add graph groups edge).additions ↔
      addition ∈ draft.additions ∨
        reference? graph groups edge = some addition ∧ addition.node.id ∉ draft.additions.map (·.node.id) := by
  rw [Draft.add_additions]
  cases reference? graph groups edge with
  | none => simp
  | some reference =>
    rw [Option.some.injEq]
    dsimp only
    split
    · next there =>
      refine ⟨.inl, ?_⟩
      rintro (earlier | ⟨rfl, free⟩)
      · exact earlier
      · exact absurd there free
    · next free =>
      rw [List.mem_append, List.mem_singleton]
      refine or_congr_right ⟨?_, fun new => new.1.symm⟩
      rintro rfl
      exact ⟨rfl, free⟩

theorem Draft.nodup_add_additions {draft : Draft} (unique : (draft.additions.map (·.node.id)).Nodup)
    (edge : FlowEdge) : ((draft.add graph groups edge).additions.map (·.node.id)).Nodup := by
  rw [Draft.add_additions]
  cases reference? graph groups edge with
  | none => exact unique
  | some reference =>
    dsimp only
    split
    · exact unique
    · next free =>
      rw [List.map_append, List.map_singleton, List.nodup_append]
      refine ⟨unique, List.nodup_singleton _, ?_⟩
      rintro id entered _ new rfl
      exact free (List.mem_singleton.mp new ▸ entered)

/-- **What a draft holds** after the edges `done`: these edges turned, and additions with different ids
that are the titles and references called for, one with the id of each. -/
structure Drafted (graph : FlowGraph) (groups : List HintGroup) (done : List FlowEdge) (draft : Draft) : Prop where
  edges : draft.edges = done.map (turned graph groups)
  titles : ∀ addition ∈ titleAdditions groups, addition ∈ draft.additions
  sound : ∀ addition ∈ draft.additions, addition ∈ titleAdditions groups ∨ addition ∈ calledFor graph groups done
  complete : ∀ reference ∈ calledFor graph groups done, reference.node.id ∈ draft.additions.map (·.node.id)
  unique : (draft.additions.map (·.node.id)).Nodup

theorem drafted_nil (apart : Apart graph groups) : Drafted graph groups [] ⟨titleAdditions groups, []⟩ where
  edges := rfl
  titles := fun _ member => member
  sound := fun _ member => .inl member
  complete := fun _ called => absurd called List.not_mem_nil
  unique := nodup_ids_titleAdditions apart

theorem mem_calledFor_append {done : List FlowEdge} {edge : FlowEdge} {addition : Addition} :
    addition ∈ calledFor graph groups (done ++ [edge]) ↔
      addition ∈ calledFor graph groups done ∨ reference? graph groups edge = some addition := by
  simp [calledFor, List.filterMap_append, List.filterMap_cons]
  grind

/-- **One edge more.** -/
theorem Drafted.add {done : List FlowEdge} {draft : Draft} (before : Drafted graph groups done draft)
    (edge : FlowEdge) : Drafted graph groups (done ++ [edge]) (draft.add graph groups edge) where
  edges := by
    rw [Draft.add_edges, before.edges, List.map_append]
    rfl
  titles := fun addition isTitle => Draft.mem_add_additions.mpr (.inl (before.titles addition isTitle))
  sound := by
    intro addition member
    rw [mem_calledFor_append]
    rcases Draft.mem_add_additions.mp member with earlier | ⟨called, -⟩
    · exact (before.sound addition earlier).imp_right .inl
    · exact .inr (.inr called)
  complete := by
    have kept : draft.additions.map (·.node.id) ⊆ (draft.add graph groups edge).additions.map (·.node.id) :=
      List.map_subset _ fun _ earlier => Draft.mem_add_additions.mpr (.inl earlier)
    intro reference member
    rcases mem_calledFor_append.mp member with earlier | called
    · exact kept (before.complete reference earlier)
    · by_cases there : reference.node.id ∈ draft.additions.map (·.node.id)
      · exact kept there
      · exact List.mem_map_of_mem (Draft.mem_add_additions.mpr (.inr ⟨called, there⟩))
  unique := Draft.nodup_add_additions before.unique edge

/-- **All edges**: the step along the list. -/
theorem drafted_spec (apart : Apart graph groups) (edges : List FlowEdge) :
    Drafted graph groups edges (drafted graph groups edges) := by
  have run : ∀ (rest done : List FlowEdge) (draft : Draft), Drafted graph groups done draft →
      Drafted graph groups (done ++ rest) (rest.foldl (Draft.add graph groups) draft) := by
    intro rest
    induction rest with
    | nil =>
      intro done draft before
      rw [List.append_nil]
      exact before
    | cons edge rest ih =>
      intro done draft before
      have after := ih (done ++ [edge]) _ (before.add edge)
      rw [List.append_assoc] at after
      exact after
  exact run edges [] _ (drafted_nil apart)

/-! ## Ids that do not clash -/

/-- The references that edges call for, by the id of the workflow that they leave and their target. -/
def referenceKeys (graph : FlowGraph) (groups : List HintGroup) (edges : List FlowEdge) : List (String × String) :=
  edges.filterMap fun edge =>
    (crossing? graph groups edge).map fun (_, sourceGroup, _) => (sourceGroup.lead.id, edge.target)

/-- The id of the reference from a workflow to a target. -/
def keyId (key : String × String) : String :=
  key.1 ++ "__ref__" ++ key.2

/-- **No clash of added ids**: references to different targets or from different workflows have different
ids, none of them is the id of a title, and no added id is that of a node or of an end of an edge. -/
structure NoClash (graph : FlowGraph) (groups : List HintGroup) (nodes : List FlowNode) (edges : List FlowEdge) :
    Prop where
  references : ∀ a ∈ referenceKeys graph groups edges, ∀ b ∈ referenceKeys graph groups edges, keyId a = keyId b → a = b
  titles : ∀ key ∈ referenceKeys graph groups edges, keyId key ∉ groups.flatMap (·.titleIds)
  fresh : ∀ id ∈ (referenceKeys graph groups edges).map keyId ++ groups.flatMap (·.titleIds),
    id ∉ nodes.map (·.id) ∧ ∀ edge ∈ edges, id ≠ edge.source ∧ id ≠ edge.target

/-- A reference called for comes from a crossing. -/
theorem mem_calledFor {reference : Addition} :
    reference ∈ calledFor graph groups edges ↔ ∃ edge ∈ edges, ∃ number a b,
      crossing? graph groups edge = some (number, a, b) ∧ reference = ⟨number, referenceNode graph a b edge.target⟩ := by
  unfold calledFor reference?
  rw [List.mem_filterMap]
  constructor
  · rintro ⟨edge, isEdge, called⟩
    obtain ⟨⟨number, a, b⟩, crosses, rfl⟩ := Option.map_eq_some_iff.mp called
    exact ⟨edge, isEdge, number, a, b, crosses, rfl⟩
  · rintro ⟨edge, isEdge, number, a, b, crosses, rfl⟩
    exact ⟨edge, isEdge, by rw [crosses]; rfl⟩

theorem mem_referenceKeys {edge : FlowEdge} (isEdge : edge ∈ edges) {number : Nat} {a b : HintGroup}
    (crosses : crossing? graph groups edge = some (number, a, b)) :
    (a.lead.id, edge.target) ∈ referenceKeys graph groups edges :=
  List.mem_filterMap.mpr ⟨edge, isEdge, by rw [crosses]; rfl⟩

section NoClash

variable {nodes : List FlowNode} (apart : Apart graph groups) (noClash : NoClash graph groups nodes edges)

include apart noClash

/-- References with one id are one. -/
theorem NoClash.reference_eq {first second : Addition} (isFirst : first ∈ calledFor graph groups edges)
    (isSecond : second ∈ calledFor graph groups edges) (same : first.node.id = second.node.id) : first = second := by
  obtain ⟨edge, isEdge, m, a, b, crosses, rfl⟩ := mem_calledFor.mp isFirst
  obtain ⟨edge', isEdge', n, a', b', crosses', rfl⟩ := mem_calledFor.mp isSecond
  have keys := noClash.references _ (mem_referenceKeys isEdge crosses) _ (mem_referenceKeys isEdge' crosses') same
  obtain ⟨leads, targets⟩ := Prod.mk.inj keys
  obtain ⟨j, _, atA, atB, _, inB, _⟩ := (crossing?_eq_some apart).mp crosses
  obtain ⟨j', _, atA', atB', _, inB', _⟩ := (crossing?_eq_some apart).mp crosses'
  -- the workflow tells the group that is left, the target the one that is entered
  obtain rfl := apart.number_eq_of_lead atA atA' leads
  obtain rfl := apart.number_eq atB atB' inB (targets ▸ inB')
  rw [atA] at atA'
  rw [atB] at atB'
  cases atA'
  cases atB'
  rw [targets]

/-- **Without a clash the additions are the titles and the references called for.** -/
theorem mem_additions_iff {addition : Addition} :
    addition ∈ (drafted graph groups edges).additions ↔
      addition ∈ titleAdditions groups ∨ addition ∈ calledFor graph groups edges := by
  have run := drafted_spec apart edges
  constructor
  · exact run.sound addition
  · rintro (isTitle | called)
    · exact run.titles addition isTitle
    · obtain ⟨other, entered, same⟩ := List.mem_map.mp (run.complete addition called)
      rcases run.sound other entered with isTitle | also
      · exfalso
        obtain ⟨edge, isEdge, number, a, b, crosses, rfl⟩ := mem_calledFor.mp called
        refine noClash.titles _ (mem_referenceKeys isEdge crosses) ?_
        rw [← ids_titleAdditions]
        exact List.mem_map.mpr ⟨other, isTitle, same⟩
      · rw [← noClash.reference_eq apart also called same]
        exact entered

/-- An added id is new. -/
theorem NoClash.id_fresh {addition : Addition} (added : addition ∈ (drafted graph groups edges).additions) :
    addition.node.id ∉ nodes.map (·.id) ∧ ∀ edge ∈ edges, addition.node.id ≠ edge.source ∧ addition.node.id ≠ edge.target := by
  refine noClash.fresh _ (List.mem_append.mpr ?_)
  rcases (mem_additions_iff apart noClash).mp added with isTitle | called
  · right
    rw [← ids_titleAdditions]
    exact List.mem_map_of_mem isTitle
  · left
    obtain ⟨edge, isEdge, number, a, b, crosses, rfl⟩ := mem_calledFor.mp called
    exact List.mem_map.mpr ⟨_, mem_referenceKeys isEdge crosses, rfl⟩

end NoClash

/-- Where ids differ, the owner of an addition's id is the addition's group. -/
theorem additionOwner?_eq {additions : List Addition} (unique : (additions.map (·.node.id)).Nodup)
    {addition : Addition} (member : addition ∈ additions) :
    additionOwner? additions addition.node.id = some addition.group := by
  unfold additionOwner?
  cases found : additions.reverse.find? (·.node.id == addition.node.id) with
  | none =>
    have absent := List.find?_eq_none.mp found addition (List.mem_reverse.mpr member)
    simp at absent
  | some other =>
    have same : other.node.id = addition.node.id := by simpa using List.find?_some found
    have isOther := List.mem_reverse.mp (List.mem_of_find?_eq_some found)
    rw [List.inj_on_of_nodup_map unique isOther member same]
    rfl

end WorkflowAtlas
