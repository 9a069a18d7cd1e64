import WorkflowAtlas.Proofs.Adoption
import WorkflowAtlas.Proofs.Connectivity
import WorkflowAtlas.Proofs.HintMerging
import WorkflowAtlas.Proofs.Linking
import WorkflowAtlas.Workflow.Detection

/-!
# What the groups of hints are

Two readings of `hintGroups`. **By class** (`hintGroup_standsFor`, `exists_hintGroup`): hints are
linked when a chain of HTTP edges between ids that belong to hints joins them, and the groups are the
classes of that relation, each led by its smallest hint. **By what the rest of detection needs**
(`hintGroups_apart`): no two groups share a leading id or a member, members are known, and the pieces
of a group hold members of it.

Detection after grouping uses `Apart` only, so a change to how groups come about stops here.
-/

namespace WorkflowAtlas

/-! ## Classes of hints -/

/-- **Hints linked by HTTP**: a chain joins them of edges that carry an HTTP label and run between ids
that belong to hints. -/
def HttpLinked (hintOf : String → Option Nat) (edges : List FlowEdge) : Nat → Nat → Prop :=
  Relation.EqvGen fun a b => ∃ edge ∈ edges, edge.label.any Http.isLabel ∧
    hintOf edge.source = some a ∧ hintOf edge.target = some b

/-- An id is in the class of a hint when its own hint is linked with it. -/
def InClass (hintOf : String → Option Nat) (edges : List FlowEdge) (hint : Nat) (id : String) : Prop :=
  ∃ own, hintOf id = some own ∧ HttpLinked hintOf edges hint own

theorem mem_httpLinks {membership : Membership} {edges : List FlowEdge} {a b : Nat} :
    (a, b) ∈ httpLinks membership edges ↔ a ≠ b ∧ ∃ edge ∈ edges, edge.label.any Http.isLabel ∧
      membership.get? edge.source = some a ∧ membership.get? edge.target = some b := by
  unfold httpLinks
  rw [List.mem_filterMap]
  constructor
  · rintro ⟨edge, labelled, linked⟩
    obtain ⟨source, atSource, linked⟩ := Option.bind_eq_some_iff.mp linked
    obtain ⟨target, atTarget, linked⟩ := Option.bind_eq_some_iff.mp linked
    split at linked
    · cases linked
    · next differ =>
      cases linked
      exact ⟨differ, edge, (List.mem_filter.mp labelled).1, (List.mem_filter.mp labelled).2, atSource, atTarget⟩
  · rintro ⟨differ, edge, isEdge, labelled, atSource, atTarget⟩
    exact ⟨edge, List.mem_filter.mpr ⟨isEdge, labelled⟩, by simp [atSource, atTarget, differ]⟩

/-- The links of a membership whose numbers are in range close to the HTTP relation. -/
theorem linked_httpLinks {membership : Membership} {edges : List FlowEdge} {count a b : Nat}
    (inRange : ∀ id number, membership.get? id = some number → number < count) :
    Linked count (httpLinks membership edges) a b ↔ HttpLinked membership.get? edges a b := by
  constructor
  · refine Relation.EqvGen.mono (fun a b joins => ?_) a b
    exact (mem_httpLinks.mp joins.1).2
  -- an edge inside one hint is no link, and needs none
  · intro linked
    change Relation.EqvGen (Joins count (httpLinks membership edges)) a b
    refine Relation.EqvGen.eqvGen_le (fun a b related => ?_) a b linked
    by_cases same : a = b
    · subst same
      exact .refl a
    · have ⟨edge, _, _, atSource, atTarget⟩ := related
      exact .rel a b ⟨mem_httpLinks.mpr ⟨same, related⟩, inRange _ a atSource, inRange _ b atTarget⟩

/-! ## A group -/

/-- What a group is made of. -/
theorem hintGroup?_eq_some {graph : FlowGraph} {hints : List WorkflowHint} {membership : Membership}
    {indices : List Nat} {group : HintGroup} (made : hintGroup? graph hints membership indices = some group) :
    ∃ root, indices.head? = some root ∧ hints[root]? = some group.lead ∧
      group.description = indices.findSome? (fun index => (hints[index]?).bind (·.description)) ∧
      group.members = sortedTexts ((membership.filter fun (_, index) => index ∈ indices).map (·.1)) ∧
      group.pieces = graph.pieces group.members := by
  unfold hintGroup? at made
  obtain ⟨root, atRoot, made⟩ := Option.bind_eq_some_iff.mp made
  obtain ⟨lead, isLead, made⟩ := Option.bind_eq_some_iff.mp made
  cases made
  exact ⟨root, atRoot, isLead, rfl, rfl, rfl⟩

theorem mem_members_of_indices {membership : Membership} (unique : (membership.map (·.1)).Nodup)
    {indices : List Nat} {id : String} :
    id ∈ sortedTexts ((membership.filter fun (_, index) => index ∈ indices).map (·.1)) ↔
      ∃ index ∈ indices, membership.get? id = some index := by
  rw [mem_sortedTexts, List.mem_map]
  constructor
  · rintro ⟨⟨id, index⟩, entry, rfl⟩
    obtain ⟨entry, chosen⟩ := List.mem_filter.mp entry
    exact ⟨index, by simpa using chosen, (lookup_eq_some_iff_mem unique).mpr entry⟩
  · rintro ⟨index, chosen, found⟩
    have entry := (lookup_eq_some_iff_mem unique).mp found
    exact ⟨(id, index), List.mem_filter.mpr ⟨entry, by simpa using chosen⟩, rfl⟩

/-- In order, the first value found is that of the smallest number that has one. -/
theorem findSome?_eq_some_of_sorted {α : Type} {numbers : List Nat} (sorted : numbers.Pairwise (· < ·))
    {valueOf : Nat → Option α} {value : α} :
    numbers.findSome? valueOf = some value ↔
      ∃ n ∈ numbers, valueOf n = some value ∧ ∀ m ∈ numbers, m < n → valueOf m = none := by
  rw [List.findSome?_eq_some_iff]
  constructor
  · rintro ⟨before, n, after, rfl, found, none⟩
    refine ⟨n, by simp, found, fun m member below => ?_⟩
    obtain ⟨_, tail, _⟩ := List.pairwise_append.mp sorted
    rcases List.mem_append.mp member with earlier | later
    · exact none m earlier
    · rcases List.mem_cons.mp later with rfl | later
      · omega
      · have := (List.pairwise_cons.mp tail).1 m later
        omega
  · rintro ⟨n, member, found, none⟩
    obtain ⟨before, after, rfl⟩ := List.append_of_mem member
    refine ⟨before, n, after, rfl, found, fun m earlier => ?_⟩
    obtain ⟨_, _, across⟩ := List.pairwise_append.mp sorted
    exact none m (List.mem_append_left _ earlier) (across m earlier n List.mem_cons_self)

/-- **A group stands for the class of a hint**: the hint leads it and is the smallest of its class, the
members are the ids of the class, and the description is the first that a hint of the class has. -/
structure HintGroup.StandsFor (hintOf : String → Option Nat) (edges : List FlowEdge) (hints : List WorkflowHint)
    (group : HintGroup) (root : Nat) : Prop where
  lead : hints[root]? = some group.lead
  least : ∀ i, HttpLinked hintOf edges root i → root ≤ i
  members : ∀ id, id ∈ group.members ↔ InClass hintOf edges root id
  description : ∀ text, group.description = some text ↔ ∃ i, HttpLinked hintOf edges root i ∧
    (hints[i]?).bind (·.description) = some text ∧
    ∀ j, HttpLinked hintOf edges root j → j < i → (hints[j]?).bind (·.description) = none

/-! ## The groups -/

section Groups

variable {graph : FlowGraph} {edges : List FlowEdge} {passes : Nat} {hints : List WorkflowHint}

/-- The membership that the groups are made from. -/
def settled (graph : FlowGraph) (edges : List FlowEdge) (passes : Nat) (hints : List WorkflowHint) : Membership :=
  ((Membership.ofHints graph hints).adopt graph edges passes).1

theorem hintGroups_eq (graph : FlowGraph) (edges : List FlowEdge) (passes : Nat) (hints : List WorkflowHint) :
    hintGroups graph edges passes hints =
      let merged := WorkflowHint.merge hints
      let membership := settled graph edges passes merged
      (mergeLinked merged.length (httpLinks membership edges)).filterMap (hintGroup? graph merged membership) :=
  rfl

theorem linked_settled {a b : Nat} :
    Linked hints.length (httpLinks (settled graph edges passes hints) edges) a b ↔
      HttpLinked (Membership.hintOf? graph edges hints passes) edges a b := by
  have reading := Membership.get?_adopt_ofHints graph edges hints passes
  have inRange : ∀ id number, (settled graph edges passes hints).get? id = some number → number < hints.length := by
    intro id number found
    rw [settled, reading] at found
    exact (Membership.hintOf?_spec found).2
  rw [linked_httpLinks inRange, settled, reading]

theorem standsFor_of_hintGroup? {indices : List Nat} {group : HintGroup}
    (isGroup : indices ∈ mergeLinked hints.length (httpLinks (settled graph edges passes hints) edges))
    (made : hintGroup? graph hints (settled graph edges passes hints) indices = some group) :
    ∃ root, root ∈ indices ∧ group.StandsFor (Membership.hintOf? graph edges hints passes) edges hints root := by
  obtain ⟨root, _, head, sorted, least, linked⟩ := mergeLinked_spec isGroup
  obtain ⟨root', head', lead, description, members, _⟩ := hintGroup?_eq_some made
  obtain rfl : root = root' := Option.some.inj (head.symm.trans head')
  have unique := Membership.nodup_keys_adopt_ofHints graph edges hints passes
  have inGroup : ∀ i, i ∈ indices ↔ HttpLinked (Membership.hintOf? graph edges hints passes) edges root i :=
    fun i => (linked i).trans linked_settled
  refine ⟨root, List.mem_of_head? head, lead, fun i related => least i ((inGroup i).mpr related), fun id => ?_,
    fun text => ?_⟩
  · rw [members, settled, mem_members_of_indices unique, Membership.get?_adopt_ofHints]
    exact ⟨fun ⟨i, chosen, own⟩ => ⟨i, own, (inGroup i).mp chosen⟩, fun ⟨i, own, related⟩ => ⟨i, (inGroup i).mpr related, own⟩⟩
  · rw [description, findSome?_eq_some_of_sorted sorted]
    simp only [inGroup]

/-- **Every group stands for a class of merged hints.** -/
theorem hintGroup_standsFor {group : HintGroup} (isGroup : group ∈ hintGroups graph edges passes hints) :
    ∃ root, group.StandsFor (Membership.hintOf? graph edges (WorkflowHint.merge hints) passes) edges
      (WorkflowHint.merge hints) root := by
  rw [hintGroups_eq] at isGroup
  obtain ⟨indices, isMerged, made⟩ := List.mem_filterMap.mp isGroup
  obtain ⟨root, _, stands⟩ := standsFor_of_hintGroup? isMerged made
  exact ⟨root, stands⟩

/-- The hint that leads a group has the id of a hint. -/
theorem exists_hint_of_lead {group : HintGroup} (isGroup : group ∈ hintGroups graph edges passes hints) :
    ∃ hint ∈ hints, hint.id = group.lead.id := by
  obtain ⟨_, stands⟩ := hintGroup_standsFor isGroup
  have isLead : group.lead.id ∈ (WorkflowHint.merge hints).map (·.id) :=
    List.mem_map_of_mem (List.mem_of_getElem? stands.lead)
  exact List.mem_map.mp (WorkflowHint.mem_ids_merge.mp isLead)

/-- **Every merged hint has a group that stands for its class.** -/
theorem exists_hintGroup {i : Nat} (inRange : i < (WorkflowHint.merge hints).length) :
    ∃ group ∈ hintGroups graph edges passes hints, ∃ root,
      group.StandsFor (Membership.hintOf? graph edges (WorkflowHint.merge hints) passes) edges
        (WorkflowHint.merge hints) root ∧
      HttpLinked (Membership.hintOf? graph edges (WorkflowHint.merge hints) passes) edges root i := by
  obtain ⟨indices, isMerged, member⟩ := exists_mem_mergeLinked
    (httpLinks (settled graph edges passes (WorkflowHint.merge hints)) edges) inRange
  obtain ⟨root, inRoot, head, _, _, linked⟩ := mergeLinked_spec isMerged
  have made : ∃ group, hintGroup? graph (WorkflowHint.merge hints)
      (settled graph edges passes (WorkflowHint.merge hints)) indices = some group := by
    simp [hintGroup?, head, List.getElem?_eq_getElem inRoot]
  obtain ⟨group, made⟩ := made
  refine ⟨group, List.mem_filterMap.mpr ⟨indices, isMerged, made⟩, ?_⟩
  obtain ⟨lead, isLead, stands⟩ := standsFor_of_hintGroup? isMerged made
  exact ⟨lead, stands, linked_settled.mp (.trans _ _ _ (.symm _ _ ((linked lead).mp isLead)) ((linked i).mp member))⟩

/-- A group lists its members once, and its pieces are those of its members. -/
theorem hintGroup_made {group : HintGroup} (isGroup : group ∈ hintGroups graph edges passes hints) :
    group.members.Nodup ∧ group.pieces = graph.pieces group.members := by
  rw [hintGroups_eq] at isGroup
  obtain ⟨indices, _, made⟩ := List.mem_filterMap.mp isGroup
  obtain ⟨_, _, _, _, members, pieces⟩ := hintGroup?_eq_some made
  exact ⟨members ▸ nodup_sortedTexts _, pieces⟩

/-- **Groups apart**: no two have a leading id or a member in common, members are known and listed once,
and pieces hold members. -/
structure Apart (graph : FlowGraph) (groups : List HintGroup) : Prop where
  leads : (groups.map (·.lead.id)).Nodup
  members : (groups.flatMap (·.members)).Nodup
  known : ∀ group ∈ groups, ∀ id ∈ group.members, graph.contains id
  pieces : ∀ group ∈ groups, ∀ piece ∈ group.pieces, ∀ id ∈ piece, id ∈ group.members

/-- **The groups that hints make are apart.** -/
theorem hintGroups_apart (graph : FlowGraph) (edges : List FlowEdge) (passes : Nat) (hints : List WorkflowHint) :
    Apart graph (hintGroups graph edges passes hints) := by
  have separate : (hintGroups graph edges passes hints).Pairwise fun a b =>
      a.lead.id ≠ b.lead.id ∧ List.Disjoint a.members b.members := by
    rw [hintGroups_eq, List.pairwise_filterMap]
    refine (mergeLinked_disjoint _ _).imp_of_mem fun {as bs} isA isB disjoint a madeA b madeB => ?_
    obtain ⟨i, inA, standsA⟩ := standsFor_of_hintGroup? isA madeA
    obtain ⟨j, inB, standsB⟩ := standsFor_of_hintGroup? isB madeB
    refine ⟨fun same => ?_, fun id memberA memberB => ?_⟩
    · obtain rfl := index_eq_of_nodup_map (WorkflowHint.nodup_ids_merge hints) standsA.lead standsB.lead same
      exact disjoint inA inB
    -- a common member would put one hint into both lists of indices
    · obtain ⟨_, _, _, _, _, linkedA⟩ := mergeLinked_spec isA
      obtain ⟨own, isOwn, relatedA⟩ := (standsA.members id).mp memberA
      obtain ⟨own', isOwn', relatedB⟩ := (standsB.members id).mp memberB
      obtain rfl : own = own' := Option.some.inj (isOwn.symm.trans isOwn')
      obtain ⟨_, _, _, _, _, linkedB⟩ := mergeLinked_spec isB
      refine disjoint ((linkedA own).mpr ?_) ((linkedB own).mpr ?_)
      · exact .trans _ _ _ ((linkedA i).mp inA) (linked_settled.mpr relatedA)
      · exact .trans _ _ _ ((linkedB j).mp inB) (linked_settled.mpr relatedB)
  refine ⟨?_, ?_, fun group isGroup id member => ?_, fun group isGroup piece isPiece => ?_⟩
  · rw [List.Nodup, List.pairwise_map]
    exact separate.imp And.left
  · rw [List.nodup_flatMap]
    exact ⟨fun group isGroup => (hintGroup_made isGroup).1, separate.imp And.right⟩
  · obtain ⟨root, stands⟩ := hintGroup_standsFor isGroup
    obtain ⟨own, isOwn, _⟩ := (stands.members id).mp member
    exact (Membership.hintOf?_spec isOwn).1
  · rw [(hintGroup_made isGroup).2] at isPiece
    exact FlowGraph.mem_of_mem_pieces isPiece

end Groups

end WorkflowAtlas
