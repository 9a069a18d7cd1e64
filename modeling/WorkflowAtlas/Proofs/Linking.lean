import Mathlib.Data.List.Pairwise
import Mathlib.Data.List.Sort
import Mathlib.Logic.Relation
import WorkflowAtlas.Proofs.Listing
import WorkflowAtlas.Workflow.Membership

/-!
# Merging computes the closure of links

Indices are **linked** when a chain of links joins them, each link between two indices in range and
taken in either direction: the equivalence closure of the links. Merging walks the links once and
keeps a label for each index.

**The law** (`mergeLinked_closure`): the merged groups partition the indices in range (`PartitionsBy`), two
indices share a group exactly when they are linked, and the groups come out the same for the same links in
any order and direction. Of one group, `mergeLinked_spec` says that it is led by its smallest index, is in
order, and holds exactly what is linked with its lead.

The proof keeps one invariant along the links (`Labels`): a label is linked with its index and not
above it. Labels that agree go on agreeing, and the ends of a link agree once it is walked; soundness
is the invariant, completeness the agreement. That the order of links does not matter is not read off the
walk: a relation has one partition (`PartitionsBy.unique`), and the relation knows no order. Nor does it matter
which labels are kept: those of any other way to merge, such as the roots of disjoint sets, give the same groups
once these are sorted by their first indices, as long as linked indices have equal labels and no others do
(`mergeLinked_eq_sortedByFirst`).
-/

namespace WorkflowAtlas

/-- A link between two indices in range. -/
def Joins (count : Nat) (links : List (Nat × Nat)) (a b : Nat) : Prop :=
  (a, b) ∈ links ∧ a < count ∧ b < count

/-- **Linked indices**: a chain of links in range joins them. -/
def Linked (count : Nat) (links : List (Nat × Nat)) : Nat → Nat → Prop :=
  Relation.EqvGen (Joins count links)

/-- What agrees across every pair of a relation agrees across its equivalence closure. -/
theorem eqvGen_agree {α β : Type} {relation : α → α → Prop} (value : α → β)
    (agree : ∀ a b, relation a b → value a = value b) {a b : α} (linked : Relation.EqvGen relation a b) :
    value a = value b :=
  (eq_equivalence.comap value).eqvGen_iff.mp (Relation.EqvGen.mono agree a b linked)

/-! ## Labels -/

/-- **Labels of indices below `count`**: each index is related with its label, which is not above it. -/
structure Labels (relation : Nat → Nat → Prop) (count : Nat) (labels : List Nat) : Prop where
  length : labels.length = count
  below : ∀ i label : Nat, labels[i]? = some label → label ≤ i
  related : ∀ i label : Nat, labels[i]? = some label → Relation.EqvGen relation i label

section Labels

variable {relation : Nat → Nat → Prop} {count : Nat} {labels : List Nat}

/-- At first every index is its own label. -/
theorem labels_range (relation : Nat → Nat → Prop) (count : Nat) : Labels relation count (List.range count) := by
  have self : ∀ i label : Nat, (List.range count)[i]? = some label → i = label := by
    intro i label found
    obtain ⟨_, same⟩ := List.getElem?_eq_some_iff.mp found
    simpa using same
  refine ⟨by simp, fun i label found => ?_, fun i label found => ?_⟩
  · exact Nat.le_of_eq (self i label found).symm
  · rw [self i label found]
    exact .refl label

theorem Labels.exists_label (sound : Labels relation count labels) {i : Nat} (inRange : i < count) :
    ∃ label, labels[i]? = some label :=
  ⟨_, List.getElem?_eq_getElem (sound.length.symm ▸ inRange)⟩

/-- Joining two related indices gives labels again. -/
theorem Labels.join (sound : Labels relation count labels) {a b : Nat}
    (joined : a < count → b < count → relation a b) : Labels relation count (joinLabels labels a b) := by
  unfold joinLabels
  split
  · next x y atA atB =>
    have bothIn : a < count ∧ b < count := by
      rw [← sound.length]
      exact ⟨(List.getElem?_eq_some_iff.mp atA).1, (List.getElem?_eq_some_iff.mp atB).1⟩
    -- the two labels are related through the ends of the link
    have across : Relation.EqvGen relation x y :=
      .trans _ _ _ (.symm _ _ (sound.related a x atA))
        (.trans _ _ _ (.rel _ _ (joined bothIn.1 bothIn.2)) (sound.related b y atB))
    have downward : Relation.EqvGen relation (max x y) (min x y) := by
      rcases Nat.le_total x y with le | le
      · rw [Nat.max_eq_right le, Nat.min_eq_left le]
        exact .symm _ _ across
      · rw [Nat.max_eq_left le, Nat.min_eq_right le]
        exact across
    have moved : ∀ i label : Nat,
        (labels.map fun label => if label = max x y then min x y else label)[i]? = some label →
          ∃ before, labels[i]? = some before ∧ (if before = max x y then min x y else before) = label := by
      intro i label found
      rw [List.getElem?_map] at found
      exact Option.map_eq_some_iff.mp found
    refine ⟨by rw [List.length_map, sound.length], fun i label found => ?_, fun i label found => ?_⟩
    · obtain ⟨before, atI, rfl⟩ := moved i label found
      have := sound.below i before atI
      split <;> omega
    · obtain ⟨before, atI, rfl⟩ := moved i label found
      have related := sound.related i before atI
      split
      · next largest =>
        rw [largest] at related
        exact .trans _ _ _ related downward
      · exact related
  · exact sound

/-- Joining keeps together what is together. -/
theorem joinLabels_agree {a b i j : Nat} (same : labels[i]? = labels[j]?) :
    (joinLabels labels a b)[i]? = (joinLabels labels a b)[j]? := by
  unfold joinLabels
  split
  · rw [List.getElem?_map, List.getElem?_map, same]
  · exact same

/-- Joining two indices in range gives them one label. -/
theorem joinLabels_joined (sound : Labels relation count labels) {a b : Nat} (inA : a < count) (inB : b < count) :
    (joinLabels labels a b)[a]? = (joinLabels labels a b)[b]? := by
  obtain ⟨x, atA⟩ := sound.exists_label inA
  obtain ⟨y, atB⟩ := sound.exists_label inB
  unfold joinLabels
  simp only [atA, atB, List.getElem?_map, Option.map_some, Option.some.injEq]
  rcases Nat.le_total x y with le | le
  · rw [Nat.max_eq_right le, Nat.min_eq_left le, if_pos rfl]
    split <;> omega
  · rw [Nat.max_eq_left le, Nat.min_eq_right le, if_pos rfl]
    split <;> omega

/-- **Walking the links** keeps labels, keeps together what is together, and joins the ends of each
link in range. -/
theorem foldl_joinLabels (links : List (Nat × Nat)) (sound : Labels relation count labels)
    (joined : ∀ a b, Joins count links a b → relation a b) :
    let final := links.foldl (fun labels (a, b) => joinLabels labels a b) labels
    Labels relation count final ∧ (∀ i j : Nat, labels[i]? = labels[j]? → final[i]? = final[j]?) ∧
      ∀ a b, Joins count links a b → final[a]? = final[b]? := by
  induction links generalizing labels with
  | nil => exact ⟨sound, fun _ _ same => same, fun a b joins => absurd joins.1 List.not_mem_nil⟩
  | cons link links ih =>
    obtain ⟨x, y⟩ := link
    have next := sound.join (a := x) (b := y) fun inX inY => joined x y ⟨List.mem_cons_self, inX, inY⟩
    obtain ⟨final, keeps, joins⟩ := ih next fun a b joins => joined a b ⟨List.mem_cons_of_mem _ joins.1, joins.2⟩
    refine ⟨final, fun i j same => keeps i j (joinLabels_agree same), ?_⟩
    rintro a b ⟨isLink, inA, inB⟩
    rcases List.mem_cons.mp isLink with first | later
    · obtain ⟨rfl, rfl⟩ := Prod.mk.inj first
      exact keeps a b (joinLabels_joined sound inA inB)
    · exact joins a b ⟨later, inA, inB⟩

end Labels

/-! ## Groups -/

section Groups

variable {count : Nat} {links : List (Nat × Nat)}

theorem linkLabels_labels (count : Nat) (links : List (Nat × Nat)) :
    Labels (Joins count links) count (linkLabels count links) :=
  (foldl_joinLabels links (labels_range _ count) fun _ _ joins => joins).1

/-- **An index in range has the label of another exactly when they are linked.** -/
theorem linkLabels_agree_iff {i j : Nat} (inRange : i < count) :
    (linkLabels count links)[i]? = (linkLabels count links)[j]? ↔ Linked count links i j := by
  have sound := linkLabels_labels count links
  constructor
  · intro same
    obtain ⟨label, atI⟩ := sound.exists_label inRange
    have fromI := sound.related i label atI
    have fromJ := sound.related j label (same ▸ atI)
    exact .trans _ _ _ fromI (.symm _ _ fromJ)
  · intro linked
    have joined := (foldl_joinLabels links (labels_range (Joins count links) count) fun _ _ joins => joins).2.2
    exact eqvGen_agree (fun i => (linkLabels count links)[i]?) joined linked

/-- A label is its own label. -/
theorem linkLabels_self {i root : Nat} (found : (linkLabels count links)[i]? = some root) :
    (linkLabels count links)[root]? = some root := by
  have sound := linkLabels_labels count links
  have inI : i < count := sound.length ▸ (List.getElem?_eq_some_iff.mp found).1
  rw [← found]
  exact ((linkLabels_agree_iff inI).mpr (sound.related i root found)).symm

/-- The indices that have a label, in order. -/
def indicesOf (labels : List Nat) (root : Nat) : List Nat :=
  ((labels.zipIdx).filter fun (label, _) => label = root).map (·.2)

/-- **The groups of equal labels**, in the order in which the labels are first seen. -/
def groupsOf (labels : List Nat) : List (List Nat) :=
  labels.eraseDups.map (indicesOf labels)

theorem mergeLinked_eq (count : Nat) (links : List (Nat × Nat)) :
    mergeLinked count links = groupsOf (linkLabels count links) :=
  rfl

theorem mem_indicesOf {labels : List Nat} {root i : Nat} : i ∈ indicesOf labels root ↔ labels[i]? = some root := by
  unfold indicesOf
  rw [List.mem_map]
  constructor
  · rintro ⟨⟨label, index⟩, member, rfl⟩
    obtain ⟨listed, same⟩ := List.mem_filter.mp member
    have label_eq : label = root := by simpa using same
    rw [← label_eq]
    exact List.mem_zipIdx_iff_getElem?.mp listed
  · intro found
    exact ⟨(root, i), List.mem_filter.mpr ⟨List.mem_zipIdx_iff_getElem?.mpr found, by simp⟩, rfl⟩

theorem indicesOf_sorted (labels : List Nat) (root : Nat) : (indicesOf labels root).Pairwise (· < ·) := by
  have sub : (indicesOf labels root).Sublist (labels.zipIdx.map (·.2)) := List.filter_sublist.map _
  rw [List.zipIdx_map_snd] at sub
  exact (List.pairwise_lt_range' ..).sublist sub

theorem mem_groupsOf {labels group : List Nat} :
    group ∈ groupsOf labels ↔ ∃ root ∈ labels, indicesOf labels root = group := by
  simp only [groupsOf, List.mem_map, List.mem_eraseDups]

/-- Every index that has a label is in a group. -/
theorem exists_mem_groupsOf {labels : List Nat} {i : Nat} (inRange : i < labels.length) :
    ∃ group ∈ groupsOf labels, i ∈ group := by
  have found : labels[i]? = some labels[i] := List.getElem?_eq_getElem inRange
  exact ⟨_, mem_groupsOf.mpr ⟨_, List.mem_of_getElem? found, rfl⟩, mem_indicesOf.mpr found⟩

/-- Different groups have no index in common. -/
theorem groupsOf_disjoint (labels : List Nat) : (groupsOf labels).Pairwise List.Disjoint := by
  rw [groupsOf, List.pairwise_map]
  refine (nodup_eraseDups _).imp fun {a b} differ i inA inB => differ ?_
  rw [mem_indicesOf] at inA inB
  exact Option.some.inj (inA.symm.trans inB)

/-- The groups hold every index that has a label once. -/
theorem flatten_groupsOf_perm (labels : List Nat) : (groupsOf labels).flatten.Perm (List.range labels.length) := by
  have once : (groupsOf labels).flatten.Nodup := by
    refine List.nodup_flatten.mpr ⟨fun group isGroup => ?_, groupsOf_disjoint labels⟩
    obtain ⟨root, _, rfl⟩ := mem_groupsOf.mp isGroup
    exact (indicesOf_sorted labels root).imp Nat.ne_of_lt
  refine (List.perm_ext_iff_of_nodup once List.nodup_range).mpr fun i => ?_
  rw [List.mem_flatten, List.mem_range]
  constructor
  · rintro ⟨group, isGroup, member⟩
    obtain ⟨root, _, rfl⟩ := mem_groupsOf.mp isGroup
    exact (List.getElem?_eq_some_iff.mp (mem_indicesOf.mp member)).1
  · exact exists_mem_groupsOf

/-- **Indices share a group exactly when their labels agree.** -/
theorem exists_groupsOf_iff {labels : List Nat} {i j : Nat} (inRange : i < labels.length) :
    (∃ group ∈ groupsOf labels, i ∈ group ∧ j ∈ group) ↔ labels[i]? = labels[j]? := by
  constructor
  · rintro ⟨group, isGroup, memberI, memberJ⟩
    obtain ⟨root, _, rfl⟩ := mem_groupsOf.mp isGroup
    exact (mem_indicesOf.mp memberI).trans (mem_indicesOf.mp memberJ).symm
  · intro same
    obtain ⟨group, isGroup, member⟩ := exists_mem_groupsOf inRange
    refine ⟨group, isGroup, member, ?_⟩
    obtain ⟨root, _, rfl⟩ := mem_groupsOf.mp isGroup
    rw [mem_indicesOf, ← same]
    exact mem_indicesOf.mp member

/-- A list in order that holds a number below all others starts with it. -/
theorem head?_eq_of_sorted {numbers : List Nat} {least : Nat} (sorted : numbers.Pairwise (· < ·))
    (member : least ∈ numbers) (below : ∀ n ∈ numbers, least ≤ n) : numbers.head? = some least := by
  cases numbers with
  | nil => exact absurd member List.not_mem_nil
  | cons first rest =>
    rcases List.mem_cons.mp member with rfl | later
    · rfl
    · have before := (List.pairwise_cons.mp sorted).1 least later
      have after := below first List.mem_cons_self
      omega

/-- The indices of a label start with the label. -/
theorem head?_indicesOf {i root : Nat} (found : (linkLabels count links)[i]? = some root) :
    (indicesOf (linkLabels count links) root).head? = some root := by
  refine head?_eq_of_sorted (indicesOf_sorted _ root) (mem_indicesOf.mpr (linkLabels_self found)) fun i member => ?_
  exact (linkLabels_labels count links).below i root (mem_indicesOf.mp member)

/-- **A merged group** is in order, starts with its smallest index and holds exactly what is linked with
it. -/
theorem mergeLinked_spec {group : List Nat} (isGroup : group ∈ mergeLinked count links) :
    ∃ root, root < count ∧ group.head? = some root ∧ group.Pairwise (· < ·) ∧
      (∀ i ∈ group, root ≤ i) ∧ ∀ i, i ∈ group ↔ Linked count links root i := by
  have sound := linkLabels_labels count links
  rw [mergeLinked_eq, mem_groupsOf] at isGroup
  obtain ⟨root, isRoot, rfl⟩ := isGroup
  obtain ⟨i, found⟩ := List.mem_iff_getElem?.mp isRoot
  have self := linkLabels_self found
  have inRoot : root < count := sound.length ▸ (List.getElem?_eq_some_iff.mp self).1
  have least : ∀ i ∈ indicesOf (linkLabels count links) root, root ≤ i :=
    fun i member => sound.below i root (mem_indicesOf.mp member)
  refine ⟨root, inRoot, ?_, indicesOf_sorted _ root, least, fun i => ?_⟩
  · exact head?_indicesOf found
  · rw [mem_indicesOf]
    constructor
    · intro found
      exact .symm _ _ (sound.related i root found)
    · intro linked
      rw [← (linkLabels_agree_iff inRoot).mpr linked]
      exact self

/-- Every index in range is in a group. -/
theorem exists_mem_mergeLinked (links : List (Nat × Nat)) {i : Nat} (inRange : i < count) :
    ∃ group ∈ mergeLinked count links, i ∈ group :=
  exists_mem_groupsOf ((linkLabels_labels count links).length.symm ▸ inRange)

theorem mergeLinked_disjoint (count : Nat) (links : List (Nat × Nat)) :
    (mergeLinked count links).Pairwise List.Disjoint :=
  groupsOf_disjoint (linkLabels count links)

/-- Labels are first seen in order, each at its own place. -/
theorem roots_sorted (count : Nat) (links : List (Nat × Nat)) :
    (linkLabels count links).eraseDups.Pairwise (· < ·) := by
  have place : ∀ root ∈ (linkLabels count links).eraseDups, (linkLabels count links).idxOf root = root := by
    intro root isRoot
    have listed := List.mem_eraseDups.mp isRoot
    have first := List.getElem?_idxOf listed
    have notAfter : root ≤ (linkLabels count links).idxOf root :=
      (linkLabels_labels count links).below _ root first
    have notBefore : (linkLabels count links).idxOf root ≤ root := by
      by_contra later
      obtain ⟨inRange, self⟩ := List.getElem?_eq_some_iff.mp (linkLabels_self first)
      have other := List.not_of_lt_findIdx (Nat.lt_of_not_le later)
      simp [self] at other
    omega
  refine (firstSeen_eraseDups (linkLabels count links)).ordered.imp_of_mem fun isA isB before => ?_
  rwa [place _ isA, place _ isB] at before

end Groups

/-! ## The partition -/

/-- **Groups that partition the numbers below `count`** into the classes of a relation, written in one way: each
group ascending, and the groups in the order of their first numbers. -/
structure PartitionsBy (count : Nat) (related : Nat → Nat → Prop) (groups : List (List Nat)) : Prop where
  nonempty : ∀ group ∈ groups, group ≠ []
  ascending : ∀ group ∈ groups, group.Pairwise (· < ·)
  ordered : groups.Pairwise fun a b => ∀ i ∈ a.head?, ∀ j ∈ b.head?, i < j
  covers : groups.flatten.Perm (List.range count)
  together : ∀ i j, i < count → j < count → ((∃ group ∈ groups, i ∈ group ∧ j ∈ group) ↔ related i j)

namespace PartitionsBy

variable {count : Nat} {related : Nat → Nat → Prop} {groups others : List (List Nat)} {group : List Nat} {i j : Nat}

theorem lt_of_mem (parts : PartitionsBy count related groups) (isGroup : group ∈ groups) (member : i ∈ group) :
    i < count :=
  List.mem_range.mp (parts.covers.mem_iff.mp (List.mem_flatten_of_mem isGroup member))

theorem exists_group (parts : PartitionsBy count related groups) (inRange : i < count) :
    ∃ group ∈ groups, i ∈ group :=
  List.mem_flatten.mp (parts.covers.mem_iff.mpr (List.mem_range.mpr inRange))

/-- A number is in one group only. -/
theorem group_eq (parts : PartitionsBy count related groups) {other : List Nat} (isGroup : group ∈ groups)
    (isOther : other ∈ groups) (member : i ∈ group) (again : i ∈ other) : group = other := by
  have once : groups.flatten.Nodup := parts.covers.nodup_iff.mpr List.nodup_range
  have symmetric : Std.Symm (@List.Disjoint Nat) := ⟨fun _ _ => List.disjoint_symm⟩
  by_contra differ
  exact (List.nodup_flatten.mp once).2.forall isGroup isOther differ member again

/-- **A group holds what is related with any of its members.** -/
theorem mem_iff (parts : PartitionsBy count related groups) (isGroup : group ∈ groups) (member : i ∈ group) :
    j ∈ group ↔ j < count ∧ related i j := by
  have inRange := parts.lt_of_mem isGroup member
  constructor
  · intro other
    have inRangeJ := parts.lt_of_mem isGroup other
    exact ⟨inRangeJ, (parts.together i j inRange inRangeJ).mp ⟨group, isGroup, member, other⟩⟩
  · rintro ⟨inRangeJ, isRelated⟩
    obtain ⟨shared, isShared, inShared, otherIn⟩ := (parts.together i j inRange inRangeJ).mpr isRelated
    rwa [parts.group_eq isGroup isShared member inShared]

theorem mem_of_mem (parts : PartitionsBy count related groups) (also : PartitionsBy count related others)
    (isGroup : group ∈ groups) : group ∈ others := by
  obtain ⟨i, member⟩ := List.exists_mem_of_ne_nil group (parts.nonempty group isGroup)
  obtain ⟨other, isOther, again⟩ := also.exists_group (parts.lt_of_mem isGroup member)
  have same : group = other := by
    refine (parts.ascending group isGroup).eq_of_mem_iff (also.ascending other isOther) fun j => ?_
    rw [parts.mem_iff isGroup member, also.mem_iff isOther again]
  rwa [same]

theorem nodup (parts : PartitionsBy count related groups) : groups.Nodup := by
  refine parts.ordered.imp_of_mem fun {a b} isA _ before same => ?_
  obtain ⟨i, atHead⟩ := Option.isSome_iff_exists.mp (List.isSome_head?.mpr (parts.nonempty a isA))
  exact Nat.lt_irrefl i (before i atHead i (same ▸ atHead))

/-- **A relation has one partition.** -/
theorem unique (parts : PartitionsBy count related groups) (also : PartitionsBy count related others) :
    groups = others := by
  have perm : groups.Perm others := (List.perm_ext_iff_of_nodup parts.nodup also.nodup).mpr fun group =>
    ⟨parts.mem_of_mem also, also.mem_of_mem parts⟩
  refine List.Perm.eq_of_pairwise (fun a b isA isB before after => ?_) parts.ordered also.ordered perm
  obtain ⟨i, atA⟩ := Option.isSome_iff_exists.mp (List.isSome_head?.mpr (parts.nonempty a isA))
  obtain ⟨j, atB⟩ := Option.isSome_iff_exists.mp (List.isSome_head?.mpr (also.nonempty b isB))
  exact absurd (before i atA j atB) (Nat.lt_asymm (after j atB i atA))

end PartitionsBy

/-- **Labels partition the indices.** Where labels agree exactly on related indices, the groups of equal labels are
the classes of the relation, in whatever order they are brought. -/
theorem partitionsBy_of_labels {count : Nat} {related : Nat → Nat → Prop} {labels : List Nat}
    {groups : List (List Nat)} (length : labels.length = count)
    (agree : ∀ i j, i < count → j < count → (labels[i]? = labels[j]? ↔ related i j))
    (perm : groups.Perm (groupsOf labels))
    (ordered : groups.Pairwise fun a b => ∀ i ∈ a.head?, ∀ j ∈ b.head?, i < j) :
    PartitionsBy count related groups where
  nonempty := by
    intro group isGroup
    obtain ⟨root, isRoot, rfl⟩ := mem_groupsOf.mp (perm.mem_iff.mp isGroup)
    obtain ⟨i, found⟩ := List.mem_iff_getElem?.mp isRoot
    exact List.ne_nil_of_mem (mem_indicesOf.mpr found)
  ascending := by
    intro group isGroup
    obtain ⟨root, _, rfl⟩ := mem_groupsOf.mp (perm.mem_iff.mp isGroup)
    exact indicesOf_sorted labels root
  ordered := ordered
  covers := length ▸ perm.flatten.trans (flatten_groupsOf_perm labels)
  together := by
    intro i j inI inJ
    rw [← agree i j inI inJ, ← exists_groupsOf_iff (length.symm ▸ inI)]
    simp only [perm.mem_iff]

theorem mergeLinked_partitions (count : Nat) (links : List (Nat × Nat)) :
    PartitionsBy count (Linked count links) (mergeLinked count links) := by
  refine partitionsBy_of_labels (linkLabels_labels count links).length
    (fun _ _ inI _ => linkLabels_agree_iff inI) (.refl _) ?_
  rw [mergeLinked_eq, groupsOf, List.pairwise_map]
  refine (roots_sorted count links).imp_of_mem fun {a b} isA isB before i atA j atB => ?_
  obtain ⟨_, foundA⟩ := List.mem_iff_getElem?.mp (List.mem_eraseDups.mp isA)
  obtain ⟨_, foundB⟩ := List.mem_iff_getElem?.mp (List.mem_eraseDups.mp isB)
  cases (head?_indicesOf foundA).symm.trans atA
  cases (head?_indicesOf foundB).symm.trans atB
  exact before

/-! ## Other labels -/

/-- Groups sorted by their first indices. -/
def sortedByFirst (groups : List (List Nat)) : List (List Nat) :=
  groups.mergeSort fun a b => a.headD 0 ≤ b.headD 0

/-- The first indices of groups without a common index increase strictly once they are sorted. -/
theorem sortedByFirst_ordered {groups : List (List Nat)} (disjoint : groups.Pairwise List.Disjoint) :
    (sortedByFirst groups).Pairwise fun a b => ∀ i ∈ a.head?, ∀ j ∈ b.head?, i < j := by
  have sorted : (sortedByFirst groups).Pairwise fun a b => decide (a.headD 0 ≤ b.headD 0) = true := by
    apply List.pairwise_mergeSort
    · intro a b c first second
      simp only [decide_eq_true_eq] at first second ⊢
      omega
    · intro a b
      simp only [Bool.or_eq_true, decide_eq_true_eq]
      omega
  have apart : (sortedByFirst groups).Pairwise List.Disjoint :=
    ((List.mergeSort_perm groups _).pairwise_iff List.disjoint_symm).mpr disjoint
  refine (sorted.and apart).imp fun {a b} ⟨notAfter, disjoint⟩ i atA j atB => ?_
  have differ : i ≠ j := by
    rintro rfl
    exact disjoint (List.mem_of_head? atA) (List.mem_of_head? atB)
  rw [decide_eq_true_eq, List.headD_eq_head?_getD, List.headD_eq_head?_getD, atA, atB] at notAfter
  exact Nat.lt_of_le_of_ne notAfter differ

/-- **Any labels with the classes of linked indices give the merged groups**, once these are sorted. -/
theorem mergeLinked_eq_sortedByFirst {count : Nat} {links : List (Nat × Nat)} {labels : List Nat}
    (length : labels.length = count)
    (agree : ∀ i j, i < count → j < count → (labels[i]? = labels[j]? ↔ Linked count links i j)) :
    mergeLinked count links = sortedByFirst (groupsOf labels) := by
  have parts : PartitionsBy count (Linked count links) (sortedByFirst (groupsOf labels)) :=
    partitionsBy_of_labels length agree (List.mergeSort_perm _ _) (sortedByFirst_ordered (groupsOf_disjoint labels))
  exact (mergeLinked_partitions count links).unique parts

/-! ## The law -/

/-- **The same links**, whatever their order, their direction and how often they are listed. -/
def SameLinks (links others : List (Nat × Nat)) : Prop :=
  ∀ a b, (a, b) ∈ links ∨ (b, a) ∈ links ↔ (a, b) ∈ others ∨ (b, a) ∈ others

theorem SameLinks.symm {links others : List (Nat × Nat)} (same : SameLinks links others) : SameLinks others links :=
  fun a b => (same a b).symm

theorem SameLinks.linked {links others : List (Nat × Nat)} (same : SameLinks links others) {count i j : Nat}
    (linked : Linked count links i j) : Linked count others i j := by
  show Relation.EqvGen (Joins count others) i j
  refine Relation.EqvGen.eqvGen_le (fun a b joins => ?_) i j linked
  obtain ⟨isLink, inA, inB⟩ := joins
  rcases (same a b).mp (.inl isLink) with forward | backward
  · exact .rel a b ⟨forward, inA, inB⟩
  · exact .symm _ _ (.rel b a ⟨backward, inB, inA⟩)

/-- **Merging computes the classes of linked indices**, and depends on nothing but which indices links join. -/
theorem mergeLinked_closure (count : Nat) (links : List (Nat × Nat)) :
    PartitionsBy count (Linked count links) (mergeLinked count links) ∧
    ∀ others, SameLinks links others → mergeLinked count others = mergeLinked count links := by
  refine ⟨mergeLinked_partitions count links, fun others same => ?_⟩
  have sameRelation : Linked count others = Linked count links := by
    funext i j
    exact propext ⟨same.symm.linked, same.linked⟩
  exact (mergeLinked_partitions count others).unique (sameRelation ▸ mergeLinked_partitions count links)

/-- A chain through `1`, a loop, and a link out of range; listed backwards, turned round and with one repeated. -/
theorem mergeLinked_closure_chain :
    SameLinks [(3, 1), (1, 4), (2, 2), (0, 7)] [(7, 0), (2, 2), (4, 1), (1, 3), (3, 1)] ∧
    PartitionsBy 5 (Linked 5 [(3, 1), (1, 4), (2, 2), (0, 7)]) [[0], [1, 3, 4], [2]] ∧
    mergeLinked 5 [(7, 0), (2, 2), (4, 1), (1, 3), (3, 1)] = [[0], [1, 3, 4], [2]] := by
  have same : SameLinks [(3, 1), (1, 4), (2, 2), (0, 7)] [(7, 0), (2, 2), (4, 1), (1, 3), (3, 1)] := by
    intro a b
    simp only [List.mem_cons, List.not_mem_nil, Prod.mk.injEq, or_false]
    grind
  have merged : mergeLinked 5 [(3, 1), (1, 4), (2, 2), (0, 7)] = [[0], [1, 3, 4], [2]] := by decide
  have closure := mergeLinked_closure 5 [(3, 1), (1, 4), (2, 2), (0, 7)]
  rw [merged] at closure
  exact ⟨same, closure.1, closure.2 _ same⟩

end WorkflowAtlas
