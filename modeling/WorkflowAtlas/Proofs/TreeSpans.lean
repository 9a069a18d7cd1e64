import Mathlib.Data.List.Pairwise
import WorkflowAtlas.Proofs.Listing
import WorkflowAtlas.Scan.Basic

/-!
# Spans of a parse tree

The nodes of a **well-formed** tree span bytes as its shape says: children lie within their parent, one behind
the other.

- `WellFormed.nested`: of two nodes that share a byte, one lies within the other.
- `mem_nodes_of_run`: what a query captures are nodes of the tree, and so are the definitions and the calls that
  are found, and the arguments of calls (`mem_nodes_of_arguments`).
-/

namespace WorkflowAtlas

namespace ParseTree

variable {root node other child : ParseTree} {byte : Nat}

/-! ## Nodes -/

theorem mem_nodesOf {trees : List ParseTree} : node ∈ nodesOf trees ↔ ∃ tree ∈ trees, node ∈ tree.nodes := by
  induction trees with
  | nil => simp [nodesOf]
  | cons tree rest ih => simp [nodesOf, ih]

/-- The nodes of a tree are its root and those of its children. -/
theorem mem_nodes : node ∈ root.nodes ↔ node = root ∨ ∃ child ∈ root.children, node ∈ child.nodes := by
  obtain ⟨label, children⟩ := root
  rw [nodes, List.mem_cons, mem_nodesOf]
  rfl

theorem mem_nodes_self (root : ParseTree) : root ∈ root.nodes :=
  mem_nodes.mpr (.inl rfl)

/-- **Induction on a tree**, with what holds of all children at hand. -/
@[elab_as_elim]
theorem inductionOn {motive : ParseTree → Prop} (root : ParseTree)
    (step : ∀ root, (∀ child ∈ root.children, motive child) → motive root) : motive root := by
  refine @ParseTree.rec motive (fun trees => ∀ tree ∈ trees, motive tree) ?_ ?_ ?_ root
  · exact fun label children below => step (.node label children) below
  · simp
  · intro tree rest first others other isOther
    rcases List.mem_cons.mp isOther with rfl | isOther
    · exact first
    · exact others other isOther

/-- The nodes of a node are nodes of the tree. -/
theorem mem_nodes_trans (isNode : node ∈ root.nodes) (isBelow : other ∈ node.nodes) : other ∈ root.nodes := by
  induction root using inductionOn with
  | step root ih =>
    rcases mem_nodes.mp isNode with rfl | ⟨child, isChild, isNode⟩
    · exact isBelow
    · exact mem_nodes.mpr (.inr ⟨child, isChild, ih child isChild isNode⟩)

theorem mem_nodes_of_child (isNode : node ∈ root.nodes) (isChild : child ∈ node.children) : child ∈ root.nodes :=
  mem_nodes_trans isNode (mem_nodes.mpr (.inr ⟨child, isChild, mem_nodes_self child⟩))

/-! ## Nesting -/

/-- One node spans bytes of another only. -/
def Within (node outer : ParseTree) : Prop :=
  outer.label.start ≤ node.label.start ∧ node.label.stop ≤ outer.label.stop

/-- **A tree whose nodes nest**: the children of a node lie within it, each behind the one before. -/
def WellFormed (root : ParseTree) : Prop :=
  ∀ node ∈ root.nodes, (∀ child ∈ node.children, child.Within node) ∧
    node.children.Pairwise fun first second => first.label.stop ≤ second.label.start

instance (node outer : ParseTree) : Decidable (node.Within outer) :=
  inferInstanceAs (Decidable (_ ∧ _))

instance (root : ParseTree) : Decidable root.WellFormed :=
  inferInstanceAs (Decidable (∀ node ∈ root.nodes, _ ∧ _))

theorem WellFormed.of_mem_nodes (wellFormed : root.WellFormed) (isNode : node ∈ root.nodes) : node.WellFormed :=
  fun other isBelow => wellFormed other (mem_nodes_trans isNode isBelow)

/-- Every node lies within the root. -/
theorem WellFormed.within (wellFormed : root.WellFormed) (isNode : node ∈ root.nodes) : node.Within root := by
  induction root using inductionOn with
  | step root ih =>
    rcases mem_nodes.mp isNode with rfl | ⟨child, isChild, isBelow⟩
    · exact ⟨Nat.le_refl _, Nat.le_refl _⟩
    · have inChild := ih child isChild (wellFormed.of_mem_nodes (mem_nodes_of_child (mem_nodes_self root) isChild)) isBelow
      have inRoot := (wellFormed root (mem_nodes_self root)).1 child isChild
      exact ⟨Nat.le_trans inRoot.1 inChild.1, Nat.le_trans inChild.2 inRoot.2⟩

/-- Whether a node spans a byte. -/
def Spans (node : ParseTree) (byte : Nat) : Prop :=
  node.label.start ≤ byte ∧ byte < node.label.stop

/-- One node ends before the other starts. -/
def Apart (first second : ParseTree) : Prop :=
  first.label.stop ≤ second.label.start ∨ second.label.stop ≤ first.label.start

instance : Std.Symm Apart :=
  ⟨fun _ _ => Or.symm⟩

/-- The byte of one child is in no other. -/
theorem WellFormed.eq_of_spans (wellFormed : root.WellFormed) {first second : ParseTree} (isFirst : first ∈ root.children)
    (isSecond : second ∈ root.children) (inFirst : first.Spans byte) (inSecond : second.Spans byte) : first = second := by
  have apart : root.children.Pairwise Apart := (wellFormed root (mem_nodes_self root)).2.imp .inl
  by_contra differ
  have ordered := apart.forall isFirst isSecond differ
  unfold Apart at ordered
  unfold Spans at inFirst inSecond
  omega

theorem Spans.mono (spans : node.Spans byte) (within : node.Within other) : other.Spans byte :=
  ⟨Nat.le_trans within.1 spans.1, Nat.lt_of_lt_of_le spans.2 within.2⟩

/-- **Of two nodes that share a byte, one lies within the other.** -/
theorem WellFormed.nested (wellFormed : root.WellFormed) (isNode : node ∈ root.nodes) (isOther : other ∈ root.nodes)
    (spans : node.Spans byte) (otherSpans : other.Spans byte) : node.Within other ∨ other.Within node := by
  induction root using inductionOn with
  | step root ih =>
    rcases mem_nodes.mp isNode with rfl | ⟨child, isChild, inChild⟩
    · exact .inr (wellFormed.within isOther)
    · rcases mem_nodes.mp isOther with rfl | ⟨otherChild, isOtherChild, inOther⟩
      · exact .inl (wellFormed.within isNode)
      · have below : ∀ child ∈ root.children, child.WellFormed := fun child isChild =>
          wellFormed.of_mem_nodes (mem_nodes_of_child (mem_nodes_self root) isChild)
        -- Both are below children that have the byte as well, and there is only one of these.
        have same := wellFormed.eq_of_spans isChild isOtherChild (spans.mono ((below child isChild).within inChild))
          (otherSpans.mono ((below otherChild isOtherChild).within inOther))
        subst same
        exact ih child isChild (below child isChild) inChild inOther

end ParseTree

/-! ## Captured nodes -/

section Captures

variable {tree child : ParseTree} {captures : Captures}

theorem subset_of_mem_choices {clear after : Bool} {children rest : List ParseTree}
    (isChoice : (after, child, rest) ∈ choices clear children) : child ∈ children ∧ ∀ other ∈ rest, other ∈ children := by
  induction children generalizing clear with
  | nil => simp [choices] at isChoice
  | cons first others ih =>
    rw [choices] at isChoice
    rcases List.mem_cons.mp isChoice with same | later
    · cases same
      exact ⟨List.mem_cons_self, fun _ isOther => List.mem_cons_of_mem _ isOther⟩
    · obtain ⟨isChild, among⟩ := ih later
      exact ⟨List.mem_cons_of_mem first isChild, fun other isOther => List.mem_cons_of_mem first (among other isOther)⟩

mutual

/-- **A match of a pattern captures nodes below the one it is matched at.** -/
theorem mem_nodes_of_ways (tree : ParseTree) : ∀ (pattern : Pattern), ∀ captures ∈ pattern.ways tree,
    ∀ capture ∈ captures, capture.2 ∈ tree.nodes
  | .node kinds field tag text adjacent children => by
    intro captures isWay capture isCapture
    rw [Pattern.ways.eq_def] at isWay
    dsimp only at isWay
    split at isWay
    · obtain ⟨below, isBelow, rfl⟩ := List.mem_map.mp isWay
      rcases List.mem_append.mp isCapture with isOwn | isCapture
      · cases tag with
        | none => cases isOwn
        | some tag =>
          obtain rfl := List.mem_singleton.mp isOwn
          exact tree.mem_nodes_self
      · obtain ⟨child, isChild, isNode⟩ := mem_nodes_of_waysOf tree.children children below isBelow capture isCapture
        exact ParseTree.mem_nodes.mpr (.inr ⟨child, isChild, isNode⟩)
    · cases isWay

theorem mem_nodes_of_waysOf (trees : List ParseTree) : ∀ (patterns : List Pattern), ∀ captures ∈ waysOf trees patterns,
    ∀ capture ∈ captures, ∃ tree ∈ trees, capture.2 ∈ tree.nodes
  | [] => by simp [waysOf]
  | pattern :: patterns => by
    intro captures isWay capture isCapture
    rw [waysOf] at isWay
    obtain ⟨⟨clear, child, rest⟩, isChoice, isWay⟩ := List.mem_flatMap.mp isWay
    obtain ⟨isChild, among⟩ := subset_of_mem_choices isChoice
    dsimp only at isWay
    split at isWay
    · obtain ⟨first, isFirst, isWay⟩ := List.mem_flatMap.mp isWay
      obtain ⟨others, isOthers, rfl⟩ := List.mem_map.mp isWay
      rcases List.mem_append.mp isCapture with isCapture | isCapture
      · exact ⟨child, isChild, mem_nodes_of_ways child pattern first isFirst capture isCapture⟩
      · obtain ⟨tree, isTree, isNode⟩ := mem_nodes_of_waysOf rest patterns others isOthers capture isCapture
        exact ⟨tree, among tree isTree, isNode⟩
    · cases isWay

end

/-- **A query captures nodes of the tree.** -/
theorem mem_nodes_of_run {query : Query} {root node : ParseTree} {tag : Tag} (isMatch : captures ∈ query.run root)
    (isCaptured : captures.get? tag = some node) : node ∈ root.nodes := by
  rw [Query.run, List.mem_mergeSort] at isMatch
  obtain ⟨top, isTop, isMatch⟩ := List.mem_flatMap.mp isMatch
  obtain ⟨pattern, _, isMatch⟩ := List.mem_flatMap.mp isMatch
  have isWay := List.mem_of_find?_eq_some (mem_eraseDupsBy_key.mp isMatch)
  obtain ⟨capture, found, rfl⟩ := Option.map_eq_some_iff.mp isCaptured
  exact ParseTree.mem_nodes_trans isTop
    (mem_nodes_of_ways top pattern captures isWay capture (List.mem_of_find?_eq_some found))

/-- Matches that come in the order of their last captures stay as they come. -/
theorem Query.run_of_sorted (query : Query) (root : ParseTree)
    (sorted : (root.nodes.flatMap fun tree => query.flatMap (·.matchesAt tree)).Pairwise
      fun a b => a.lastPlace ≤ b.lastPlace) :
    query.run root = root.nodes.flatMap fun tree => query.flatMap (·.matchesAt tree) :=
  List.mergeSort_of_pairwise (sorted.imp decide_eq_true)

end Captures

/-! ## What is found -/

section Found

variable {root node : ParseTree} {grammar : Grammar}

theorem mem_nodes_of_definitions {definition : Definition} (isFound : definition ∈ grammar.definitions root) :
    definition.node ∈ root.nodes := by
  obtain ⟨captures, isMatch, isFound⟩ := List.mem_filterMap.mp isFound
  obtain ⟨node, isNode, isFound⟩ := Option.bind_eq_some_iff.mp isFound
  obtain ⟨name, _, isFound⟩ := Option.bind_eq_some_iff.mp isFound
  cases isFound
  exact mem_nodes_of_run isMatch isNode

theorem mem_nodes_of_foundCalls {call : FoundCall} (isFound : call ∈ grammar.foundCalls root) :
    call.node ∈ root.nodes := by
  obtain ⟨captures, isMatch, isFound⟩ := List.mem_filterMap.mp isFound
  obtain ⟨node, isNode, isFound⟩ := Option.bind_eq_some_iff.mp isFound
  obtain ⟨callee, _, isFound⟩ := Option.bind_eq_some_iff.mp isFound
  split at isFound
  · cases isFound
  · cases isFound
    exact mem_nodes_of_run isMatch isNode

namespace ParseTree

theorem mem_children_of_parts {part : ParseTree} (isPart : part ∈ node.parts) : part ∈ node.children :=
  (List.mem_filter.mp isPart).1

/-- The arguments of a call are nodes below it. -/
theorem mem_nodes_of_arguments {call argument : ParseTree} (isArgument : argument ∈ call.arguments) :
    argument ∈ call.nodes := by
  have child : ∀ {node part : ParseTree}, node ∈ call.nodes → part ∈ node.parts → part ∈ call.nodes :=
    fun isNode isPart => mem_nodes_of_child isNode (mem_children_of_parts isPart)
  unfold arguments at isArgument
  split at isArgument
  · next list found =>
    have isList : list ∈ call.nodes := by
      refine mem_nodes_of_child call.mem_nodes_self ?_
      rcases Option.or_eq_some_iff.mp found with found | ⟨_, found⟩
      · exact List.mem_of_find?_eq_some found
      · exact List.mem_of_find?_eq_some found
    split at isArgument
    · exact List.mem_singleton.mp isArgument ▸ isList
    · exact child isList isArgument
  · cases found : call.childOfKind? ["call_suffix"] with
    | none => simp [found] at isArgument
    | some suffix =>
      have isSuffix : suffix ∈ call.nodes :=
        mem_nodes_of_child call.mem_nodes_self (List.mem_of_find?_eq_some found)
      rw [found, Option.map_some, Option.getD_some] at isArgument
      obtain ⟨part, isPart, isArgument⟩ := List.mem_flatMap.mp isArgument
      have isPart := child isSuffix isPart
      split at isArgument
      · obtain ⟨labelled, isLabelled, rfl⟩ := List.mem_map.mp isArgument
        have isLabelled := child isPart isLabelled
        cases last : labelled.parts.getLast? with
        | none => exact isLabelled
        | some value => exact child isLabelled (List.mem_of_getLast? last)
      · exact List.mem_singleton.mp isArgument ▸ isPart

end ParseTree

end Found

end WorkflowAtlas
