import WorkflowAtlas.ParseTree.Basic

/-!
# Queries on parse trees

A **pattern** describes a node by its kind, its text and patterns for some of its children, and tags
the nodes that are of interest. Child patterns are met by children in order; between them other
children may stand, unless a pattern is **adjacent**, which lets no named node in between.

A **query** is a list of patterns. Its matches come in the order of the last node that each of them
captures, so that what is captured deeper or later comes later; matches that end on the same node
keep the order of their outermost nodes, then that of the patterns. Two ways of matching one pattern
at one node that capture the same nodes are one match.
-/

namespace WorkflowAtlas

/-- **What a captured node is for.** -/
inductive Tag where
  /-- A definition of a function, a call, an import, an export, a definition with decorators. -/
  | subject
  | name
  | callee
  | value
  /-- A node that only conditions the match. -/
  | aside
  deriving DecidableEq, Repr, Inhabited

/-- **A pattern for a node.** -/
inductive Pattern where
  /-- A named node of one of some kinds, without kinds of any but an error, in a field, with a text,
  captured under a tag; `adjacent` to what comes before it. -/
  | node (kinds : Option (List String)) (field : Option String) (tag : Option Tag) (text : Option String)
    (adjacent : Bool) (children : List Pattern)
  deriving Inhabited, Repr

namespace Pattern

/-- A node of a kind. -/
def kind (name : String) (children : List Pattern := []) : Pattern :=
  .node (some [name]) none none none false children

/-- A node of one of some kinds. -/
def kinds (names : List String) : Pattern :=
  .node (some names) none none none false []

/-- Any named node but an error. -/
def any : Pattern :=
  .node none none none none false []

/-- The node fills a field of its parent. -/
def inField (field : String) : Pattern → Pattern
  | .node kinds _ tag text adjacent children => .node kinds (some field) tag text adjacent children

/-- The node is captured. -/
def as (tag : Tag) : Pattern → Pattern
  | .node kinds field _ text adjacent children => .node kinds field (some tag) text adjacent children

/-- The node has a text. -/
def withText (text : String) : Pattern → Pattern
  | .node kinds field tag _ adjacent children => .node kinds field tag (some text) adjacent children

/-- No named node stands between the node and what is matched before it. -/
def next : Pattern → Pattern
  | .node kinds field tag text _ children => .node kinds field tag text true children

/-- Whether a child pattern may be met by a child, `clear` when no named node stands before it. -/
def mayTake (clear : Bool) (child : ParseTree) : Pattern → Bool
  | .node _ field _ _ adjacent _ => field.all (· == child.label.field) && (!adjacent || clear)

end Pattern

/-- The nodes that a match captures, in document order. -/
abbrev Captures := List (Tag × ParseTree)

namespace Captures

/-- The first node captured under a tag. -/
def get? (captures : Captures) (tag : Tag) : Option ParseTree :=
  (captures.find? (·.1 == tag)).map (·.2)

/-- The tags and places of what is captured, by which matches are compared. -/
def places (captures : Captures) : List (Tag × Nat) :=
  captures.map fun (tag, tree) => (tag, tree.place)

/-- The place of the last node that is captured. -/
def lastPlace (captures : Captures) : Nat :=
  captures.foldl (fun last (_, tree) => max last tree.place) 0

end Captures

/-- A child that a pattern may be met by: whether no named node stands before it, the child, and the
children behind it. -/
def choices (clear : Bool) : List ParseTree → List (Bool × ParseTree × List ParseTree)
  | [] => []
  | child :: rest => (clear, child, rest) :: choices (clear && !child.named) rest

/-- Whether a node is one that a pattern names. -/
def meets (kinds : Option (List String)) (text : Option String) (tree : ParseTree) : Bool :=
  tree.named && text.all (· == tree.text) &&
    (match kinds with
     | some kinds => tree.kind ∈ kinds
     | none => tree.kind != "ERROR")

mutual

/-- **The ways to match a pattern at a node**, each with what it captures. -/
def Pattern.ways (tree : ParseTree) : Pattern → List Captures
  | .node kinds _ tag text _ children =>
    if meets kinds text tree then
      let own := match tag with
        | some tag => [(tag, tree)]
        | none => []
      (waysOf tree.children children).map (own ++ ·)
    else []

/-- The ways to match child patterns by children in order. -/
def waysOf (children : List ParseTree) : List Pattern → List Captures
  | [] => [[]]
  | pattern :: patterns =>
    (choices true children).flatMap fun (clear, child, rest) =>
      if pattern.mayTake clear child then
        (pattern.ways child).flatMap fun first => (waysOf rest patterns).map (first ++ ·)
      else []

end

/-- The matches of a pattern at a node, each set of captured nodes once. -/
def Pattern.matchesAt (pattern : Pattern) (tree : ParseTree) : List Captures :=
  (pattern.ways tree).eraseDupsBy fun a b => a.places == b.places

/-- **A query**: patterns whose matches are listed together. -/
abbrev Query := List Pattern

/-- **The matches of a query** in a tree. -/
def Query.run (query : Query) (root : ParseTree) : List Captures :=
  (root.nodes.flatMap fun tree => query.flatMap (·.matchesAt tree)).mergeSort
    fun a b => a.lastPlace ≤ b.lastPlace

end WorkflowAtlas
