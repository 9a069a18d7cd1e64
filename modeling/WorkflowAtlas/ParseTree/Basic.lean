import WorkflowAtlas.Text.Cut

/-!
# Parse trees

A **parse tree** of a source text: every node has a kind, the field it fills in its parent, the bytes
and rows it spans and the text of that span. Named nodes are those that a grammar gives a name;
keywords and punctuation are the others. A node's **place** is its number in document order, the
root's being 0, so the places of a tree's nodes are pairwise distinct.
-/

namespace WorkflowAtlas

/-- **What a node says about itself.** -/
structure NodeLabel where
  kind : String
  named : Bool
  /-- The field that the node fills in its parent; empty when it fills none. -/
  field : String
  /-- The first byte of the node and the byte behind its last one. -/
  start : Nat
  stop : Nat
  /-- The rows of the first and the last byte, counted from 0. -/
  firstRow : Nat
  lastRow : Nat
  /-- The number of the node in document order. -/
  place : Nat
  text : String
  deriving DecidableEq, Repr, Inhabited

/-- **A parse tree.** -/
inductive ParseTree where
  | node (label : NodeLabel) (children : List ParseTree)
  deriving Inhabited, Repr

namespace ParseTree

def label : ParseTree → NodeLabel
  | .node label _ => label

def children : ParseTree → List ParseTree
  | .node _ children => children

def kind (tree : ParseTree) : String := tree.label.kind

def text (tree : ParseTree) : String := tree.label.text

def named (tree : ParseTree) : Bool := tree.label.named

def place (tree : ParseTree) : Nat := tree.label.place

/-- The line on which a node starts, counted from 1. -/
def line (tree : ParseTree) : Nat := tree.label.firstRow + 1

/-- The line on which a node ends, counted from 1. -/
def lastLine (tree : ParseTree) : Nat := tree.label.lastRow + 1

mutual

/-- **The nodes of a tree** in document order. -/
def nodes : ParseTree → List ParseTree
  | .node label children => .node label children :: nodesOf children

/-- The nodes of several trees in document order. -/
def nodesOf : List ParseTree → List ParseTree
  | [] => []
  | tree :: rest => nodes tree ++ nodesOf rest

end

mutual

/-- The nodes above the one at a place, the nearest first; none when the place is not in the tree. -/
def ancestors? (place : Nat) : ParseTree → Option (List ParseTree)
  | .node label children =>
    if label.place = place then some []
    else (ancestorsIn? place children).map (· ++ [.node label children])

/-- The nodes above the one at a place, below the parent of these trees. -/
def ancestorsIn? (place : Nat) : List ParseTree → Option (List ParseTree)
  | [] => none
  | tree :: rest => (ancestors? place tree).or (ancestorsIn? place rest)

end

/-! ## Looking at children -/

/-- The first child that fills a field. -/
def child? (tree : ParseTree) (field : String) : Option ParseTree :=
  tree.children.find? (·.label.field == field)

/-- The children that fill a field. -/
def childrenAt (tree : ParseTree) (field : String) : List ParseTree :=
  tree.children.filter (·.label.field == field)

/-- The first named child, comments included. -/
def firstNamed? (tree : ParseTree) : Option ParseTree :=
  tree.children.find? (·.named)

/-- Whether a kind is one of the kinds of comments. -/
def isCommentKind (kind : String) : Bool :=
  Text.hasMark "comment".toList kind.toList

/-- The named children without comments. -/
def parts (tree : ParseTree) : List ParseTree :=
  tree.children.filter fun child => child.named && !isCommentKind child.kind

/-- The first child of one of some kinds. -/
def childOfKind? (tree : ParseTree) (kinds : List String) : Option ParseTree :=
  tree.children.find? (·.kind ∈ kinds)

/-- Whether a child has a kind. -/
def hasChildOfKind (tree : ParseTree) (kind : String) : Bool :=
  (tree.childOfKind? [kind]).isSome

/-! ## Trees from rows -/

/-- **One row of a tree** that is listed in document order. -/
structure Row where
  kind : String
  named : Bool
  field : String
  start : Nat
  stop : Nat
  firstRow : Nat
  lastRow : Nat
  /-- How many of the trees that follow are the node's children. -/
  children : Nat
  deriving DecidableEq, Repr, Inhabited

/-- The text between two bytes of a source. -/
def slice (source : ByteArray) (start stop : Nat) : String :=
  (String.fromUTF8? (source.extract start stop)).getD ""

/-- The label of a row at a place. -/
def Row.label (source : ByteArray) (place : Nat) (row : Row) : NodeLabel where
  kind := row.kind
  named := row.named
  field := row.field
  start := row.start
  stop := row.stop
  firstRow := row.firstRow
  lastRow := row.lastRow
  place := place
  text := slice source row.start row.stop

/-- The trees that rows from a place on list, in document order. -/
def forest (source : ByteArray) : Nat → List Row → List ParseTree
  | _, [] => []
  | place, row :: rest =>
    let below := forest source (place + 1) rest
    .node (row.label source place) (below.take row.children) :: below.drop row.children

/-- **The tree that rows list** over a source text. -/
def ofRows? (source : String) (rows : List Row) : Option ParseTree :=
  (forest source.toUTF8 0 rows).head?

end ParseTree

end WorkflowAtlas
