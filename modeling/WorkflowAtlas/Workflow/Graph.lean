import WorkflowAtlas.Reachability
import WorkflowAtlas.SortedMap
import WorkflowAtlas.Workflow.Basic

/-!
# The graph of nodes and edges

A **workflow graph** looks at a list of nodes and a list of edges by id: of several nodes with one id
the last counts, and an edge counts when both its ends are known. `cluster` and `pieces` ask what is
connected, the direction of edges set aside, in the whole graph and inside a set of members; `entries`
asks which members of a piece no other member calls.
-/

namespace WorkflowAtlas

/-- **A workflow graph**: ids in the order they are first seen, nodes by id, and the distinct pairs of
known ids that an edge joins. -/
structure FlowGraph where
  ids : List String
  nodes : List FlowNode
  pairs : List (String × String)
  deriving Repr, Inhabited

namespace FlowGraph

/-- The graph of some nodes and edges. -/
def of (nodes : List FlowNode) (edges : List FlowEdge) : FlowGraph :=
  let ids := (nodes.map (·.id)).eraseDups
  let known := edges.filter fun edge => edge.source ∈ ids && edge.target ∈ ids
  { ids, nodes, pairs := (known.map fun edge => (edge.source, edge.target)).eraseDups }

/-- Whether an id is known. -/
def contains (graph : FlowGraph) (id : String) : Bool :=
  id ∈ graph.ids

/-- The node of an id: the last one that has it. -/
def node? (graph : FlowGraph) (id : String) : Option FlowNode :=
  graph.nodes.reverse.find? (·.id == id)

/-- Whether the node of an id calls a language model. -/
def isLlm (graph : FlowGraph) (id : String) : Bool :=
  (graph.node? id).any (·.kind.isLlm)

/-- The ids joined with an id by an edge in either direction. -/
def neighbours (graph : FlowGraph) (id : String) : List String :=
  graph.pairs.filterMap fun (source, target) =>
    if source = id then some target else if target = id then some source else none

/-- **Everything connected with an id**, the direction of edges set aside; nothing for an unknown id. -/
def cluster (graph : FlowGraph) (id : String) : List String :=
  if graph.contains id then reachedFrom graph.neighbours graph.ids.length [id] else []

/-- The neighbours of an id among some members. -/
def neighboursIn (graph : FlowGraph) (members : List String) (id : String) : List String :=
  (graph.neighbours id).filter (· ∈ members)

/-- The connected pieces of members, of which `left` are still to be placed; each piece takes at least
the first of them. -/
def piecesOf (graph : FlowGraph) (members : List String) : (fuel : Nat) → (left : List String) → List (List String)
  | 0, _ => []
  | _, [] => []
  | fuel + 1, first :: rest =>
    let piece := reachedFrom (graph.neighboursIn members) members.length [first]
    sortedTexts piece :: graph.piecesOf members fuel (rest.filter (· ∉ piece))

/-- **The connected pieces of some members** inside the graph, each in order, ordered by their smallest
id. Unknown members are in none. -/
def pieces (graph : FlowGraph) (members : List String) : List (List String) :=
  let members := sortedTexts (members.filter graph.contains)
  graph.piecesOf members members.length members

/-- **The entries of a piece**: its members that no other member has an edge to. -/
def entries (graph : FlowGraph) (piece : List String) : List String :=
  piece.filter fun id => graph.pairs.all fun (source, target) => target != id || source == id || source ∉ piece

/-- The sizes of a graph in words. -/
def summary (graph : FlowGraph) : String :=
  "WorkflowGraph \x7b node_count: " ++ toString graph.ids.length ++ ", edge_count: "
    ++ toString graph.pairs.length ++ " \x7d"

end FlowGraph

end WorkflowAtlas
