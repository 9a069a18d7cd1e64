/-!
# Workflow graphs

A **node** stands for a function, or for something that clustering adds: a title over one piece of a
workflow, a reference to a node of another workflow. An **edge** goes from a caller to what it calls;
across an HTTP boundary it is labelled. A **workflow** groups nodes, and a **hint** proposes such a
group.
-/

namespace WorkflowAtlas

/-- Where in the source a node comes from. -/
structure SourceLocation where
  file : String
  line : Nat
  function : String
  deriving DecidableEq, Repr, Inhabited

/-- **What a node stands for.** -/
inductive NodeKind where
  | trigger
  | llm (model : Option String)
  | tool
  | decision
  | integration
  | memory
  | parser
  | output
  /-- A node that lives in another workflow. -/
  | reference (targetWorkflow targetNode : String)
  /-- The heading of one piece of a workflow. -/
  | workflowTitle (workflowId : String)
  deriving DecidableEq, Repr, Inhabited

namespace NodeKind

/-- The words for the kinds, in the order of their declaration. -/
def names : List String :=
  ["trigger", "llm", "tool", "decision", "integration", "memory", "parser", "output", "reference",
    "workflow-title"]

/-- The word for a kind. -/
def name : NodeKind → String
  | .trigger => "trigger"
  | .llm _ => "llm"
  | .tool => "tool"
  | .decision => "decision"
  | .integration => "integration"
  | .memory => "memory"
  | .parser => "parser"
  | .output => "output"
  | .reference _ _ => "reference"
  | .workflowTitle _ => "workflow-title"

def isLlm : NodeKind → Bool
  | .llm _ => true
  | _ => false

/-- Whether nodes of the kind come from clustering and not from source. -/
def isSynthetic : NodeKind → Bool
  | .reference _ _ => true
  | .workflowTitle _ => true
  | _ => false

end NodeKind

/-- **A node** of a workflow graph. -/
structure FlowNode where
  id : String
  label : String
  kind : NodeKind
  description : Option String := none
  source : Option SourceLocation := none
  isEntryPoint : Bool := false
  isExitPoint : Bool := false
  isCriticalPath : Bool := false
  deriving DecidableEq, Repr, Inhabited

/-- **An edge** of a workflow graph. -/
structure FlowEdge where
  source : String
  target : String
  label : Option String := none
  isCriticalPath : Bool := false
  deriving DecidableEq, Repr, Inhabited

/-- The key of an edge: its ends with an arrow between them. -/
def FlowEdge.key (edge : FlowEdge) : String :=
  edge.source ++ "->" ++ edge.target

/-- One connected piece of a workflow, under a title. -/
structure WorkflowPart where
  id : String
  titleNodeId : String
  nodeIds : List String
  deriving DecidableEq, Repr, Inhabited

/-- **A workflow**: nodes that form one path of work around language model calls. A workflow in several
pieces lists them. -/
structure Workflow where
  id : String
  name : String
  description : Option String := none
  nodeIds : List String
  parts : List WorkflowPart := []
  deriving DecidableEq, Repr, Inhabited

/-- The ids of a workflow's nodes in order. -/
def Workflow.sortedNodeIds (workflow : Workflow) : List String :=
  workflow.nodeIds.mergeSort fun a b => a ≤ b

/-- **A proposal** that some nodes form a workflow. -/
structure WorkflowHint where
  id : String
  name : String
  description : Option String := none
  nodeIds : List String
  deriving DecidableEq, Repr, Inhabited

/-- The version of the written form of a snapshot. -/
def snapshotVersion : Nat := 3

/-- **A snapshot**: the graph and the workflows of one analysis. -/
structure Snapshot where
  version : Nat := snapshotVersion
  generatedAt : Option String := none
  nodes : List FlowNode := []
  edges : List FlowEdge := []
  workflows : List Workflow := []
  deriving DecidableEq, Repr, Inhabited

end WorkflowAtlas
