import WorkflowAtlas.SortedMap
import WorkflowAtlas.Workflow.Codec

/-!
# Changes between snapshots

Nodes, edges and workflows of two snapshots are compared by key, of several items with one key the
last counts. A **change set** lists, in the order of keys, the items that were added, the keys that
were removed and the items of common keys that differ, in their new form.
-/

namespace WorkflowAtlas

/-- **What changed** among the items of one kind. -/
structure ChangeSet (α : Type) where
  added : List α
  removed : List String
  updated : List α
  deriving Repr, Inhabited

namespace ChangeSet

variable {α : Type}

def isEmpty (set : ChangeSet α) : Bool :=
  set.added.isEmpty && set.removed.isEmpty && set.updated.isEmpty

/-- The items by key. -/
def keyed (key : α → String) (items : List α) : SortedMap α :=
  .ofList (items.map fun item => (key item, item))

/-- **The changes between two lists of items** that have keys. -/
def between (key : α → String) (differs : α → α → Bool) (old new : List α) : ChangeSet α :=
  let before := keyed key old
  let after := keyed key new
  { added := (after.entries.filter fun (id, _) => !before.contains id).map (·.2)
    removed := before.keys.filter fun id => !after.contains id
    updated := (after.entries.filter fun (id, item) => (before.get? id).any (differs · item)).map (·.2) }

def toJson (write : α → Json) (set : ChangeSet α) : Json :=
  .obj [("added", .arr (set.added.map write)), ("removed", .strings set.removed),
    ("updated", .arr (set.updated.map write))]

end ChangeSet

/-- Whether two nodes of one id differ. -/
def FlowNode.differs (old new : FlowNode) : Bool :=
  old.label != new.label || old.kind != new.kind || old.description != new.description
    || old.isEntryPoint != new.isEntryPoint || old.isExitPoint != new.isExitPoint
    || old.isCriticalPath != new.isCriticalPath || old.source != new.source

/-- Whether two edges of one key differ. -/
def FlowEdge.differs (old new : FlowEdge) : Bool :=
  old.label != new.label || old.isCriticalPath != new.isCriticalPath

/-- Whether two workflows of one id differ; the order of their nodes does not count. -/
def Workflow.differs (old new : Workflow) : Bool :=
  old.name != new.name || old.description != new.description || old.sortedNodeIds != new.sortedNodeIds

/-- **The changes between two snapshots.** -/
structure SnapshotChanges where
  nodes : ChangeSet FlowNode
  edges : ChangeSet FlowEdge
  workflows : ChangeSet Workflow
  deriving Repr, Inhabited

namespace SnapshotChanges

/-- The changes from one snapshot to another. -/
def between (old new : Snapshot) : SnapshotChanges where
  nodes := .between FlowNode.id FlowNode.differs old.nodes new.nodes
  edges := .between FlowEdge.key FlowEdge.differs old.edges new.edges
  workflows := .between Workflow.id Workflow.differs old.workflows new.workflows

def isEmpty (changes : SnapshotChanges) : Bool :=
  changes.nodes.isEmpty && changes.edges.isEmpty && changes.workflows.isEmpty

/-- The keys of everything that was added. -/
def addedIds (changes : SnapshotChanges) : List String :=
  changes.nodes.added.map FlowNode.id ++ changes.edges.added.map FlowEdge.key
    ++ changes.workflows.added.map Workflow.id

/-- The keys of everything that was removed. -/
def removedIds (changes : SnapshotChanges) : List String :=
  changes.nodes.removed ++ changes.edges.removed ++ changes.workflows.removed

def toJson (changes : SnapshotChanges) : Json :=
  .obj [("nodes", changes.nodes.toJson FlowNode.toJson), ("edges", changes.edges.toJson FlowEdge.toJson),
    ("workflows", changes.workflows.toJson Workflow.toJson)]

end SnapshotChanges

end WorkflowAtlas
