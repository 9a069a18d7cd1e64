import WorkflowAtlas.Workflow.Basic
import WorkflowAtlas.Json.Decoder

/-!
# Workflow graphs as JSON

How nodes, edges, workflows, hints and snapshots are written and read. Absent options, false flags and
empty part lists have no member. The kind of a node is written among its members, its word under
`type` and what it carries beside it; a node is therefore read off an object only, and the members
that are not the node's own decide its kind.
-/

namespace WorkflowAtlas

open WorkflowAtlas.Json

namespace SourceLocation

def toJson (location : SourceLocation) : Json :=
  .obj [("file", .str location.file), ("line", .nat location.line), ("function", .str location.function)]

def record : Record SourceLocation :=
  SourceLocation.mk <$> .required "file" .string <*> .required "line" .nat32 <*> .required "function" .string

end SourceLocation

namespace NodeKind

/-- What a kind carries. -/
def payload : NodeKind → List (String × Json)
  | .llm model => present "model" .str model
  | .reference targetWorkflow targetNode =>
    [("targetWorkflow", .str targetWorkflow), ("targetNode", .str targetNode)]
  | .workflowTitle workflowId => [("workflowId", .str workflowId)]
  | _ => []

/-- The members of a kind. -/
def members (kind : NodeKind) : List (String × Json) :=
  ("type", .str kind.name) :: kind.payload

/-- The word that a tag gives: a word, or the number of one. -/
def tagWord? : Document → Option String
  | .str word => if word ∈ names then some word else none
  | .int n => if 0 ≤ n then names[n.toNat]? else none
  | _ => none

/-- The kind of a word with what it carries, which is read off members. -/
def ofMembers (word : String) (members : List (Option String × Document)) : Except Fault NodeKind :=
  let read {α : Type} (record : Record α) : Except Fault α := record.ofMembers (fun _ => none) members .closed
  match word with
  | "trigger" => .ok .trigger
  | "llm" => (read (.optional "model" .string)).map .llm
  | "tool" => .ok .tool
  | "decision" => .ok .decision
  | "integration" => .ok .integration
  | "memory" => .ok .memory
  | "parser" => .ok .parser
  | "output" => .ok .output
  | "reference" => read (NodeKind.reference <$> .required "targetWorkflow" .string <*> .required "targetNode" .string)
  | _ => read (NodeKind.workflowTitle <$> .required "workflowId" .string)

/-- **The kind that members give**: one tag, and what its kind carries. -/
def decode (members : List (Option String × Document)) : Except Fault NodeKind :=
  match members.filter (·.1 == some "type") with
  | [(_, tag)] =>
    match tagWord? tag with
    | some word => ofMembers word (members.filter (·.1 != some "type"))
    | none => .error .mismatch
  | _ => .error .mismatch

end NodeKind

namespace FlowNode

def toJson (node : FlowNode) : Json :=
  .obj <| [("id", .str node.id), ("label", .str node.label)] ++ node.kind.members
    ++ present "description" .str node.description ++ present "source" SourceLocation.toJson node.source
    ++ flag "isEntryPoint" node.isEntryPoint ++ flag "isExitPoint" node.isExitPoint
    ++ flag "isCriticalPath" node.isCriticalPath

/-- The members of a node but for its kind. -/
def record : Record (NodeKind → FlowNode) :=
  (fun id label description source entry exit critical kind =>
    FlowNode.mk id label kind description source entry exit critical)
    <$> .required "id" .string <*> .required "label" .string <*> .optional "description" .string
    <*> .optional "source" SourceLocation.record.decoder <*> .defaulted "isEntryPoint" .bool false
    <*> .defaulted "isExitPoint" .bool false <*> .defaulted "isCriticalPath" .bool false

/-- How deep a node stands in a snapshot, which limits the nesting of its other members. -/
def depth : Nat := 3

/-- **A node** off an object. -/
def decode : Decoder FlowNode
  | .obj members ending => do
    let node ← record.ofMembers (Document.keepFault? depth) members ending
    let others := members.filter fun (key, _) => !record.fields.any fun field => some field.name == key
    return node (← NodeKind.decode others)
  | doc => .error (Decoder.refusal doc)

end FlowNode

namespace FlowEdge

def toJson (edge : FlowEdge) : Json :=
  .obj <| [("source", .str edge.source), ("target", .str edge.target)] ++ present "label" .str edge.label
    ++ flag "isCriticalPath" edge.isCriticalPath

def record : Record FlowEdge :=
  FlowEdge.mk <$> .required "source" .string <*> .required "target" .string <*> .optional "label" .string
    <*> .defaulted "isCriticalPath" .bool false

end FlowEdge

namespace WorkflowPart

def toJson (part : WorkflowPart) : Json :=
  .obj [("id", .str part.id), ("titleNodeId", .str part.titleNodeId), ("nodeIds", .strings part.nodeIds)]

def record : Record WorkflowPart :=
  WorkflowPart.mk <$> .required "id" .string <*> .required "titleNodeId" .string
    <*> .required "nodeIds" (.list .string)

end WorkflowPart

namespace Workflow

def toJson (workflow : Workflow) : Json :=
  .obj <| [("id", .str workflow.id), ("name", .str workflow.name)]
    ++ present "description" .str workflow.description ++ [("nodeIds", .strings workflow.nodeIds)]
    ++ nonEmpty "components" WorkflowPart.toJson workflow.parts

def record : Record Workflow :=
  Workflow.mk <$> .required "id" .string <*> .required "name" .string <*> .optional "description" .string
    <*> .required "nodeIds" (.list .string) <*> .defaulted "components" (.list WorkflowPart.record.decoder) []

end Workflow

namespace WorkflowHint

def toJson (hint : WorkflowHint) : Json :=
  .obj <| [("id", .str hint.id), ("name", .str hint.name)] ++ present "description" .str hint.description
    ++ [("nodeIds", .strings hint.nodeIds)]

def record : Record WorkflowHint :=
  WorkflowHint.mk <$> .required "id" .string <*> .required "name" .string <*> .optional "description" .string
    <*> .required "nodeIds" (.list .string)

end WorkflowHint

namespace Snapshot

def toJson (snapshot : Snapshot) : Json :=
  .obj <| [("version", .nat snapshot.version)] ++ present "generatedAt" .str snapshot.generatedAt
    ++ [("nodes", .arr (snapshot.nodes.map FlowNode.toJson)), ("edges", .arr (snapshot.edges.map FlowEdge.toJson)),
      ("workflows", .arr (snapshot.workflows.map Workflow.toJson))]

def record : Record Snapshot :=
  Snapshot.mk <$> .defaulted "version" .nat32 snapshotVersion <*> .optional "generatedAt" .string
    <*> .defaulted "nodes" (.list FlowNode.decode) [] <*> .defaulted "edges" (.list FlowEdge.record.decoder) []
    <*> .defaulted "workflows" (.list Workflow.record.decoder) []

/-- **The text of a snapshot**, over several lines. -/
def render (snapshot : Snapshot) : String :=
  snapshot.toJson.pretty

/-- **The snapshot that a text spells**, or the first fault in it. -/
def parse (text : String) : Except Fault Snapshot :=
  record.decoder.run text

end Snapshot

end WorkflowAtlas
