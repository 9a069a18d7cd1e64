import WorkflowAtlas.Workflow.Codec
import WorkflowAtlas.Proofs.Decoding

/-!
# Snapshots and their texts

**The law** (`parse_render`): a snapshot is read back from its text. It holds of every snapshot whose
version and line numbers fit 32 bits, whatever its strings, its kinds of nodes and its optional parts.

A node is the one value that two readers share: its own record passes over the members of the kind
(`reads_members`), and what it leaves are those members and no others (`filter_members`).
-/

namespace WorkflowAtlas

open Json
open Document (ofJson named)

/-- **A snapshot whose numbers fit 32 bits**: its version and the lines of its nodes. -/
structure Snapshot.Fits32 (snapshot : Snapshot) : Prop where
  version : snapshot.version < Text.bound32
  lines : ∀ node ∈ snapshot.nodes, ∀ location ∈ node.source, location.line < Text.bound32

namespace Decoder

theorem nat32_ofJson {n : Nat} (fits : n < Text.bound32) : nat32 (ofJson (.nat n)) = .ok n := by
  simp [nat32, natBelow, Json.nat, ofJson, fits]

end Decoder

/-! ## Texts that can be read

Strings can always be read, so only the numbers count.
-/

theorem readable_obj {members : List (String × Json)} (each : ∀ member ∈ members, member.2.Readable) :
    (Json.obj members).Readable :=
  readableMembers_iff.mpr each

theorem readable_arr {α : Type} {write : α → Json} {items : List α} (each : ∀ a ∈ items, (write a).Readable) :
    (Json.arr (items.map write)).Readable :=
  readableItems_iff.mpr (List.forall_mem_map.mpr each)

theorem readable_nat {n : Nat} (fits : n < Text.bound32) : (Json.nat n).Readable := by
  have small : n < 4294967296 := fits
  exact ⟨by omega, by omega⟩

theorem readable_strings (items : List String) : (Json.strings items).Readable :=
  readable_arr fun _ _ => trivial

theorem FlowEdge.readable_toJson (edge : FlowEdge) : edge.toJson.Readable := by
  refine readable_obj ?_
  simp only [List.forall_mem_append]
  exact ⟨⟨by simp [Readable], forall_mem_present _ fun _ _ => trivial⟩, forall_mem_flag _ trivial⟩

theorem Workflow.readable_toJson (workflow : Workflow) : workflow.toJson.Readable := by
  have parts : ∀ part ∈ workflow.parts, part.toJson.Readable := fun part _ =>
    readable_obj (by simp [Readable, readable_strings])
  refine readable_obj ?_
  simp only [List.forall_mem_append]
  exact ⟨⟨⟨by simp [Readable], forall_mem_present _ fun _ _ => trivial⟩, by simp [readable_strings]⟩,
    forall_mem_nonEmpty _ (readable_arr parts)⟩

/-! ## Values -/

theorem SourceLocation.decoder_toJson {location : SourceLocation} (fits : location.line < Text.bound32) :
    record.decoder (ofJson location.toJson) = .ok location := by
  refine Record.decoder_ofJson (by simp) ?_
  exact Record.Reads.string (by simp) |>.map SourceLocation.mk
    |>.seq (.required (.nat location.line) (by simp) (Decoder.nat32_ofJson fits))
    |>.seq (.string (by simp))

theorem FlowEdge.decoder_toJson (edge : FlowEdge) : record.decoder (ofJson edge.toJson) = .ok edge := by
  refine Record.decoder_ofJson ?_ ?_
  · simp only [List.map_append, List.map_cons, List.map_nil]
    exact List.Sublist.refl _ |>.append (names_present _ _ _) |>.append (names_flag _ _) |>.nodup (by decide)
  · exact Record.Reads.string (by simp) |>.map FlowEdge.mk
      |>.seq (.string (by simp))
      |>.seq (.optional .str (by simp) fun _ _ => rfl)
      |>.seq (.flag (by simp))

theorem WorkflowPart.decoder_toJson (part : WorkflowPart) : record.decoder (ofJson part.toJson) = .ok part := by
  refine Record.decoder_ofJson (by simp) ?_
  exact Record.Reads.string (by simp) |>.map WorkflowPart.mk
    |>.seq (.string (by simp))
    |>.seq (.required (.strings part.nodeIds) (by simp) (Decoder.list_strings _))

theorem Workflow.decoder_toJson (workflow : Workflow) : record.decoder (ofJson workflow.toJson) = .ok workflow := by
  refine Record.decoder_ofJson ?_ ?_
  · simp only [List.map_append, List.map_cons, List.map_nil]
    exact List.Sublist.refl _ |>.append (names_present _ _ _) |>.append (.refl _) |>.append (names_nonEmpty _ _ _)
      |>.nodup (by decide)
  · exact Record.Reads.string (by simp) |>.map Workflow.mk
      |>.seq (.string (by simp))
      |>.seq (.optional .str (by simp) fun _ _ => rfl)
      |>.seq (.required (.strings workflow.nodeIds) (by simp) (Decoder.list_strings _))
      |>.seq (.list (.arr (workflow.parts.map WorkflowPart.toJson)) (by simp)
        (Decoder.list_ofJson fun part _ => part.decoder_toJson))

/-! ## Nodes -/

namespace NodeKind

/-- The names that the members of a kind have. -/
def memberNames : List String := ["type", "model", "targetWorkflow", "targetNode", "workflowId"]

theorem names_members (kind : NodeKind) : (kind.members.map (·.1)).Sublist memberNames := by
  cases kind with
  | llm model => cases model <;> exact of_decide_eq_true rfl
  | _ => exact of_decide_eq_true rfl

theorem named_members {name : String} (isOther : name ∉ memberNames) (kind : NodeKind) : named kind.members name = none :=
  Document.named_eq_none fun isName => isOther (kind.names_members.subset isName)

theorem members_strings (kind : NodeKind) : ∀ member ∈ kind.members, ∃ text, member.2 = .str text := by
  cases kind with
  | llm model => cases model <;> simp [members, payload, present]
  | _ => simp [members, payload]

theorem decode_members (kind : NodeKind) : decode (Document.ofMembers kind.members) = .ok kind := by
  cases kind with
  | llm model => cases model <;> rfl
  | _ => rfl

end NodeKind

namespace FlowNode

variable (node : FlowNode)

/-- The members of a node that may be left out. -/
def optionalMembers : List (String × Json) :=
  present "description" .str node.description ++ present "source" SourceLocation.toJson node.source
    ++ flag "isEntryPoint" node.isEntryPoint ++ flag "isExitPoint" node.isExitPoint
    ++ flag "isCriticalPath" node.isCriticalPath

def members : List (String × Json) :=
  [("id", .str node.id), ("label", .str node.label)] ++ node.kind.members ++ node.optionalMembers

theorem toJson_eq : node.toJson = .obj node.members := by
  simp [toJson, members, optionalMembers]

theorem names_optionalMembers : (node.optionalMembers.map (·.1)).Sublist
    ["description", "source", "isEntryPoint", "isExitPoint", "isCriticalPath"] := by
  simp only [optionalMembers, List.map_append]
  exact names_present _ _ _ |>.append (names_present _ _ _) |>.append (names_flag _ _) |>.append (names_flag _ _)
    |>.append (names_flag _ _)

theorem nodup_names : (node.members.map (·.1)).Nodup := by
  simp only [members, List.map_append, List.map_cons, List.map_nil]
  exact List.Sublist.refl _ |>.append node.kind.names_members |>.append node.names_optionalMembers |>.nodup (by decide)

theorem forall_mem_members {P : Json → Prop} (strings : ∀ text, P (.str text)) (isTrue : P (.bool true))
    (location : ∀ location ∈ node.source, P location.toJson) : ∀ member ∈ node.members, P member.2 := by
  simp only [members, optionalMembers, List.forall_mem_append]
  refine ⟨⟨?_, fun member isMember => ?_⟩, ⟨⟨⟨?_, ?_⟩, ?_⟩, ?_⟩, ?_⟩
  · simp [strings]
  · obtain ⟨text, isText⟩ := node.kind.members_strings member isMember
    exact isText ▸ strings text
  · exact forall_mem_present _ fun text _ => strings text
  · exact forall_mem_present _ location
  · exact forall_mem_flag _ isTrue
  · exact forall_mem_flag _ isTrue
  · exact forall_mem_flag _ isTrue

/-- Whether a member of a name is left by the record of a node. -/
def isLeft (key : Option String) : Bool :=
  !record.fields.any fun field => some field.name == key

/-- **What the record of a node leaves of its members is the kind.** -/
theorem filter_members :
    (Document.ofMembers node.members).filter (fun member => isLeft member.1) = Document.ofMembers node.kind.members := by
  have left : ∀ name ∈ NodeKind.memberNames, isLeft (some name) = true := by decide
  have taken : ∀ name ∈ ["description", "source", "isEntryPoint", "isExitPoint", "isCriticalPath"],
      isLeft (some name) = false := by decide
  have ofKind : node.kind.members.filter (fun member => isLeft (some member.1)) = node.kind.members := by
    refine List.filter_eq_self.mpr fun member isMember => ?_
    exact left _ (node.kind.names_members.subset (List.mem_map_of_mem isMember))
  have optional : node.optionalMembers.filter (fun member => isLeft (some member.1)) = [] := by
    refine List.filter_eq_nil_iff.mpr fun member isMember => ?_
    simp [taken _ (node.names_optionalMembers.subset (List.mem_map_of_mem isMember))]
  have whole : node.members.filter (fun member => isLeft (some member.1)) = node.kind.members := by
    rw [members, List.filter_append, List.filter_append, ofKind, optional, List.append_nil]
    rfl
  rw [Document.ofMembers_eq_map, List.filter_map, Document.ofMembers_eq_map]
  exact congrArg _ whole

/-- The record of a node reads all of it but the kind. -/
theorem reads_members {node : FlowNode} (fits : ∀ location ∈ node.source, location.line < Text.bound32) :
    record.Reads (named node.members) fun kind => { node with kind := kind } := by
  have location : ∀ location ∈ node.source,
      Decoder.nullable SourceLocation.record.decoder (ofJson location.toJson) = .ok (some location) := by
    intro location isLocation
    exact Decoder.nullable_obj (SourceLocation.decoder_toJson (fits location isLocation))
  -- The names of the optional members are none of the kind's, so the kind cannot get in their way.
  have own {name : String} (isOther : name ∉ "id" :: "label" :: NodeKind.memberNames) :
      named node.members name = named node.optionalMembers name := by
    simp only [List.mem_cons, not_or] at isOther
    simp [members, isOther, NodeKind.named_members]
  have id : (Record.required "id" Decoder.string).Reads (named node.members) node.id := .string (by simp [members])
  have label : (Record.required "label" Decoder.string).Reads (named node.members) node.label :=
    .string (by simp [members])
  have description : (Record.optional "description" Decoder.string).Reads (named node.members) node.description :=
    .optional .str (by rw [own (by decide)]; simp [optionalMembers]) fun _ _ => rfl
  have source : (Record.optional "source" SourceLocation.record.decoder).Reads (named node.members) node.source :=
    .optional SourceLocation.toJson (by rw [own (by decide)]; simp [optionalMembers]) location
  have entry : (Record.defaulted "isEntryPoint" Decoder.bool false).Reads (named node.members) node.isEntryPoint :=
    .flag (by rw [own (by decide)]; simp [optionalMembers])
  have exit : (Record.defaulted "isExitPoint" Decoder.bool false).Reads (named node.members) node.isExitPoint :=
    .flag (by rw [own (by decide)]; simp [optionalMembers])
  have critical : (Record.defaulted "isCriticalPath" Decoder.bool false).Reads (named node.members) node.isCriticalPath :=
    .flag (by rw [own (by decide)]; simp [optionalMembers])
  exact id.map _ |>.seq label |>.seq description |>.seq source |>.seq entry |>.seq exit |>.seq critical

theorem readable_toJson {node : FlowNode} (fits : ∀ location ∈ node.source, location.line < Text.bound32) :
    node.toJson.Readable := by
  have location : ∀ location ∈ node.source, location.toJson.Readable := fun location isLocation =>
    readable_obj (by simp [Readable, readable_nat (fits location isLocation)])
  rw [toJson_eq]
  exact readable_obj (node.forall_mem_members (fun _ => trivial) trivial location)

theorem decode_toJson {node : FlowNode} (fits : ∀ location ∈ node.source, location.line < Text.bound32) :
    decode (ofJson node.toJson) = .ok node := by
  have shallow : ∀ member ∈ node.members, Document.keepFault? depth (ofJson member.2) = none :=
    node.forall_mem_members (P := fun v => Document.keepFault? depth (ofJson v) = none) (fun _ => rfl) rfl
      fun _ _ => rfl
  have own := (reads_members fits).ofMembers node.nodup_names shallow
  -- Both readers look at all the members: the record for its own, the kind at what is left.
  rw [toJson_eq]
  change (do
    let read ← record.ofMembers (Document.keepFault? depth) (Document.ofMembers node.members) .closed
    return read (← NodeKind.decode ((Document.ofMembers node.members).filter fun member => isLeft member.1))) =
      Except.ok node
  rw [own, filter_members, NodeKind.decode_members]
  rfl

end FlowNode

/-! ## Snapshots -/

namespace Snapshot

theorem readable_toJson {snapshot : Snapshot} (fits : snapshot.Fits32) : snapshot.toJson.Readable := by
  have nodes : (Json.arr (snapshot.nodes.map FlowNode.toJson)).Readable :=
    readable_arr fun node isNode => FlowNode.readable_toJson (fits.lines node isNode)
  have edges : (Json.arr (snapshot.edges.map FlowEdge.toJson)).Readable :=
    readable_arr fun edge _ => edge.readable_toJson
  have workflows : (Json.arr (snapshot.workflows.map Workflow.toJson)).Readable :=
    readable_arr fun workflow _ => workflow.readable_toJson
  refine readable_obj ?_
  simp only [List.forall_mem_append]
  exact ⟨⟨by simp [readable_nat fits.version], forall_mem_present _ fun _ _ => trivial⟩,
    by simp [nodes, edges, workflows]⟩

theorem decoder_toJson {snapshot : Snapshot} (fits : snapshot.Fits32) :
    record.decoder (ofJson snapshot.toJson) = .ok snapshot := by
  refine Record.decoder_ofJson ?_ ?_
  · simp only [List.map_append, List.map_cons, List.map_nil]
    exact List.Sublist.refl _ |>.append (names_present _ _ _) |>.append (.refl _) |>.nodup (by decide)
  · exact Record.Reads.written (.nat snapshot.version) (by simp) (Decoder.nat32_ofJson fits.version)
      |>.map Snapshot.mk
      |>.seq (.optional .str (by simp) fun _ _ => rfl)
      |>.seq (.written (.arr (snapshot.nodes.map FlowNode.toJson)) (by simp)
        (Decoder.list_ofJson fun node isNode => FlowNode.decode_toJson (fits.lines node isNode)))
      |>.seq (.written (.arr (snapshot.edges.map FlowEdge.toJson)) (by simp)
        (Decoder.list_ofJson fun edge _ => edge.decoder_toJson))
      |>.seq (.written (.arr (snapshot.workflows.map Workflow.toJson)) (by simp)
        (Decoder.list_ofJson fun workflow _ => workflow.decoder_toJson))

/-- **A snapshot is read back from its text.** -/
theorem parse_render (snapshot : Snapshot) (fits : snapshot.Fits32) : parse snapshot.render = .ok snapshot :=
  Decoder.run_pretty (readable_toJson fits) (decoder_toJson fits)

/-- A snapshot with every kind of node, the largest numbers and characters of all sorts. -/
def varied : Snapshot where
  version := 4294967295
  generatedAt := some ""
  nodes :=
    [{ id := "a.ts::ask", label := "\"Ask\" \\ \t\r\n\u0000\u001f/", kind := .llm (some "modèle-ü"),
       description := some "∀ 🦀", source := some ⟨"a.ts", 4294967295, "ask"⟩,
       isEntryPoint := true, isExitPoint := true, isCriticalPath := true },
      { id := "type", label := "", kind := .llm none }, { id := "", label := "trigger", kind := .trigger },
      { id := "t", label := "t", kind := .tool, source := some ⟨"", 0, ""⟩ },
      { id := "d", label := "d", kind := .decision }, { id := "i", label := "i", kind := .integration },
      { id := "m", label := "m", kind := .memory }, { id := "p", label := "p", kind := .parser, isExitPoint := true },
      { id := "o", label := "o", kind := .output }, { id := "w__ref__t", label := "t", kind := .reference "other" "t" },
      { id := "w__title_0", label := "W", kind := .workflowTitle "w" }]
  edges :=
    [{ source := "t", target := "t" }, { source := "t", target := "d", label := some "POST /a", isCriticalPath := true }]
  workflows :=
    [{ id := "w", name := "W", nodeIds := ["t", "d"], parts := [⟨"w__0", "w__title_0", []⟩, ⟨"", "", ["t"]⟩] },
      { id := "v", name := "V", description := some "none", nodeIds := [] }]

theorem parse_render_varied : varied.Fits32 ∧ parse varied.render = .ok varied :=
  ⟨⟨by decide, by decide⟩, parse_render varied ⟨by decide, by decide⟩⟩

end Snapshot

end WorkflowAtlas
