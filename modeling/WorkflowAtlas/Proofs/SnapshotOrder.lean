import WorkflowAtlas.Proofs.MemberOrder
import WorkflowAtlas.Proofs.SnapshotText

/-!
# Snapshots in another order

**The law** (`Snapshot.parse_reordered`): a text that is accepted as a snapshot is accepted as the same snapshot with
the members of its objects in another order, and with members of other names among them. It holds of the snapshot, its
nodes, edges, workflows and their parts, and of source locations; of a node also where the tag of its kind stands behind
what the kind carries.
-/

namespace WorkflowAtlas

open Document (Reordered MembersReordered ofJson)

/-! ## The parts of a snapshot -/

/-- **The names of all members** that a snapshot and its parts are read off. -/
def Snapshot.memberNames : List String :=
  ["version", "generatedAt", "nodes", "edges", "workflows"]
    -- A node with its kind and its source location.
    ++ ["id", "label", "description", "source", "isEntryPoint", "isExitPoint", "isCriticalPath"]
    ++ NodeKind.memberNames ++ ["file", "line", "function"]
    -- What edges, workflows and their parts have beside these.
    ++ ["target", "name", "nodeIds", "components", "titleNodeId"]

open Decoder (string_steady bool_steady nat32_steady)

theorem SourceLocation.record_steady : SourceLocation.record.Steady Snapshot.memberNames :=
  Record.Steady.required (by decide) string_steady |>.map SourceLocation.mk
    |>.seq (.required (by decide) nat32_steady)
    |>.seq (.required (by decide) string_steady)

theorem WorkflowPart.record_steady : WorkflowPart.record.Steady Snapshot.memberNames :=
  Record.Steady.required (by decide) string_steady |>.map WorkflowPart.mk
    |>.seq (.required (by decide) string_steady)
    |>.seq (.required (by decide) string_steady.list)

theorem Workflow.record_steady : Workflow.record.Steady Snapshot.memberNames :=
  Record.Steady.required (by decide) string_steady |>.map Workflow.mk
    |>.seq (.required (by decide) string_steady)
    |>.seq (.optional (by decide) string_steady)
    |>.seq (.required (by decide) string_steady.list)
    |>.seq (.defaulted (by decide) WorkflowPart.record_steady.decoder.list [])

theorem FlowEdge.record_steady : FlowEdge.record.Steady Snapshot.memberNames :=
  Record.Steady.required (by decide) string_steady |>.map FlowEdge.mk
    |>.seq (.required (by decide) string_steady)
    |>.seq (.optional (by decide) string_steady)
    |>.seq (.defaulted (by decide) bool_steady false)

section Node

variable {members others : List (Option String × Document)}
  (reordered : MembersReordered Snapshot.memberNames members others)

include reordered

theorem NodeKind.ofMembers_steady {word : String} {kind : NodeKind}
    (read : NodeKind.ofMembers word members = .ok kind) : NodeKind.ofMembers word others = .ok kind := by
  have again {α : Type} {record : Record α} (steady : record.Steady Snapshot.memberNames) {a : α}
      (read : record.ofMembers (fun _ => none) members .closed = .ok a) :
      record.ofMembers (fun _ => none) others .closed = .ok a :=
    steady.ofMembers reordered (fun _ _ _ _ => rfl) (fun _ _ => rfl) read
  unfold NodeKind.ofMembers at read ⊢
  split at read
  case h_2 =>
    obtain ⟨model, isModel, isKind⟩ := map_eq_ok_iff.mp read
    exact map_eq_ok_iff.mpr ⟨model, again (.optional (by decide) string_steady) isModel, isKind⟩
  case h_9 =>
    exact again (Record.Steady.required (by decide) string_steady |>.map NodeKind.reference
      |>.seq (.required (by decide) string_steady)) read
  case h_10 => exact again (Record.Steady.required (by decide) string_steady |>.map NodeKind.workflowTitle) read
  all_goals exact read

/-- **The kind that reordered members give** is the same: its tag stands among them once and stays as it is. -/
theorem NodeKind.decode_steady {kind : NodeKind} (decoded : NodeKind.decode members = .ok kind) :
    NodeKind.decode others = .ok kind := by
  have keyOf {key : Option String} {doc : Document} {among : List (Option String × Document)}
      (isThere : (key, doc) ∈ among.filter (·.1 == some "type")) : key = some "type" := by
    simpa using List.of_mem_filter isThere
  unfold NodeKind.decode at decoded ⊢
  split at decoded
  · next key tag isTag =>
    obtain rfl := keyOf (isTag ▸ List.mem_singleton_self (key, tag))
    have tags := reordered.filter (· == some "type")
    rw [isTag] at tags
    obtain ⟨other, isOther, changed⟩ := tags.of_singleton (by decide) fun _ => keyOf
    rw [isOther]
    split at decoded
    · next word isWord =>
      have same : other = tag := by
        rcases changed.eq_or with same | ⟨_, rfl⟩ | ⟨_, rfl⟩
        · exact same
        · cases isWord
        · cases isWord
      simp only [same, isWord]
      exact NodeKind.ofMembers_steady (reordered.filter (· != some "type")) decoded
    · cases decoded
  · cases decoded

end Node

theorem FlowNode.record_steady : FlowNode.record.Steady Snapshot.memberNames :=
  Record.Steady.required (by decide) string_steady |>.map _
    |>.seq (.required (by decide) string_steady)
    |>.seq (.optional (by decide) string_steady)
    |>.seq (.optional (by decide) SourceLocation.record_steady.decoder)
    |>.seq (.defaulted (by decide) bool_steady false)
    |>.seq (.defaulted (by decide) bool_steady false)
    |>.seq (.defaulted (by decide) bool_steady false)

/-- **A node does not see the order**, neither of its own members nor of those that give its kind. -/
theorem FlowNode.decode_steady : FlowNode.decode.Steady Snapshot.memberNames := by
  intro doc other node reordered decoded
  cases doc with
  | obj members ending =>
    obtain ⟨others, rfl, inMembers⟩ := reordered.of_obj
    obtain ⟨make, made, decoded⟩ := bind_eq_ok_iff.mp decoded
    obtain ⟨kind, isKind, isNode⟩ := bind_eq_ok_iff.mp decoded
    have made := FlowNode.record_steady.ofMembers inMembers (Document.keepFault?_steady FlowNode.depth)
      (fun _ plain => Document.keepFault?_of_isPlain plain _) made
    have isKind := NodeKind.decode_steady (inMembers.filter (!Record.isField FlowNode.record.fields ·)) isKind
    exact bind_eq_ok_iff.mpr ⟨make, made, bind_eq_ok_iff.mpr ⟨kind, isKind, isNode⟩⟩
  | _ => cases decoded

theorem Snapshot.record_steady : Snapshot.record.Steady Snapshot.memberNames :=
  Record.Steady.defaulted (by decide) nat32_steady snapshotVersion |>.map Snapshot.mk
    |>.seq (.optional (by decide) string_steady)
    |>.seq (.defaulted (by decide) FlowNode.decode_steady.list [])
    |>.seq (.defaulted (by decide) FlowEdge.record_steady.decoder.list [])
    |>.seq (.defaulted (by decide) Workflow.record_steady.decoder.list [])

/-! ## Texts -/

/-- **A snapshot does not see the order of members, nor members of other names.** A text that is accepted spells the
document that is read off it; and any text that spells this document with the members of any of its objects in another
order, and with more members among them that have none of the names and a plain value, is accepted with the same
snapshot. -/
theorem Snapshot.parse_reordered {text : String} {snapshot : Snapshot} (accepted : Snapshot.parse text = .ok snapshot) :
    Document.Spells text.toList (Document.read text).document ∧
      ∀ {other : Document} {otherText : String}, Reordered Snapshot.memberNames (Document.read text).document other →
        Document.Spells otherText.toList other → Snapshot.parse otherText = .ok snapshot := by
  obtain ⟨decoded, alone⟩ := Decoder.run_eq_ok_iff.mp accepted
  refine ⟨Document.spells_of_read alone (Record.not_broken decoded), fun reordered spelled => ?_⟩
  refine Decoder.run_eq_ok_iff.mpr ?_
  rw [spelled.read]
  exact ⟨Snapshot.record_steady.decoder reordered decoded, rfl⟩

/-- The members of a node that calls a model. -/
def callMembers : List (String × Json) :=
  [("id", .str "a"), ("label", .str "Ask"), ("type", .str "llm"), ("model", .str "m")]

/-- Two members of other names. -/
def noteMembers : List (String × Json) :=
  [("seen", .bool true), ("note", .null)]

/-- All of them, with the tag of the node behind what it carries. -/
def shuffledMembers : List (String × Json) :=
  (callMembers ++ noteMembers).reverse

/-- A snapshot of one node, by its members. -/
def oneNode (members : List (String × Json)) : Json :=
  .obj [("nodes", .arr [.obj members])]

theorem oneNode_reordered :
    Reordered Snapshot.memberNames (ofJson (oneNode callMembers)) (ofJson (oneNode shuffledMembers)) := by
  have extras : ∀ member ∈ noteMembers, Document.isExtra Snapshot.memberNames (some member.1, ofJson member.2) = true :=
    List.all_eq_true.mp (by decide)
  have node := Document.reordered_ofJson extras (List.reverse_perm (callMembers ++ noteMembers))
  have nodes : Reordered Snapshot.memberNames (ofJson (.arr [.obj callMembers]))
      (ofJson (.arr [.obj shuffledMembers])) :=
    .arr [(ofJson (.obj callMembers), ofJson (.obj shuffledMembers))] (List.forall_mem_singleton.mpr node)
  have noExtra : ∀ member ∈ [], Document.isExtra Snapshot.memberNames member = true := nofun
  exact .obj [⟨some "nodes", _, _⟩] (List.forall_mem_singleton.mpr nodes) noExtra (List.Perm.refl _)

theorem Snapshot.parse_reordered_call :
    Snapshot.parse (oneNode callMembers).pretty =
        .ok { nodes := [{ id := "a", label := "Ask", kind := .llm (some "m") }] } ∧
      Snapshot.parse (oneNode shuffledMembers).pretty =
        .ok { nodes := [{ id := "a", label := "Ask", kind := .llm (some "m") }] } := by
  have readable : (oneNode callMembers).Readable := ⟨⟨⟨trivial, trivial, trivial, trivial, trivial⟩, trivial⟩, trivial⟩
  have accepted : Snapshot.parse (oneNode callMembers).pretty =
      .ok { nodes := [{ id := "a", label := "Ask", kind := .llm (some "m") }] } :=
    Decoder.run_pretty readable rfl
  refine ⟨accepted, (Snapshot.parse_reordered accepted).2 ?_ (Document.spells_pretty ?_)⟩
  · rw [Document.read_pretty readable]
    exact oneNode_reordered
  · exact ⟨⟨⟨trivial, trivial, trivial, trivial, trivial, trivial, trivial⟩, trivial⟩, trivial⟩

end WorkflowAtlas
