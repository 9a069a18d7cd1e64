import Mathlib.Tactic.MkIffOfInductiveProp
import WorkflowAtlas.Proofs.HttpLabels
import WorkflowAtlas.Proofs.ResolvedCalls
import WorkflowAtlas.Repository.StaticGraph

/-!
# The edges of a workflow graph

Edges come from calls and then from requests, and one pair of nodes has at most one: the first
(`mem_flowEdges_between`). Pairs are told apart by the text of the edge's key, so this is said of pairs that
share their key with no other (`OwnKey`).

**Calls** (`exists_edge_of_follows`): a call across files between flagged functions is an edge, where the
graph follows it. The graph looks each callee up again by its simple name, in the caller's file, then among
the calls across files, where a later one of the same name takes the place of an earlier one. `Follows` says
when this arrives at the same function, and `calls_lost` has a repository for each way it does not.

**Requests** (`connection_labelled_iff`): a connection between two nodes joins them, and with its label
exactly where no call joins them already. A request from a function that also calls something of the
handler's name is so left without a label (`labels_lost`).
-/

namespace WorkflowAtlas

def CallerPlace.nodeId (place : CallerPlace) : String :=
  WorkflowAtlas.nodeId place.file place.function

def CalleePlace.nodeId (place : CalleePlace) : String :=
  WorkflowAtlas.nodeId place.file place.function

def Request.nodeId (request : Request) : String :=
  WorkflowAtlas.nodeId request.file request.function

def RouteHandler.nodeId (route : RouteHandler) : String :=
  WorkflowAtlas.nodeId route.file route.function

/-- A node's id is a matter of the key: two writings of one path give one id. -/
theorem nodeId_congr {file other : SourcePath} {name another : String}
    (same : FunctionKey.of file name = FunctionKey.of other another) : nodeId file name = nodeId other another := by
  obtain ⟨components, names⟩ := (FunctionKey.mk.injEq ..).mp same
  rw [nodeId, nodeId, SourcePath.slashed, SourcePath.slashed, components, names]

/-- Whether an edge goes from one node to another. -/
def FlowEdge.joins (source target : String) (edge : FlowEdge) : Bool :=
  edge.source == source && edge.target == target

theorem FlowEdge.joins_iff {source target : String} {edge : FlowEdge} :
    edge.joins source target = true ↔ edge.source = source ∧ edge.target = target := by
  simp [joins]

/-- Where some edge of a list joins two nodes, there is a first one. -/
theorem FlowEdge.exists_first {edges : List FlowEdge} {source target : String} {edge : FlowEdge}
    (member : edge ∈ edges) (joins : edge.joins source target) :
    ∃ first ∈ edges, first.joins source target ∧ edges.find? (·.joins source target) = some first := by
  obtain ⟨first, found⟩ := Option.isSome_iff_exists.mp (List.find?_isSome.mpr ⟨edge, member, joins⟩)
  exact ⟨first, List.mem_of_find?_eq_some found, List.find?_some found, found⟩

namespace Repository

variable {repository : Repository} {source target : String} {edge : FlowEdge}

/-! ## Nodes -/

/-- The ids of the nodes of the graph. -/
def nodeIds (repository : Repository) : List String :=
  repository.related.map (·.id)

theorem ids_flowGraph (repository : Repository) : repository.flowGraph.1.map (·.id) = repository.nodeIds := by
  simp [flowGraph, nodeIds, flowNode]

theorem any_related {id : String} : repository.related.any (·.id == id) = true ↔ id ∈ repository.nodeIds := by
  simp [nodeIds]

theorem mem_related {facts : FileFacts} {function : FunctionFacts} (isFile : facts ∈ repository.files)
    (isFunction : function ∈ facts.functions) (flag : function.hasLlmCall = true) :
    ⟨nodeId facts.file function.name, function⟩ ∈ repository.related :=
  List.mem_flatMap.mpr ⟨facts, isFile, List.mem_map.mpr ⟨function, List.mem_filter.mpr ⟨isFunction, flag⟩, rfl⟩⟩

theorem mem_nodeIds_of_flags {file : SourcePath} {name : String} (flags : repository.Flags (.of file name)) :
    nodeId file name ∈ repository.nodeIds := by
  obtain ⟨facts, isFile, function, isFunction, same, flag⟩ := flags
  rw [← nodeId_congr same]
  exact List.mem_map_of_mem (mem_related isFile isFunction flag)

/-! ## Which edges there are -/

theorem mem_callEdges : edge ∈ repository.callEdges ↔
    ∃ function ∈ repository.related, ∃ callee ∈ function.facts.calls,
      ∃ target ∈ repository.callTargets repository.related function callee,
        { source := function.id, target } = edge := by
  simp [callEdges]

theorem mem_requestEdges : edge ∈ repository.requestEdges ↔
    ∃ connection ∈ repository.connections, connection.client.function ≠ moduleScope ∧
      connection.client.nodeId ∈ repository.nodeIds ∧ connection.handler.nodeId ∈ repository.nodeIds ∧
      edge = { source := connection.client.nodeId, target := connection.handler.nodeId,
               label := some (routeLabel connection.handler) } := by
  simp only [requestEdges, List.mem_filterMap]
  refine exists_congr fun connection => and_congr_right fun _ => ?_
  split
  · next outside => simp [outside]
  · next inside =>
    simp only [ne_eq, inside, not_false_eq_true, true_and, ← any_related, ← and_assoc, Bool.and_eq_true,
      Option.ite_none_right_eq_some, Option.some.injEq, eq_comm (a := edge)]
    rfl

theorem unlabelled_of_mem_callEdges (member : edge ∈ repository.callEdges) : edge.label = none := by
  obtain ⟨_, _, _, _, _, _, rfl⟩ := mem_callEdges.mp member
  rfl

/-- Edges go from node to node. -/
theorem ends_mem_nodeIds (member : edge ∈ repository.callEdges ++ repository.requestEdges) :
    edge.source ∈ repository.nodeIds ∧ edge.target ∈ repository.nodeIds := by
  rcases List.mem_append.mp member with isCall | isRequest
  · obtain ⟨function, isRelated, _, _, target, isTarget, rfl⟩ := mem_callEdges.mp isCall
    exact ⟨List.mem_map_of_mem isRelated, any_related.mp (List.mem_filter.mp isTarget).2⟩
  · obtain ⟨_, _, _, client, handler, rfl⟩ := mem_requestEdges.mp isRequest
    exact ⟨client, handler⟩

/-- Deleting loops and repeats adds no edge. -/
theorem mem_of_mem_flowEdges (member : edge ∈ repository.flowEdges) :
    edge ∈ repository.callEdges ++ repository.requestEdges ∧ edge.source ≠ edge.target := by
  have kept := List.mem_of_find?_eq_some (mem_eraseDupsBy_key.mp member)
  rw [List.mem_filter, bne_iff_ne] at kept
  exact kept

/-- **A pair of nodes with a key of its own**: no other pair is written the same way. -/
def OwnKey (repository : Repository) (source target : String) : Prop :=
  ∀ a ∈ repository.nodeIds, ∀ b ∈ repository.nodeIds, a ++ "->" ++ b = source ++ "->" ++ target →
    a = source ∧ b = target

instance (repository : Repository) (source target : String) : Decidable (repository.OwnKey source target) :=
  inferInstanceAs (Decidable (∀ a ∈ repository.nodeIds, ∀ b ∈ repository.nodeIds, _ → _))

/-- **Between two nodes the first edge is kept.** -/
theorem mem_flowEdges_between (own : repository.OwnKey source target) (apart : source ≠ target)
    (joins : edge.joins source target) : edge ∈ repository.flowEdges ↔
      (repository.callEdges ++ repository.requestEdges).find? (·.joins source target) = some edge := by
  obtain ⟨rfl, rfl⟩ := FlowEdge.joins_iff.mp joins
  -- Among edges between nodes, to have the key and be no loop is to join the two nodes.
  have same : ∀ other ∈ repository.callEdges ++ repository.requestEdges,
      (decide ((other.source != other.target) = true ∧ (other.key == edge.key) = true)) =
        other.joins edge.source edge.target := by
    intro other member
    obtain ⟨isSource, isTarget⟩ := ends_mem_nodeIds member
    rw [Bool.eq_iff_iff, decide_eq_true_iff, bne_iff_ne, beq_iff_eq, FlowEdge.joins_iff]
    constructor
    · rintro ⟨_, sameKey⟩
      exact own _ isSource _ isTarget sameKey
    · rintro ⟨sameSource, sameTarget⟩
      exact ⟨by rwa [sameSource, sameTarget], by rw [FlowEdge.key, sameSource, sameTarget, FlowEdge.key]⟩
  rw [flowEdges, mem_eraseDupsBy_key, List.find?_filter, ← List.head?_filter, List.filter_congr same,
    List.head?_filter]

/-- Where some edge joins two nodes, one is kept. -/
theorem exists_flowEdge (own : repository.OwnKey source target) (apart : source ≠ target)
    (member : edge ∈ repository.callEdges ++ repository.requestEdges) (joins : edge.joins source target) :
    ∃ kept ∈ repository.flowEdges, kept.joins source target := by
  obtain ⟨first, _, firstJoins, found⟩ := FlowEdge.exists_first member joins
  exact ⟨first, (mem_flowEdges_between own apart firstJoins).mpr found, firstJoins⟩

/-! ## Calls across files -/

/-- **A call across files that the graph follows**, `after` being the calls that are reported after it. -/
structure Follows (repository : Repository) (call : CrossFileCall) (after : List CrossFileCall) : Prop where
  apart : call.caller.nodeId ≠ call.callee.nodeId
  unrenamed : ¬ call.IsRenamed repository.files
  /-- A node of the callee's name in the file of the caller would come first. -/
  elsewhere : ∀ facts ∈ repository.files, ∀ function ∈ facts.functions,
    FunctionKey.of facts.file function.name = call.caller.key →
      nodeId function.file call.callee.function ∉ repository.nodeIds
  /-- Of the calls of a node to functions of one name the last one counts. -/
  last : ∀ later ∈ after, later.caller.nodeId = call.caller.nodeId → later.callee.function = call.callee.function →
    later.callee.nodeId = call.callee.nodeId
  ownKey : repository.OwnKey call.caller.nodeId call.callee.nodeId

variable {before after : List CrossFileCall} {call : CrossFileCall}

/-- The last call of a node to functions of one name says where the name leads. -/
theorem crossTarget?_eq (reported : repository.crossFileCalls = before ++ call :: after)
    (last : ∀ later ∈ after, later.caller.nodeId = call.caller.nodeId →
      later.callee.function = call.callee.function → later.callee.nodeId = call.callee.nodeId) :
    repository.crossTarget? call.caller.nodeId call.callee.function = some call.callee.nodeId := by
  have reversed : repository.crossFileCalls.reverse = after.reverse ++ call :: before.reverse := by
    simp [reported]
  rw [crossTarget?, reversed, List.find?_append]
  cases found : after.reverse.find? _ with
  | some later =>
    have isLater := List.mem_reverse.mp (List.mem_of_find?_eq_some found)
    obtain ⟨sameCaller, sameName⟩ : later.caller.nodeId = call.caller.nodeId ∧
        later.callee.function = call.callee.function := by
      simpa [CallerPlace.nodeId] using List.find?_some found
    exact congrArg some (last later isLater sameCaller sameName)
  | none =>
    rw [Option.none_or, List.find?_cons_of_pos (by simp [CallerPlace.nodeId])]
    rfl

/-- A name that no node of the caller's file has leads where the call across files arrives. -/
theorem mem_callTargets {function : RelatedFunction} {callee : String}
    (elsewhere : nodeId function.facts.file (Callee.simpleName callee) ∉ repository.nodeIds)
    (arrives : repository.crossTarget? function.id (Callee.simpleName callee) = some target)
    (isNode : target ∈ repository.nodeIds) : target ∈ repository.callTargets repository.related function callee := by
  refine List.mem_filter.mpr ⟨?_, any_related.mpr isNode⟩
  rw [if_neg (mt any_related.mp elsewhere), arrives]
  exact List.mem_singleton_self target

/-- **A call across files between flagged functions is an edge of the graph**, where the graph follows it. -/
theorem exists_edge_of_follows (files : List FileFacts) (before after : List CrossFileCall) (call : CrossFileCall)
    (reported : (link files).crossFileCalls = before ++ call :: after)
    (callerFlagged : (link files).Flags call.caller.key) (calleeFlagged : (link files).Flags call.callee.key)
    (follows : (link files).Follows call after) :
    ∃ edge ∈ (link files).flowGraph.2, edge.joins call.caller.nodeId call.callee.nodeId := by
  have isReported : call ∈ (link files).crossFileCalls := by simp [reported]
  obtain ⟨facts, isFile, function, isFunction, isCaller, callee, isCall, named⟩ :=
    isByName_of_not_isRenamed isReported follows.unrenamed
  have flag := hasLlmCall_of_flags callerFlagged isFile isFunction isCaller
  have isNode : call.callee.nodeId ∈ (link files).nodeIds := mem_nodeIds_of_flags calleeFlagged
  have isSource : nodeId facts.file function.name = call.caller.nodeId := nodeId_congr isCaller
  have leads : call.callee.nodeId ∈ (link files).callTargets (link files).related
      ⟨nodeId facts.file function.name, function⟩ callee := by
    refine mem_callTargets ?_ ?_ isNode
    · rw [named]
      exact follows.elsewhere facts isFile function isFunction isCaller
    · rw [isSource, named]
      exact crossTarget?_eq reported follows.last
  have isEdge : { source := nodeId facts.file function.name, target := call.callee.nodeId } ∈ (link files).callEdges :=
    mem_callEdges.mpr ⟨_, mem_related isFile isFunction flag, callee, isCall, _, leads, rfl⟩
  exact exists_flowEdge follows.ownKey follows.apart (List.mem_append_left _ isEdge)
    (FlowEdge.joins_iff.mpr ⟨isSource, rfl⟩)

/-- A function that calls functions of one name in two files. -/
def twoModules : List FileFacts :=
  [sampleFile "a.ts" [("ask", [], ["client.create"])], sampleFile "b.ts" [("ask", [], ["client.create"])],
    sampleFile "main.ts" [("run", ["a.ask", "b.ask"], [])]
      [{ source := "./a", asName := some "a", line := 1 }, { source := "./b", asName := some "b", line := 2 }]]

def firstCall : CrossFileCall :=
  { caller := ⟨⟨"main.ts"⟩, "run", 1⟩, callee := ⟨⟨"a.ts"⟩, "ask", some "./a"⟩ }

def secondCall : CrossFileCall :=
  { caller := ⟨⟨"main.ts"⟩, "run", 1⟩, callee := ⟨⟨"b.ts"⟩, "ask", some "./b"⟩ }

theorem exists_edge_twoModules : (link twoModules).crossFileCalls = [firstCall] ++ secondCall :: [] ∧
    (link twoModules).Flags secondCall.caller.key ∧ (link twoModules).Flags secondCall.callee.key ∧
    (link twoModules).Follows secondCall [] ∧
    ∃ edge ∈ (link twoModules).flowGraph.2, edge.joins secondCall.caller.nodeId secondCall.callee.nodeId := by
  have reported : (link twoModules).crossFileCalls = [firstCall] ++ secondCall :: [] := by
    rw [link_of_sorted (by decide +kernel)]
    decide +kernel
  have callerFlagged : (link twoModules).Flags secondCall.caller.key := by decide +kernel
  have calleeFlagged : (link twoModules).Flags secondCall.callee.key := by decide +kernel
  have follows : (link twoModules).Follows secondCall [] :=
    ⟨by decide +kernel, by decide +kernel, by decide +kernel, by simp, by decide +kernel⟩
  exact ⟨reported, callerFlagged, calleeFlagged, follows,
    exists_edge_of_follows twoModules _ _ _ reported callerFlagged calleeFlagged follows⟩

/-- A repository of different files with a call across files between flagged functions that is no edge. -/
def LosesCall (repository : Repository) : Prop :=
  (repository.files.map (·.file.normalize)).Nodup ∧ ∃ call ∈ repository.crossFileCalls,
    repository.Flags call.caller.key ∧ repository.Flags call.callee.key ∧
      ∀ edge ∈ repository.flowGraph.2, ¬ edge.joins call.caller.nodeId call.callee.nodeId

instance (repository : Repository) : Decidable repository.LosesCall :=
  inferInstanceAs (Decidable (_ ∧ ∃ call ∈ repository.crossFileCalls, _ ∧ _ ∧ ∀ edge ∈ repository.flowGraph.2, _))

/-- A function around one of the same name in another file. -/
def wrapper : List FileFacts :=
  [sampleFile "app.ts" [("generate", ["llm.generate"], [])] [{ source := "./llm", asName := some "llm", line := 1 }],
    sampleFile "llm.ts" [("generate", [], ["client.create"])]]

/-- A function that calls another by the name it is imported under. -/
def renamedCall : List FileFacts :=
  [sampleFile "app.ts" [("run", ["gen"], ["client.create"])]
      [{ source := "./llm", names := [{ name := "generate", asName := some "gen" }], line := 1 }],
    sampleFile "llm.ts" [("generate", [], ["client.create"])]]

/-- Two functions whose nodes have one id. -/
def oneId : List FileFacts :=
  [sampleFile "a" [("b.ts::ask", ["ask"], [])] [{ source := "./a::b.ts", names := [{ name := "ask" }], line := 1 }],
    sampleFile "a::b.ts" [("ask", [], ["client.create"])]]

/-- Two pairs of nodes with one key: `p.ts::a->x` with `y.ts::ask`, and `p.ts::a` with `x->y.ts::ask`. -/
def oneKey : List FileFacts :=
  [sampleFile "p.ts" [("a->x", ["ask"], []), ("a", ["m.ask"], [])] [{ source := "./x->y", asName := some "m", line := 1 }],
    sampleFile "x->y.ts" [("ask", [], ["client.create"])], sampleFile "y.ts" [("ask", [], ["client.create"])]]

/-- A call is lost to a function of the caller's file, to a new name, to a later call of the same name, to
the id of its caller, and to a pair with the same key. -/
theorem calls_lost : (link wrapper).LosesCall ∧ (link renamedCall).LosesCall ∧ (link twoModules).LosesCall ∧
    (link oneId).LosesCall ∧ (link oneKey).LosesCall := by
  refine ⟨?_, ?_, ?_, ?_, ?_⟩ <;> (rw [link_of_sorted (by decide +kernel)]; decide +kernel)

/-! ## Requests -/

/-- **A connection between two nodes**, where every handler has a verb and a path with a slash in front. -/
@[mk_iff]
structure Connects (repository : Repository) (connection : Connection) : Prop where
  isConnection : connection ∈ repository.connections
  inFunction : connection.client.function ≠ moduleScope
  client : connection.client.nodeId ∈ repository.flowGraph.1.map (·.id)
  handler : connection.handler.nodeId ∈ repository.flowGraph.1.map (·.id)
  apart : connection.client.nodeId ≠ connection.handler.nodeId
  routes : ∀ other ∈ repository.connections,
    (Http.verb? other.handler.method).isSome ∧ Text.startsWith other.handler.path "/"

instance (repository : Repository) (connection : Connection) : Decidable (repository.Connects connection) :=
  decidable_of_iff' _ (connects_iff repository connection)

variable {connection : Connection}

theorem Connects.exists_requestEdge (connects : repository.Connects connection) :
    ∃ request ∈ repository.requestEdges, request.joins connection.client.nodeId connection.handler.nodeId := by
  have client := connects.client
  have handler := connects.handler
  rw [ids_flowGraph] at client handler
  exact ⟨_, mem_requestEdges.mpr ⟨connection, connects.isConnection, connects.inFunction, client, handler, rfl⟩,
    FlowEdge.joins_iff.mpr ⟨rfl, rfl⟩⟩

theorem Connects.isLabel (connects : repository.Connects connection) (member : edge ∈ repository.requestEdges) :
    edge.label.any Http.isLabel := by
  obtain ⟨other, isOther, _, _, _, rfl⟩ := mem_requestEdges.mp member
  obtain ⟨isVerb, slash⟩ := connects.routes other isOther
  exact Http.isLabel_append isVerb slash

/-- **A connection joins its two nodes, and with a label exactly where no call joins them.** -/
theorem connection_labelled_iff (repository : Repository) (connection : Connection)
    (connects : repository.Connects connection)
    (ownKey : repository.OwnKey connection.client.nodeId connection.handler.nodeId) :
    (∃ edge ∈ repository.flowGraph.2, edge.joins connection.client.nodeId connection.handler.nodeId) ∧
    ((∃ edge ∈ repository.flowGraph.2, edge.joins connection.client.nodeId connection.handler.nodeId ∧
        edge.label.any Http.isLabel) ↔
      ∀ call ∈ repository.callEdges, ¬ call.joins connection.client.nodeId connection.handler.nodeId) := by
  obtain ⟨request, isRequest, joins⟩ := connects.exists_requestEdge
  refine ⟨exists_flowEdge ownKey connects.apart (List.mem_append_right _ isRequest) joins, ?_, ?_⟩
  · rintro ⟨edge, isEdge, joined, labelled⟩ call isCall callJoins
    -- Calls come before requests, so the edge that is kept is a call.
    obtain ⟨first, isFirst, _, found⟩ := FlowEdge.exists_first isCall callJoins
    have kept := (mem_flowEdges_between ownKey connects.apart joined).mp isEdge
    rw [List.find?_append, found, Option.some_or, Option.some.injEq] at kept
    subst kept
    rw [unlabelled_of_mem_callEdges isFirst] at labelled
    exact Bool.noConfusion labelled
  · intro noCall
    obtain ⟨first, isFirst, firstJoins, found⟩ := FlowEdge.exists_first isRequest joins
    have kept : (repository.callEdges ++ repository.requestEdges).find?
        (·.joins connection.client.nodeId connection.handler.nodeId) = some first := by
      rw [List.find?_append, List.find?_eq_none.mpr noCall, Option.none_or, found]
    exact ⟨first, (mem_flowEdges_between ownKey connects.apart firstJoins).mpr kept, firstJoins,
      connects.isLabel isFirst⟩

/-- A request and the route that serves it, where the function that sends it has the given callees. -/
def chatFiles (calls : List String) : List FileFacts :=
  [{ sampleFile "server.ts" [("chat", [], ["client.create"])] with
      routes := [⟨⟨"server.ts"⟩, 1, "chat", "POST", "/api/chat", "/api/chat", .routerCall⟩] },
    { sampleFile "web.ts" [("send", calls, [])] with
      requests := [⟨⟨"web.ts"⟩, 1, "send", "POST", "/api/chat", "/api/chat"⟩] }]

def chatConnection : Connection :=
  { client := ⟨⟨"web.ts"⟩, 1, "send", "POST", "/api/chat", "/api/chat"⟩
    handler := ⟨⟨"server.ts"⟩, 1, "chat", "POST", "/api/chat", "/api/chat", .routerCall⟩
    confidence := .exact }

theorem connection_labelled_chat : (link (chatFiles [])).Connects chatConnection ∧
    (link (chatFiles [])).OwnKey chatConnection.client.nodeId chatConnection.handler.nodeId ∧
    ∃ edge ∈ (link (chatFiles [])).flowGraph.2,
      edge.joins chatConnection.client.nodeId chatConnection.handler.nodeId ∧ edge.label.any Http.isLabel := by
  have connects : (link (chatFiles [])).Connects chatConnection := by
    rw [link_of_sorted (by decide +kernel)]
    decide +kernel
  have ownKey : (link (chatFiles [])).OwnKey chatConnection.client.nodeId chatConnection.handler.nodeId := by
    decide +kernel
  have noCall : ∀ call ∈ (link (chatFiles [])).callEdges,
      ¬ call.joins chatConnection.client.nodeId chatConnection.handler.nodeId := by
    rw [link_of_sorted (by decide +kernel)]
    decide +kernel
  exact ⟨connects, ownKey, (connection_labelled_iff _ _ connects ownKey).2.mpr noCall⟩

/-- A repository with a connection between two nodes and no labelled edge for it. -/
def LosesLabel (repository : Repository) : Prop :=
  ∃ connection ∈ repository.connections, repository.Connects connection ∧
    ∀ edge ∈ repository.flowGraph.2, edge.joins connection.client.nodeId connection.handler.nodeId →
      ¬ edge.label.any Http.isLabel

instance (repository : Repository) : Decidable repository.LosesLabel :=
  inferInstanceAs (Decidable (∃ connection ∈ repository.connections, _ ∧ ∀ edge ∈ repository.flowGraph.2, _ → _))

/-- The two pairs of `oneKey`, the second one joined by a request. -/
def oneKeyRequest : List FileFacts :=
  [{ sampleFile "p.ts" [("a->x", ["ask"], []), ("a", [], [])] with
      requests := [⟨⟨"p.ts"⟩, 1, "a", "POST", "/ask", "/ask"⟩] },
    { sampleFile "x->y.ts" [("ask", [], ["client.create"])] with
      routes := [⟨⟨"x->y.ts"⟩, 1, "ask", "POST", "/ask", "/ask", .routerCall⟩] },
    sampleFile "y.ts" [("ask", [], ["client.create"])]]

/-- A label is lost to a call of the handler's name, and to a call with the same key. -/
theorem labels_lost : (link (chatFiles ["chat"])).LosesLabel ∧ (link oneKeyRequest).LosesLabel := by
  refine ⟨?_, ?_⟩ <;> (rw [link_of_sorted (by decide +kernel)]; decide +kernel)

end Repository

end WorkflowAtlas
