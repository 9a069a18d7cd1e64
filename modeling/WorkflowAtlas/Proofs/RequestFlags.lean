import WorkflowAtlas.Proofs.FlowEdges

/-!
# Requests carry the flag to where their route is registered

Flags follow a call by the bare name of its callee, to functions of any file. They follow a request by file
and name: the route it meets is kept under the file that registers it, with the name of the function that
serves it.

**The law** (`request_carries_flag`): where the registering file has a flagged function of that name, the
function that sends the request is flagged. Where that file has none, the request changes no flag, whatever
functions of the name other files have. So the flags miss a route that is registered away from its function
(`handler_elsewhere_unflagged`).

One exception is stated with the law: facts may list a request under a function that its file does not have,
and flags pass through its key as through that of a function.
-/

namespace WorkflowAtlas

variable {files : List FileFacts} {connections fewer : List Connection}

def Request.key (request : Request) : FunctionKey :=
  .of request.file request.function

def RouteHandler.key (route : RouteHandler) : FunctionKey :=
  .of route.file route.function

/-! ## Connections without effect -/

/-- Without a connection there are still the steps that do not go to its handler. -/
theorem Leads.without {connection : Connection} {key next : FunctionKey} (leads : Leads files connections key next)
    (elsewhere : next ≠ connection.handler.key) : Leads files (connections.filter (· != connection)) key next := by
  cases leads with
  | call isFile isFunction isCall isOther isTarget named =>
    exact .call isFile isFunction isCall isOther isTarget named
  | request isConnection inFunction =>
    refine .request (List.mem_filter.mpr ⟨isConnection, bne_iff_ne.mpr ?_⟩) inFunction
    intro same
    exact elsewhere (congrArg (·.handler.key) same)

/-- A connection whose handler reaches no model is on no path to one. -/
theorem reachesModel_without {connection : Connection} (dead : ¬ ReachesModel files connections connection.handler.key)
    {key : FunctionKey} : ReachesModel files (connections.filter (· != connection)) key ↔
      ReachesModel files connections key := by
  constructor
  · exact ReachesModel.mono (List.Subset.refl files) (List.filter_subset_self _)
  · intro reaches
    obtain ⟨goal, callsModel, path⟩ := reaches
    refine ⟨goal, callsModel, ?_⟩
    induction path using Relation.ReflTransGen.head_induction_on with
    | refl => exact .refl
    | head first rest ih =>
      refine ih.head (first.without ?_)
      intro isHandler
      exact dead ⟨goal, callsModel, isHandler ▸ rest⟩

/-- Flags depend on which keys reach a model and on nothing else of the connections. -/
theorem propagateFlags_congr (same : ∀ key, ReachesModel files fewer key ↔ ReachesModel files connections key) :
    propagateFlags files fewer = propagateFlags files connections := by
  have keys : ∀ key, key ∈ flaggedKeys files fewer ↔ key ∈ flaggedKeys files connections := by
    intro key
    rw [mem_flaggedKeys, mem_flaggedKeys, same]
  exact List.map_congr_left fun facts _ => facts.withFlags_congr keys

/-! ## Requests in a linked repository -/

namespace Repository

/-- A repository has a function of a key. -/
def Has (repository : Repository) (key : FunctionKey) : Prop :=
  ∃ facts ∈ repository.files, ∃ function ∈ facts.functions, FunctionKey.of facts.file function.name = key

instance (repository : Repository) (key : FunctionKey) : Decidable (repository.Has key) :=
  inferInstanceAs (Decidable (∃ facts ∈ repository.files, ∃ function ∈ facts.functions, _))

/-- Linking changes nothing of what reaches a model. -/
theorem reachesModel_link {key : FunctionKey} : ReachesModel (link files).files connections key ↔
    ReachesModel files connections key := by
  rw [← mem_flaggedKeys, ← mem_flaggedKeys]
  exact iff_of_eq (congrArg (key ∈ ·) (flaggedKeys_withFlags _ files connections))

theorem reachesModel_of_flags {key : FunctionKey} (flagged : (link files).Flags key) :
    ReachesModel (link files).files (link files).connections key := by
  obtain ⟨facts, isFile, function, isFunction, rfl, flag⟩ := flagged
  exact (hasLlmCall_link isFile isFunction).mp flag

/-- A function whose key reaches a model is flagged. -/
theorem flags_of_reachesModel {key : FunctionKey} (has : (link files).Has key)
    (reaches : ReachesModel (link files).files (link files).connections key) : (link files).Flags key := by
  obtain ⟨facts, isFile, function, isFunction, rfl⟩ := has
  exact ⟨facts, isFile, function, isFunction, rfl, (hasLlmCall_link isFile isFunction).mpr reaches⟩

/-- A key that reaches a model is that of a function, if one sends the requests that are under it. -/
theorem has_of_reachesModel {key : FunctionKey}
    (reaches : ReachesModel (link files).files (link files).connections key)
    (owned : ∀ connection ∈ (link files).connections, connection.client.key = key → (link files).Has key) :
    (link files).Has key := by
  rcases reaches.isKey with ⟨facts, isFile, function, isFunction, isKey⟩ | ⟨connection, isConnection, isClient⟩
  · exact ⟨facts, isFile, function, isFunction, isKey.symm⟩
  · exact owned connection isConnection isClient.symm

/-- **A request carries the flag** of a function in the file that registers its route. Where no such function
is flagged, and requests under its name are sent by one, it changes no flag. -/
theorem request_carries_flag (files : List FileFacts) (connection : Connection)
    (isConnection : connection ∈ (link files).connections) (inFunction : connection.client.function ≠ moduleScope) :
    ((link files).Flags connection.handler.key → ∀ facts ∈ (link files).files, ∀ function ∈ facts.functions,
      FunctionKey.of facts.file function.name = connection.client.key → function.hasLlmCall = true) ∧
    (¬ (link files).Flags connection.handler.key →
      (∀ other ∈ (link files).connections, other.client.key = connection.handler.key →
        (link files).Has connection.handler.key) →
      propagateFlags files ((link files).connections.filter (· != connection)) = (link files).files) := by
  constructor
  · intro flagged facts isFile function isFunction isClient
    obtain ⟨goal, callsModel, path⟩ := reachesModel_of_flags flagged
    rw [hasLlmCall_link isFile isFunction, isClient]
    exact ⟨goal, callsModel, path.head (.request isConnection inFunction)⟩
  · intro unflagged owned
    have dead : ¬ ReachesModel files (link files).connections connection.handler.key := by
      intro reaches
      have linked := reachesModel_link.mpr reaches
      exact unflagged (flags_of_reachesModel (has_of_reachesModel linked owned) linked)
    exact propagateFlags_congr fun _ => reachesModel_without dead

/-- A route that another file registers than the one with its function, and a request for it. -/
def registeredElsewhere : List FileFacts :=
  [sampleFile "llm/chat.ts" [("chat", [], ["client.create"])],
    { sampleFile "server.ts" [] with
      routes := [⟨⟨"server.ts"⟩, 1, "chat", "POST", "/api/chat", "/api/chat", .routerCall⟩] },
    { sampleFile "web.ts" [("send", [], [])] with
      requests := [⟨⟨"web.ts"⟩, 1, "send", "POST", "/api/chat", "/api/chat"⟩] }]

theorem request_carries_flag_chat :
    (chatConnection ∈ (link (chatFiles [])).connections ∧ (link (chatFiles [])).Flags chatConnection.handler.key ∧
      ∀ facts ∈ (link (chatFiles [])).files, ∀ function ∈ facts.functions,
        FunctionKey.of facts.file function.name = chatConnection.client.key → function.hasLlmCall = true) ∧
    (chatConnection ∈ (link registeredElsewhere).connections ∧
      ¬ (link registeredElsewhere).Flags chatConnection.handler.key ∧
      propagateFlags registeredElsewhere ((link registeredElsewhere).connections.filter (· != chatConnection)) =
        (link registeredElsewhere).files) := by
  have inFunction : chatConnection.client.function ≠ moduleScope := by decide
  have isConnection : chatConnection ∈ (link (chatFiles [])).connections := by decide +kernel
  have flags : (link (chatFiles [])).Flags chatConnection.handler.key := by decide +kernel
  have isOther : chatConnection ∈ (link registeredElsewhere).connections := by decide +kernel
  have unflagged : ¬ (link registeredElsewhere).Flags chatConnection.handler.key := by decide +kernel
  have owned : ∀ other ∈ (link registeredElsewhere).connections, other.client.key = chatConnection.handler.key →
      (link registeredElsewhere).Has chatConnection.handler.key := by decide +kernel
  exact ⟨⟨isConnection, flags, (request_carries_flag _ _ isConnection inFunction).1 flags⟩,
    isOther, unflagged, (request_carries_flag _ _ isOther inFunction).2 unflagged owned⟩

/-- A request may be for a route whose function is flagged, and leave from a function that is not. -/
theorem handler_elsewhere_unflagged : ∃ connection ∈ (link registeredElsewhere).connections,
    connection.client.function ≠ moduleScope ∧
    (∃ facts ∈ (link registeredElsewhere).files, ∃ function ∈ facts.functions,
      function.name = connection.handler.function ∧ function.hasLlmCall = true) ∧
    ∃ facts ∈ (link registeredElsewhere).files, ∃ function ∈ facts.functions,
      FunctionKey.of facts.file function.name = connection.client.key ∧ function.hasLlmCall = false := by
  decide +kernel

end Repository

end WorkflowAtlas
