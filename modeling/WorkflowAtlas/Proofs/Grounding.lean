import WorkflowAtlas.Proofs.RequestFlags

/-!
# Where the edges of a node lead

A node stands for a function that reaches a language model, and one expects its edges to lead to a node that
calls one. They need not. Nodes are found by steps between keys, along a call to every function of its name;
edges keep one candidate for a call, need a node at either end, and keep one edge for a key.

**The law** (`grounded_or_stranded`): from every node, edges lead to a node that calls a model, or to a
**stranded** one, which loses every step that leads nearer to a model. A call is lost where its name takes it
elsewhere (`Diverts`), a request where no function has the key of its handler, and either where another pair
of nodes has taken the key of the edge (`KeyTaken`). Each way leaves a node without a path to a model in some
repository (`nodes_ungrounded`).

The proof goes by distance. Of the functions whose nodes are reached from a node, take one nearest to a model.
Either it calls a model, or every function a step nearer has a node that is not reached; so no edge goes
there, and the step was lost. Cycles do not matter, since they lead no nearer.
-/

namespace WorkflowAtlas

open Relation (ReflTransGen)

variable {files : List FileFacts} {connections : List Connection}

/-! ## The distance to a model -/

/-- Reaching a language model in a number of steps. -/
inductive ReachesIn (files : List FileFacts) (connections : List Connection) : Nat → FunctionKey → Prop where
  | here {key : FunctionKey} : CallsModel files key → ReachesIn files connections 0 key
  | step {n : Nat} {key next : FunctionKey} : Leads files connections key next →
      ReachesIn files connections n next → ReachesIn files connections (n + 1) key

theorem reachesModel_iff {key : FunctionKey} :
    ReachesModel files connections key ↔ ∃ n, ReachesIn files connections n key := by
  constructor
  · intro reaches
    obtain ⟨goal, callsModel, path⟩ := reaches
    induction path using ReflTransGen.head_induction_on with
    | refl => exact ⟨0, .here callsModel⟩
    | head first _ ih =>
      obtain ⟨n, reaches⟩ := ih
      exact ⟨n + 1, .step first reaches⟩
  · intro within
    obtain ⟨n, reaches⟩ := within
    induction reaches with
    | here callsModel => exact ⟨_, callsModel, .refl⟩
    | step first _ ih =>
      obtain ⟨goal, callsModel, path⟩ := ih
      exact ⟨goal, callsModel, path.head first⟩

/-- **A key is nearer to a model than another**: it reaches one in fewer steps. -/
def Nearer (files : List FileFacts) (connections : List Connection) (next key : FunctionKey) : Prop :=
  ∃ n, ReachesIn files connections n next ∧ ∀ m ≤ n, ¬ ReachesIn files connections m key

theorem Nearer.exists_le {next key : FunctionKey} {n : Nat} (nearer : Nearer files connections next key)
    (reaches : ReachesIn files connections (n + 1) key) : ∃ m ≤ n, ReachesIn files connections m next := by
  obtain ⟨m, nextReaches, fewer⟩ := nearer
  by_cases within : m ≤ n
  · exact ⟨m, within, nextReaches⟩
  · exact absurd reaches (fewer (n + 1) (by omega))

namespace Repository

variable {repository : Repository} {edge : FlowEdge}

/-! ## Steps and edges -/

/-- An edge of the graph goes from one node to another. -/
def Flows (repository : Repository) (source target : String) : Prop :=
  ∃ edge ∈ repository.flowGraph.2, edge.joins source target

/-- **The key of two nodes is taken**: an edge between others is written the same way. -/
def KeyTaken (repository : Repository) (source target : String) : Prop :=
  ∃ edge ∈ repository.flowGraph.2, edge.key = source ++ "->" ++ target ∧ ¬ edge.joins source target

/-- For every edge that is made and is no loop, one with its key is kept. -/
theorem exists_flowEdge_key (member : edge ∈ repository.callEdges ++ repository.requestEdges)
    (apart : edge.source ≠ edge.target) : ∃ kept ∈ repository.flowGraph.2, kept.key = edge.key := by
  have isCandidate : edge ∈ (repository.callEdges ++ repository.requestEdges).filter (fun other =>
      other.source != other.target) := List.mem_filter.mpr ⟨member, bne_iff_ne.mpr apart⟩
  obtain ⟨kept, found⟩ := Option.isSome_iff_exists.mp
    (List.find?_isSome (p := fun other : FlowEdge => other.key == edge.key).mpr
      ⟨edge, isCandidate, beq_self_eq_true edge.key⟩)
  have sameKey : kept.key = edge.key := by simpa using List.find?_some found
  refine ⟨kept, mem_eraseDupsBy_key.mpr ?_, sameKey⟩
  rw [sameKey]
  exact found

/-- An edge that is made leads to its target, unless its key is taken. -/
theorem reaches_or_keyTaken (member : edge ∈ repository.callEdges ++ repository.requestEdges) :
    ReflTransGen repository.Flows edge.source edge.target ∨ repository.KeyTaken edge.source edge.target := by
  by_cases loop : edge.source = edge.target
  · rw [loop]
    exact .inl .refl
  · obtain ⟨kept, isKept, sameKey⟩ := exists_flowEdge_key member loop
    by_cases same : kept.joins edge.source edge.target
    · exact .inl (.single ⟨kept, isKept, same⟩)
    · exact .inr ⟨kept, isKept, sameKey, same⟩

/-- **A call of a name that the graph takes elsewhere than to the target**: to the node in the file of the
caller, or else to where a call across files of that name arrives. -/
inductive Diverts (repository : Repository) (function : RelatedFunction) (name target : String) : Prop where
  | ownFile : nodeId function.facts.file name ∈ repository.nodeIds → nodeId function.facts.file name ≠ target →
      Diverts repository function name target
  | across {other : String} : nodeId function.facts.file name ∉ repository.nodeIds →
      repository.crossTarget? function.id name = some other → other ≠ target → Diverts repository function name target

/-- A call leads to every node of its name, unless the graph takes it elsewhere. -/
theorem mem_callTargets_or_diverts {function called : RelatedFunction} {callee : String}
    (isCalled : called ∈ repository.related) (named : called.facts.name = Callee.simpleName callee) :
    called.id ∈ repository.callTargets repository.related function callee ∨
      repository.Diverts function called.facts.name called.id := by
  have isNode : called.id ∈ repository.nodeIds := List.mem_map_of_mem isCalled
  rw [named]
  by_cases own : nodeId function.facts.file (Callee.simpleName callee) ∈ repository.nodeIds
  · by_cases same : nodeId function.facts.file (Callee.simpleName callee) = called.id
    · left
      refine List.mem_filter.mpr ⟨?_, any_related.mpr isNode⟩
      rw [if_pos (any_related.mpr own), same]
      exact List.mem_singleton_self _
    · exact .inr (.ownFile own same)
  · cases arrives : repository.crossTarget? function.id (Callee.simpleName callee) with
    | some other =>
      by_cases same : other = called.id
      · rw [same] at arrives
        exact .inl (mem_callTargets own arrives isNode)
      · exact .inr (.across own arrives same)
    | none =>
      left
      refine List.mem_filter.mpr ⟨?_, any_related.mpr isNode⟩
      rw [if_neg (mt any_related.mp own), arrives]
      exact List.mem_map_of_mem (List.mem_filter.mpr ⟨isCalled, beq_iff_eq.mpr named⟩)

/-- **A call between flagged functions leads along edges**, unless it is taken elsewhere or its key is taken. -/
theorem reaches_of_call {caller callee : FileFacts} {function called : FunctionFacts} {text : String}
    (isFile : caller ∈ repository.files) (isFunction : function ∈ caller.functions) (flag : function.hasLlmCall = true)
    (isCall : text ∈ function.calls) (isOther : callee ∈ repository.files) (isCalled : called ∈ callee.functions)
    (calledFlag : called.hasLlmCall = true) (named : called.name = Callee.simpleName text) :
    ReflTransGen repository.Flows (nodeId caller.file function.name) (nodeId callee.file called.name) ∨
      repository.Diverts ⟨nodeId caller.file function.name, function⟩ called.name (nodeId callee.file called.name) ∨
      repository.KeyTaken (nodeId caller.file function.name) (nodeId callee.file called.name) := by
  rcases mem_callTargets_or_diverts (mem_related isOther isCalled calledFlag) named with isTarget | diverts
  · have isEdge := mem_callEdges.mpr ⟨_, mem_related isFile isFunction flag, text, isCall, _, isTarget, rfl⟩
    exact (reaches_or_keyTaken (List.mem_append_left _ isEdge)).imp_right .inr
  · exact .inr (.inl diverts)

/-- **A request between nodes leads along edges**, unless its key is taken. -/
theorem reaches_of_request {connection : Connection} (isConnection : connection ∈ repository.connections)
    (inFunction : connection.client.function ≠ moduleScope) (isClient : connection.client.nodeId ∈ repository.nodeIds)
    (isHandler : connection.handler.nodeId ∈ repository.nodeIds) :
    ReflTransGen repository.Flows connection.client.nodeId connection.handler.nodeId ∨
      repository.KeyTaken connection.client.nodeId connection.handler.nodeId := by
  have isEdge := mem_requestEdges.mpr ⟨connection, isConnection, inFunction, isClient, isHandler, rfl⟩
  exact reaches_or_keyTaken (List.mem_append_right _ isEdge)

/-! ## Stranded functions -/

/-- **A stranded function**: it is flagged and has steps that lead nearer to a model, and loses them all.
Functions that share its key count as one. -/
structure IsStranded (repository : Repository) (file : SourcePath) (name : String) : Prop where
  flags : repository.Flags (.of file name)
  leads : ∃ next, Leads repository.files repository.connections (.of file name) next ∧
    Nearer repository.files repository.connections next (.of file name)
  calls : ∀ caller ∈ repository.files, ∀ function ∈ caller.functions,
    FunctionKey.of caller.file function.name = .of file name → ∀ text ∈ function.calls,
    ∀ callee ∈ repository.files, ∀ called ∈ callee.functions, called.name = Callee.simpleName text →
    Nearer repository.files repository.connections (.of callee.file called.name) (.of file name) →
      repository.Diverts ⟨nodeId file name, function⟩ called.name (nodeId callee.file called.name) ∨
      repository.KeyTaken (nodeId file name) (nodeId callee.file called.name)
  requests : ∀ connection ∈ repository.connections, connection.client.function ≠ moduleScope →
    connection.client.key = .of file name →
    Nearer repository.files repository.connections connection.handler.key (.of file name) →
      ¬ repository.Has connection.handler.key ∨ repository.KeyTaken (nodeId file name) connection.handler.nodeId

/-- **A grounded node**: edges lead from it to a node that calls a model. -/
def Grounded (repository : Repository) (id : String) : Prop :=
  ∃ goal ∈ repository.flowGraph.1, goal.kind = .llm none ∧ ReflTransGen repository.Flows id goal.id

/-- A function that calls a model has a node that says so. -/
theorem exists_llm_node {file : SourcePath} {name : String} (callsModel : CallsModel (link files).files (.of file name)) :
    ∃ goal ∈ (link files).flowGraph.1, goal.kind = .llm none ∧ goal.id = nodeId file name := by
  obtain ⟨facts, isFile, function, isFunction, calls, isKey⟩ := callsModel
  have flag : function.hasLlmCall = true := by
    rw [hasLlmCall_link isFile isFunction]
    exact ⟨_, ⟨facts, isFile, function, isFunction, calls, rfl⟩, .refl⟩
  have callsLlm : function.callsLlm = true := by simpa [FunctionFacts.callsLlm] using calls
  refine ⟨_, List.mem_map_of_mem (mem_related isFile isFunction flag), ?_, nodeId_congr isKey.symm⟩
  rw [flowNode, callsLlm]
  rfl

/-- A function whose node is reached from a node. -/
def Meets (repository : Repository) (start : String) (file : SourcePath) (name : String) : Prop :=
  repository.Has (.of file name) ∧ ReflTransGen repository.Flows start (nodeId file name)

/-- Of the functions that a node meets, one that is nearest to a model and does not call it is stranded: a step
nearer arrives at no function that is met, so it was lost. -/
theorem isStranded_of_nearest {start : String} {n : Nat} {file : SourcePath} {name : String}
    (meets : (link files).Meets start file name)
    (reaches : ReachesIn (link files).files (link files).connections (n + 1) (.of file name))
    (nearest : ∀ m ≤ n, ∀ other another, (link files).Meets start other another →
      ¬ ReachesIn (link files).files (link files).connections m (.of other another)) :
    (link files).IsStranded file name := by
  obtain ⟨has, reached⟩ := meets
  have flags := flags_of_reachesModel has (reachesModel_iff.mpr ⟨_, reaches⟩)
  constructor
  case flags => exact flags
  case leads =>
    cases reaches with
    | step first rest => exact ⟨_, first, n, rest, fun m within => nearest m within file name ⟨has, reached⟩⟩
  case calls =>
    intro caller isFile function isFunction isKey text isCall callee isOther called isCalled named nearer
    obtain ⟨m, within, calledReaches⟩ := nearer.exists_le reaches
    have flag := hasLlmCall_of_flags flags isFile isFunction isKey
    have calledFlag : called.hasLlmCall = true :=
      (hasLlmCall_link isOther isCalled).mpr (reachesModel_iff.mpr ⟨m, calledReaches⟩)
    have outcome := reaches_of_call isFile isFunction flag isCall isOther isCalled calledFlag named
    rw [nodeId_congr isKey] at outcome
    rcases outcome with arrived | lost
    · have calledHas : (link files).Has (.of callee.file called.name) := ⟨callee, isOther, called, isCalled, rfl⟩
      exact absurd calledReaches (nearest m within _ _ ⟨calledHas, reached.trans arrived⟩)
    · exact lost
  case requests =>
    intro connection isConnection inFunction isKey nearer
    obtain ⟨m, within, handlerReaches⟩ := nearer.exists_le reaches
    by_cases handlerHas : (link files).Has connection.handler.key
    · have isHandler : connection.handler.nodeId ∈ (link files).nodeIds :=
        mem_nodeIds_of_flags (flags_of_reachesModel handlerHas (reachesModel_iff.mpr ⟨m, handlerReaches⟩))
      have sameId : connection.client.nodeId = nodeId file name := nodeId_congr isKey
      have isClient : connection.client.nodeId ∈ (link files).nodeIds := sameId ▸ mem_nodeIds_of_flags flags
      have outcome := reaches_of_request isConnection inFunction isClient isHandler
      rw [sameId] at outcome
      rcases outcome with arrived | taken
      · exact absurd handlerReaches (nearest m within _ _ ⟨handlerHas, reached.trans arrived⟩)
      · exact .inr taken
    · exact .inl handlerHas

/-- **From every node, edges lead to a node that calls a model or to a stranded one.** -/
theorem grounded_or_stranded (files : List FileFacts) : ∀ node ∈ (link files).flowGraph.1,
    (link files).Grounded node.id ∨ ∃ file name, (link files).IsStranded file name ∧
      ReflTransGen (link files).Flows node.id (nodeId file name) := by
  classical
  intro node member
  obtain ⟨function, isRelated, rfl⟩ := List.mem_map.mp member
  obtain ⟨facts, isFile, isRelated⟩ := List.mem_flatMap.mp isRelated
  obtain ⟨function, isFunction, rfl⟩ := List.mem_map.mp isRelated
  obtain ⟨isFunction, flag⟩ := List.mem_filter.mp isFunction
  obtain ⟨distance, reaches⟩ := reachesModel_iff.mp ((hasLlmCall_link isFile isFunction).mp flag)
  have attained : ∃ n file name, (link files).Meets (nodeId facts.file function.name) file name ∧
      ReachesIn (link files).files (link files).connections n (.of file name) :=
    ⟨distance, facts.file, function.name, ⟨⟨facts, isFile, function, isFunction, rfl⟩, .refl⟩, reaches⟩
  obtain ⟨file, name, meets, reaches⟩ := Nat.find_spec attained
  have least : ∀ m < Nat.find attained, _ := fun m within => Nat.find_min attained within
  generalize Nat.find attained = n at reaches least
  cases n with
  | zero =>
    cases reaches with
    | here callsModel =>
      obtain ⟨goal, isNode, isLlm, sameId⟩ := exists_llm_node callsModel
      exact .inl ⟨goal, isNode, isLlm, sameId ▸ meets.2⟩
  | succ n =>
    refine .inr ⟨file, name, isStranded_of_nearest meets reaches ?_, meets.2⟩
    intro m within other another otherMeets otherReaches
    exact least m (Nat.lt_succ_of_le within) ⟨other, another, otherMeets, otherReaches⟩

/-- Two functions that call each other, one of which also calls a third that calls a model. -/
def callCycle : List FileFacts :=
  [sampleFile "llm.ts" [("ask", [], ["client.create"])],
    sampleFile "main.ts" [("run", ["next"], []), ("next", ["run", "llm.ask"], [])]
      [{ source := "./llm", asName := some "llm", line := 1 }]]

theorem grounded_or_stranded_cycle : ∃ node ∈ (link callCycle).flowGraph.1, node.id = "main.ts::run" ∧
    node.kind ≠ .llm none ∧ ((link callCycle).Grounded node.id ∨ ∃ file name, (link callCycle).IsStranded file name ∧
      ReflTransGen (link callCycle).Flows node.id (nodeId file name)) := by
  have found : ∃ node ∈ (link callCycle).flowGraph.1, node.id = "main.ts::run" ∧ node.kind ≠ .llm none := by
    rw [link_of_sorted (by decide +kernel)]
    decide +kernel
  obtain ⟨node, member, isRun, notLlm⟩ := found
  exact ⟨node, member, isRun, notLlm, grounded_or_stranded callCycle node member⟩

/-! ## Nodes without a path -/

/-- A repository of different files with a node that calls no model and has no path to one that does. -/
def LosesGround (repository : Repository) : Prop :=
  (repository.files.map (·.file.normalize)).Nodup ∧
    ∃ node ∈ repository.flowGraph.1, node.kind ≠ .llm none ∧ ¬ repository.Grounded node.id

/-- A node that no edge leaves. -/
def IsDeadEnd (repository : Repository) (node : FlowNode) : Prop :=
  node.kind ≠ .llm none ∧ (∀ goal ∈ repository.flowGraph.1, goal.kind = .llm none → goal.id ≠ node.id) ∧
    ∀ edge ∈ repository.flowGraph.2, edge.source ≠ node.id

instance (repository : Repository) (node : FlowNode) : Decidable (repository.IsDeadEnd node) :=
  inferInstanceAs (Decidable (_ ∧ (∀ goal ∈ repository.flowGraph.1, _) ∧ ∀ edge ∈ repository.flowGraph.2, _))

theorem losesGround_of_deadEnd (distinct : (repository.files.map (·.file.normalize)).Nodup)
    (deadEnd : ∃ node ∈ repository.flowGraph.1, repository.IsDeadEnd node) : repository.LosesGround := by
  obtain ⟨node, isNode, notLlm, alone, leaves⟩ := deadEnd
  refine ⟨distinct, node, isNode, notLlm, ?_⟩
  intro grounded
  obtain ⟨goal, isGoal, isLlm, path⟩ := grounded
  rcases path.cases_head with same | ⟨next, ⟨edge, isEdge, joins⟩, _⟩
  · exact alone goal isGoal isLlm same.symm
  · exact leaves edge isEdge (FlowEdge.joins_iff.mp joins).1

/-- A call that is followed to a function without a model call, of the name of one with it. -/
def followedAway : List FileFacts :=
  [sampleFile "a.ts" [("ask", [], [])], sampleFile "b.ts" [("ask", [], ["client.create"])],
    sampleFile "main.ts" [("run", ["a.ask"], [])] [{ source := "./a", asName := some "a", line := 1 }]]

/-- A request to a handler that no file has, under whose name another request is sent. -/
def missingHandler : List FileFacts :=
  [{ sampleFile "llm.ts" [("ask", [], ["client.create"])] with
      routes := [⟨⟨"llm.ts"⟩, 1, "ask", "POST", "/ask", "/ask", .routerCall⟩] },
    { sampleFile "server.ts" [] with
      routes := [⟨⟨"server.ts"⟩, 1, "chat", "POST", "/chat", "/chat", .routerCall⟩]
      requests := [⟨⟨"server.ts"⟩, 2, "chat", "POST", "/ask", "/ask"⟩] },
    { sampleFile "web.ts" [("send", [], [])] with
      requests := [⟨⟨"web.ts"⟩, 1, "send", "POST", "/chat", "/chat"⟩] }]

/-- A node loses its path to a model to a node in its own file, to a call followed across files, to a handler
that is no function, and to a pair with the same key. -/
theorem nodes_ungrounded : (link wrapper).LosesGround ∧ (link followedAway).LosesGround ∧
    (link missingHandler).LosesGround ∧ (link oneKey).LosesGround := by
  refine ⟨?_, ?_, ?_, ?_⟩ <;> (rw [link_of_sorted (by decide +kernel)]; apply losesGround_of_deadEnd <;> decide +kernel)

end Repository

end WorkflowAtlas
