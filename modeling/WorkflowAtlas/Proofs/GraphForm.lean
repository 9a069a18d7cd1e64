import Mathlib.Data.List.Forall2
import WorkflowAtlas.Proofs.FlowEdges

/-!
# The form of a workflow graph

The graph of a repository is made from whatever facts it has: functions may call what is not there, calls
across files may end in files that nobody has, requests may be connected with handlers that are no functions.
None of this shows in the graph.

**The law** (`flowGraph_wellFormed`): there is one node for each flagged function, in order; an edge goes from
one node to another and no pair of nodes has two; behind an edge without a label is a call of the name that
its target ends with, and behind one with a label a connection. A node's kind and marks are what its function
and the edges say (`IsNodeOf`).

Edges come from four places, and each gives an id that ends with the name it was looked up by
(`named_of_mem_callTargets`). All of them go through one filter, so what holds of every edge is said of the
filter once.
-/

namespace WorkflowAtlas.Repository

variable {repository : Repository} {edges : List FlowEdge} {edge : FlowEdge}

/-! ## Functions that have a node -/

/-- **The flagged functions**, each with its file, file by file. -/
def flagged (repository : Repository) : List (FileFacts × FunctionFacts) :=
  repository.files.flatMap fun file => (file.functions.filter (·.hasLlmCall)).map (file, ·)

theorem related_eq (repository : Repository) :
    repository.related = repository.flagged.map fun site => ⟨nodeId site.1.file site.2.name, site.2⟩ := by
  simp [related, flagged, List.map_flatMap, Function.comp_def]

/-! ## Behind an edge -/

/-- A node's id ends with a name. -/
def EndsWithName (id name : String) : Prop :=
  ∃ file, id = file ++ "::" ++ name

theorem endsWithName_nodeId (file : SourcePath) (name : String) : EndsWithName (nodeId file name) name :=
  ⟨file.slashed, rfl⟩

/-- **Wherever a callee leads, the id ends with its simple name.** -/
theorem named_of_mem_callTargets {function : RelatedFunction} {callee target : String}
    (isTarget : target ∈ repository.callTargets repository.related function callee) :
    EndsWithName target (Callee.simpleName callee) := by
  have candidate := (List.mem_filter.mp isTarget).1
  split at candidate
  · rw [List.mem_singleton.mp candidate]
    exact endsWithName_nodeId _ _
  · split at candidate
    · next arrival arrives =>
      rw [List.mem_singleton.mp candidate]
      obtain ⟨call, found, rfl⟩ := Option.map_eq_some_iff.mp arrives
      obtain ⟨_, named⟩ : nodeId call.caller.file call.caller.function = function.id ∧
          call.callee.function = Callee.simpleName callee := by
        simpa using List.find?_some found
      rw [← named]
      exact endsWithName_nodeId _ _
    · obtain ⟨called, isCalled, rfl⟩ := List.mem_map.mp candidate
      obtain ⟨isRelated, isNamed⟩ := List.mem_filter.mp isCalled
      rw [related_eq] at isRelated
      obtain ⟨⟨file, own⟩, _, rfl⟩ := List.mem_map.mp isRelated
      rw [← beq_iff_eq.mp isNamed]
      exact endsWithName_nodeId _ _

/-- **Behind an edge without a label is a call**: a flagged function that has the source's id calls a name that
the target's id ends with. -/
def IsCalled (repository : Repository) (edge : FlowEdge) : Prop :=
  ∃ site ∈ repository.flagged, nodeId site.1.file site.2.name = edge.source ∧
    ∃ callee ∈ site.2.calls, EndsWithName edge.target (Callee.simpleName callee)

/-- **Behind an edge with a label is a connection** of a function's request. -/
def IsRequested (repository : Repository) (edge : FlowEdge) (label : String) : Prop :=
  ∃ connection ∈ repository.connections, connection.client.function ≠ moduleScope ∧
    connection.client.nodeId = edge.source ∧ connection.handler.nodeId = edge.target ∧
    label = connection.handler.method ++ " " ++ connection.handler.path

theorem isCalled_of_mem_callEdges (member : edge ∈ repository.callEdges) : repository.IsCalled edge := by
  obtain ⟨function, isRelated, callee, isCall, target, isTarget, rfl⟩ := mem_callEdges.mp member
  have named := named_of_mem_callTargets isTarget
  rw [related_eq] at isRelated
  obtain ⟨site, isSite, rfl⟩ := List.mem_map.mp isRelated
  exact ⟨site, isSite, rfl, callee, isCall, named⟩

theorem isCalled_of_unlabelled (member : edge ∈ repository.flowEdges) (unlabelled : edge.label = none) :
    repository.IsCalled edge := by
  cases List.mem_append.mp (mem_of_mem_flowEdges member).1 with
  | inl isCall => exact isCalled_of_mem_callEdges isCall
  | inr isRequest =>
    obtain ⟨_, _, _, _, _, rfl⟩ := mem_requestEdges.mp isRequest
    cases unlabelled

theorem isRequested_of_labelled {label : String} (member : edge ∈ repository.flowEdges)
    (labelled : edge.label = some label) : repository.IsRequested edge label := by
  cases List.mem_append.mp (mem_of_mem_flowEdges member).1 with
  | inl isCall =>
    rw [unlabelled_of_mem_callEdges isCall] at labelled
    cases labelled
  | inr isRequest =>
    obtain ⟨connection, isConnection, inFunction, _, _, rfl⟩ := mem_requestEdges.mp isRequest
    cases labelled
    exact ⟨connection, isConnection, inFunction, rfl, rfl, rfl⟩

/-- No pair of nodes has two edges, since no key has. -/
theorem nodup_ends_flowEdges (repository : Repository) :
    (repository.flowEdges.map fun edge => (edge.source, edge.target)).Nodup := by
  have keys : (repository.flowEdges.map FlowEdge.key).Nodup := by
    rw [flowEdges, map_eraseDupsBy]
    exact nodup_eraseDups _
  have ofEnds : repository.flowEdges.map FlowEdge.key =
      (repository.flowEdges.map fun edge => (edge.source, edge.target)).map fun ends => ends.1 ++ "->" ++ ends.2 := by
    rw [List.map_map]
    rfl
  rw [ofEnds] at keys
  exact keys.of_map

/-! ## Nodes -/

/-- **Where work starts**: at the handler of a route, and where no edge arrives. -/
def StartsAt (repository : Repository) (edges : List FlowEdge) (id : String) : Prop :=
  (∃ route ∈ repository.routes, route.nodeId = id) ∨ ∀ edge ∈ edges, edge.target ≠ id

/-- **The node of a flagged function**, in a graph with the given edges. -/
structure IsNodeOf (repository : Repository) (edges : List FlowEdge) (site : FileFacts × FunctionFacts)
    (node : FlowNode) : Prop where
  id : node.id = site.1.file.slashed ++ "::" ++ site.2.name
  llm : node.kind.isLlm ↔ site.2.llmCalls ≠ []
  trigger : site.2.llmCalls = [] → (node.kind = .trigger ↔ repository.StartsAt edges node.id)
  tool : site.2.llmCalls = [] → node.kind ≠ .trigger → node.kind = .tool
  entry : node.isEntryPoint ↔ node.kind = .trigger
  exit : node.isExitPoint ↔ ∀ edge ∈ edges, edge.source ≠ node.id

theorem startsAt_iff {id : String} : repository.StartsAt edges id ↔
    ((repository.routeOf? id).isSome || !edges.any (·.target == id)) = true := by
  rw [StartsAt, Bool.or_eq_true, routeOf?, Option.isSome_map, List.find?_isSome]
  simp [RouteHandler.nodeId]

/-- The three kinds of nodes, and when each comes. -/
theorem kind_flowNode (repository : Repository) (edges : List FlowEdge) (function : RelatedFunction) :
    (function.facts.llmCalls ≠ [] ∧ (repository.flowNode edges function).kind = .llm none) ∨
    (function.facts.llmCalls = [] ∧ repository.StartsAt edges function.id ∧
      (repository.flowNode edges function).kind = .trigger) ∨
    (function.facts.llmCalls = [] ∧ ¬ repository.StartsAt edges function.id ∧
      (repository.flowNode edges function).kind = .tool) := by
  rw [startsAt_iff]
  by_cases calls : function.facts.llmCalls = []
  · have callsLlm : function.facts.callsLlm = false := by simp [FunctionFacts.callsLlm, calls]
    by_cases starts : ((repository.routeOf? function.id).isSome || !edges.any (·.target == function.id)) = true
    · exact .inr (.inl ⟨calls, starts, by simp only [flowNode, callsLlm, starts]; rfl⟩)
    · exact .inr (.inr ⟨calls, starts, by simp only [flowNode, callsLlm, starts]; rfl⟩)
  · have callsLlm : function.facts.callsLlm = true := by simpa [FunctionFacts.callsLlm] using calls
    exact .inl ⟨calls, by simp only [flowNode, callsLlm]; rfl⟩

theorem isNodeOf_flowNode (repository : Repository) (edges : List FlowEdge) (site : FileFacts × FunctionFacts) :
    repository.IsNodeOf edges site (repository.flowNode edges ⟨nodeId site.1.file site.2.name, site.2⟩) := by
  have exits : ∀ id, (!edges.any (·.source == id)) = true ↔ ∀ edge ∈ edges, edge.source ≠ id := by simp
  rcases kind_flowNode repository edges ⟨nodeId site.1.file site.2.name, site.2⟩ with
    ⟨calls, kind⟩ | ⟨calls, starts, kind⟩ | ⟨calls, starts, kind⟩
  · refine ⟨rfl, ?_, fun none => absurd none calls, fun none => absurd none calls, beq_iff_eq, exits _⟩
    simpa [kind, NodeKind.isLlm] using calls
  · refine ⟨rfl, ?_, fun _ => iff_of_true kind starts, fun _ other => absurd kind other, beq_iff_eq, exits _⟩
    simpa [kind, NodeKind.isLlm] using calls
  · refine ⟨rfl, ?_, fun _ => iff_of_false ?_ starts, fun _ _ => kind, beq_iff_eq, exits _⟩
    · simpa [kind, NodeKind.isLlm] using calls
    · simp [kind]

/-! ## The graph -/

/-- **A well-formed graph of a repository.** -/
structure WellFormed (repository : Repository) (nodes : List FlowNode) (edges : List FlowEdge) : Prop where
  drawn : List.Forall₂ (repository.IsNodeOf edges) repository.flagged nodes
  ends : ∀ edge ∈ edges, edge.source ∈ nodes.map (·.id) ∧ edge.target ∈ nodes.map (·.id)
  noLoop : ∀ edge ∈ edges, edge.source ≠ edge.target
  oneEach : (edges.map fun edge => (edge.source, edge.target)).Nodup
  called : ∀ edge ∈ edges, edge.label = none → repository.IsCalled edge
  requested : ∀ edge ∈ edges, ∀ label, edge.label = some label → repository.IsRequested edge label

/-- **The graph of every repository is well formed.** -/
theorem flowGraph_wellFormed (repository : Repository) :
    repository.WellFormed repository.flowGraph.1 repository.flowGraph.2 where
  drawn := by
    show List.Forall₂ _ _ (repository.related.map (repository.flowNode repository.flowEdges))
    rw [related_eq, List.map_map, List.forall₂_map_right_iff, List.forall₂_same]
    intro site _
    exact isNodeOf_flowNode repository repository.flowEdges site
  ends := by
    intro edge member
    rw [ids_flowGraph]
    exact ends_mem_nodeIds (mem_of_mem_flowEdges member).1
  noLoop := fun edge member => (mem_of_mem_flowEdges member).2
  oneEach := nodup_ends_flowEdges repository
  called := fun edge member unlabelled => isCalled_of_unlabelled member unlabelled
  requested := fun edge member label labelled => isRequested_of_labelled member labelled

end WorkflowAtlas.Repository
