import Mathlib.Data.Set.Card
import Mathlib.Logic.Relation
import WorkflowAtlas.Proofs.Connectivity
import WorkflowAtlas.Repository.Flags

/-!
# The flag of a function is reachability

What it means to reach a language model is said here without the search: `Leads` is one step of a
repository, a call by name or a request to the function that serves it, and a key **reaches a model** when
steps lead from it to a function that calls one.

**The law** (`propagateFlags_exact`): the pass that sets the flags flags the functions whose keys reach a
model and no others, changes nothing else, counts those keys, and finds nothing to do a second time. The
flags before the pass are not looked at.

Steps go between keys, not functions. Functions that share a file and a name share a key, so they are
flagged together; and a client that only a connection names has a key that may reach a model, is counted,
and has no flag to be set.
-/

namespace WorkflowAtlas

variable {files : List FileFacts} {connections : List Connection}

/-! ## Reaching a language model -/

/-- **One step of a repository**: along a call, to every function of its simple name, and along a request,
to the function that serves it. Requests of code outside of functions make no step. -/
inductive Leads (files : List FileFacts) (connections : List Connection) : FunctionKey → FunctionKey → Prop where
  | call {caller callee : FileFacts} {function target : FunctionFacts} {text : String} :
      caller ∈ files → function ∈ caller.functions → text ∈ function.calls →
      callee ∈ files → target ∈ callee.functions → target.name = Callee.simpleName text →
      Leads files connections (.of caller.file function.name) (.of callee.file target.name)
  | request {connection : Connection} :
      connection ∈ connections → connection.client.function ≠ moduleScope →
      Leads files connections (.of connection.client.file connection.client.function)
        (.of connection.handler.file connection.handler.function)

/-- A key with a function that itself calls a language model. -/
def CallsModel (files : List FileFacts) (key : FunctionKey) : Prop :=
  ∃ file ∈ files, ∃ function ∈ file.functions, function.llmCalls ≠ [] ∧ key = .of file.file function.name

/-- **Reaching a language model**, in zero steps or more. -/
def ReachesModel (files : List FileFacts) (connections : List Connection) (key : FunctionKey) : Prop :=
  ∃ goal, CallsModel files goal ∧ Relation.ReflTransGen (Leads files connections) key goal

/-- The keys of a repository: of the functions of its files, and of the clients of its connections. -/
def IsKey (files : List FileFacts) (connections : List Connection) (key : FunctionKey) : Prop :=
  (∃ file ∈ files, ∃ function ∈ file.functions, key = .of file.file function.name) ∨
    ∃ connection ∈ connections, key = .of connection.client.file connection.client.function

theorem Leads.isKey {key next : FunctionKey} (leads : Leads files connections key next) :
    IsKey files connections key := by
  cases leads with
  | call isFile isFunction => exact .inl ⟨_, isFile, _, isFunction, rfl⟩
  | request isConnection => exact .inr ⟨_, isConnection, rfl⟩

/-- Only keys of the repository reach a model. -/
theorem ReachesModel.isKey {key : FunctionKey} (reaches : ReachesModel files connections key) :
    IsKey files connections key := by
  obtain ⟨goal, ⟨file, isFile, function, isFunction, _, isGoal⟩, path⟩ := reaches
  rcases path.cases_head with rfl | ⟨next, leads, _⟩
  · exact .inl ⟨file, isFile, function, isFunction, isGoal⟩
  · exact leads.isKey

/-- With more files and connections there are more steps. -/
theorem Leads.mono {more : List FileFacts} {others : List Connection} {key next : FunctionKey}
    (filesAmong : files ⊆ more) (connectionsAmong : connections ⊆ others) (leads : Leads files connections key next) :
    Leads more others key next := by
  cases leads with
  | call isFile isFunction isCall isOther isTarget named =>
    exact .call (filesAmong isFile) isFunction isCall (filesAmong isOther) isTarget named
  | request isConnection inFunction => exact .request (connectionsAmong isConnection) inFunction

/-- **With more files and connections, more keys reach a model.** -/
theorem ReachesModel.mono {more : List FileFacts} {others : List Connection} {key : FunctionKey}
    (filesAmong : files ⊆ more) (connectionsAmong : connections ⊆ others)
    (reaches : ReachesModel files connections key) : ReachesModel more others key := by
  obtain ⟨goal, ⟨file, isFile, callsModel⟩, path⟩ := reaches
  have steps : Leads files connections ≤ Leads more others := fun _ _ leads =>
    leads.mono filesAmong connectionsAmong
  exact ⟨goal, ⟨file, filesAmong isFile, callsModel⟩, Relation.ReflTransGen.mono steps _ _ path⟩

/-! ## The search finds the keys that reach a model -/

theorem mem_callingKeys {key : FunctionKey} : key ∈ callingKeys files ↔ CallsModel files key := by
  simp only [callingKeys, CallsModel, FunctionFacts.callsLlm, List.mem_flatMap, List.mem_map, List.mem_filter,
    Bool.not_eq_true', List.isEmpty_eq_false_iff, and_assoc, eq_comm (a := key)]

theorem mem_nameSteps {step : CallStep} : step ∈ nameSteps files ↔
    ∃ caller ∈ files, ∃ function ∈ caller.functions, ∃ text ∈ function.calls,
      ∃ callee ∈ files, ∃ target ∈ callee.functions, target.name = Callee.simpleName text ∧
        step = ⟨.of callee.file target.name, .of caller.file function.name⟩ := by
  simp only [nameSteps, SymbolTable.lookup, SymbolTable.ofFiles, List.mem_flatMap, List.mem_map, List.mem_filter,
    Prod.exists, Prod.mk.injEq, beq_iff_eq]
  grind

theorem mem_requestSteps {step : CallStep} : step ∈ requestSteps connections ↔
    ∃ connection ∈ connections, connection.client.function ≠ moduleScope ∧
      step = ⟨.of connection.handler.file connection.handler.function,
        .of connection.client.file connection.client.function⟩ := by
  simp only [requestSteps, List.mem_map, List.mem_filter, bne_iff_ne, and_assoc, eq_comm (a := step)]

/-- The search goes one step back: its neighbours of a key are the keys that lead to it. -/
theorem mem_callersOf {key caller : FunctionKey} :
    caller ∈ callersOf (callSteps files connections) key ↔ Leads files connections caller key := by
  have found : caller ∈ callersOf (callSteps files connections) key ↔
      (⟨key, caller⟩ : CallStep) ∈ nameSteps files ∨ (⟨key, caller⟩ : CallStep) ∈ requestSteps connections := by
    simp only [callersOf, callSteps, List.mem_map, List.mem_filter, List.mem_append, beq_iff_eq]
    constructor
    · rintro ⟨step, ⟨isStep, rfl⟩, rfl⟩
      exact isStep
    · exact fun isStep => ⟨_, ⟨isStep, rfl⟩, rfl⟩
  rw [found, mem_nameSteps, mem_requestSteps]
  constructor
  · rintro (⟨file, isFile, function, isFunction, text, isCall, other, isOther, target, isTarget, named, same⟩ |
      ⟨connection, isConnection, inFunction, same⟩)
    · cases same
      exact .call isFile isFunction isCall isOther isTarget named
    · cases same
      exact .request isConnection inFunction
  · intro leads
    cases leads with
    | call isFile isFunction isCall isOther isTarget named =>
      exact .inl ⟨_, isFile, _, isFunction, _, isCall, _, isOther, _, isTarget, named, rfl⟩
    | request isConnection inFunction => exact .inr ⟨_, isConnection, inFunction, rfl⟩

/-- A search along neighbours is a path of steps, read from its end. -/
theorem reaches_callersOf {goal key : FunctionKey} :
    Reaches (callersOf (callSteps files connections)) goal key ↔
      Relation.ReflTransGen (Leads files connections) key goal := by
  constructor
  · intro reached
    induction reached with
    | refl => exact .refl
    | step first _ ih => exact ih.tail (mem_callersOf.mp first)
  · intro path
    induction path using Relation.ReflTransGen.head_induction_on with
    | refl => exact .refl _
    | head first _ ih => exact ih.tail (mem_callersOf.mpr first)

/-- **The flagged keys are those that reach a model.** Every round but the last adds the caller of some
step, so the number of steps bounds the rounds. -/
theorem mem_flaggedKeys {key : FunctionKey} :
    key ∈ flaggedKeys files connections ↔ ReachesModel files connections key := by
  have within : ∀ a, ∀ b ∈ callersOf (callSteps files connections) a,
      b ∈ (callSteps files connections).map (·.caller) := by
    intro a b member
    obtain ⟨step, chosen, rfl⟩ := List.mem_map.mp member
    exact List.mem_map_of_mem (List.mem_filter.mp chosen).1
  rw [flaggedKeys, mem_reachedFrom within (by simp)]
  simp only [mem_callingKeys, reaches_callersOf, ReachesModel]

theorem nodup_flaggedKeys (files : List FileFacts) (connections : List Connection) :
    (flaggedKeys files connections).Nodup :=
  nodup_reachedFrom _ _

theorem length_flaggedKeys (files : List FileFacts) (connections : List Connection) :
    (flaggedKeys files connections).length =
      {key | IsKey files connections key ∧ ReachesModel files connections key}.ncard := by
  have same : {key | IsKey files connections key ∧ ReachesModel files connections key} =
      ((flaggedKeys files connections).toFinset : Set FunctionKey) := by
    ext key
    simp only [Set.mem_ofPred_eq, List.coe_toFinset, mem_flaggedKeys]
    exact ⟨fun both => both.2, fun reaches => ⟨reaches.isKey, reaches⟩⟩
  rw [same, Set.ncard_coe_finset, List.toFinset_card_of_nodup (nodup_flaggedKeys files connections)]

/-! ## The pass -/

/-- **The flags of a file are set by a property of keys**: each function keeps everything but its flag, and
the file everything but its functions. -/
structure FileFacts.FlaggedBy (reaches : FunctionKey → Prop) (before after : FileFacts) : Prop where
  frame : after = { before with functions := after.functions }
  functions : List.Forall₂ (fun old new => new = { old with hasLlmCall := new.hasLlmCall } ∧
    (new.hasLlmCall = true ↔ reaches (.of before.file old.name))) before.functions after.functions

theorem FileFacts.flaggedBy_withFlags (facts : FileFacts) (flagged : List FunctionKey) :
    facts.FlaggedBy (· ∈ flagged) (facts.withFlags flagged) where
  frame := rfl
  functions := by
    refine List.forall₂_map_right_iff.mpr (List.forall₂_same.mpr fun function _ => ⟨rfl, ?_⟩)
    exact decide_eq_true_iff

/-- Setting flags changes no call and no name, so it makes no step and no goal of the search. -/
theorem flaggedKeys_withFlags (flagged : List FunctionKey) (files : List FileFacts) (connections : List Connection) :
    flaggedKeys (files.map (·.withFlags flagged)) connections = flaggedKeys files connections := by
  have symbols : SymbolTable.ofFiles (files.map (·.withFlags flagged)) = SymbolTable.ofFiles files := by
    simp [SymbolTable.ofFiles, List.flatMap_map, FileFacts.withFlags, Function.comp_def]
  have steps : nameSteps (files.map (·.withFlags flagged)) = nameSteps files := by
    rw [nameSteps, symbols]
    simp [nameSteps, List.flatMap_map, FileFacts.withFlags]
  have goals : callingKeys (files.map (·.withFlags flagged)) = callingKeys files := by
    simp [callingKeys, List.flatMap_map, FileFacts.withFlags, List.filter_map, FunctionFacts.callsLlm,
      Function.comp_def]
  rw [flaggedKeys, callSteps, steps, goals]
  rfl

theorem FileFacts.withFlags_withFlags (facts : FileFacts) (first second : List FunctionKey) :
    (facts.withFlags first).withFlags second = facts.withFlags second := by
  simp only [FileFacts.withFlags, List.map_map]
  rfl

/-- Flags depend on which keys are flagged, and not on how they are listed. -/
theorem FileFacts.withFlags_congr {first second : List FunctionKey} (same : ∀ key, key ∈ first ↔ key ∈ second)
    (facts : FileFacts) : facts.withFlags first = facts.withFlags second := by
  simp only [FileFacts.withFlags, same]

theorem propagateFlags_propagateFlags (files : List FileFacts) (connections : List Connection) :
    propagateFlags (propagateFlags files connections) connections = propagateFlags files connections := by
  rw [propagateFlags, propagateFlags, flaggedKeys_withFlags, List.map_map]
  exact List.map_congr_left fun facts _ => facts.withFlags_withFlags _ _

/-- **The pass flags exactly the functions that reach a language model**, counts the keys that do, and
changes nothing when it is run again. -/
theorem propagateFlags_exact (files : List FileFacts) (connections : List Connection) :
    List.Forall₂ (FileFacts.FlaggedBy (ReachesModel files connections)) files (propagateFlags files connections) ∧
    (flaggedKeys files connections).length =
      {key | IsKey files connections key ∧ ReachesModel files connections key}.ncard ∧
    propagateFlags (propagateFlags files connections) connections = propagateFlags files connections := by
  refine ⟨?_, length_flaggedKeys files connections, propagateFlags_propagateFlags files connections⟩
  have same : (· ∈ flaggedKeys files connections) = ReachesModel files connections :=
    funext fun _ => propext mem_flaggedKeys
  rw [← same]
  exact List.forall₂_map_right_iff.mpr (List.forall₂_same.mpr fun facts _ => facts.flaggedBy_withFlags _)

end WorkflowAtlas
