import WorkflowAtlas.Proofs.FlagPropagation
import WorkflowAtlas.Repository.Basic

/-!
# Calls across files carry the flag

Two resolutions of one call stand side by side. Flags follow a call by its simple name to every function of
that name; calls across files go through the imports of a file, by module, by name, or by whole modules.

**The law** (`carries_flag`): where a call across files arrives at a flagged function, the calling function
is flagged. By module and by whole modules the name that is looked for is the simple name of the call, so
the flag follows it; the name that an import binds is another one where the import gives a function a local
name. So the law has one exception, a call that is only made under such a name, and there it fails
(`renamed_call_unflagged`).
-/

namespace WorkflowAtlas

variable {files : List FileFacts} {index : ModuleIndex} {call : CrossFileCall}

/-! ## Where the names of a scope come from -/

/-- An import of the file brings `name` in as `localName`. -/
def FileFacts.Imports (facts : FileFacts) (localName name : String) : Prop :=
  ∃ imported ∈ facts.imports, ∃ item ∈ imported.names, item.localName = localName ∧ item.name = name

instance (facts : FileFacts) (localName name : String) : Decidable (facts.Imports localName name) :=
  inferInstanceAs (Decidable (∃ imported ∈ facts.imports, ∃ item ∈ imported.names, _))

namespace ImportScope

theorem names_bindModule (scope : ImportScope) (name : String) (target : Target) :
    (scope.bindModule name target).names = scope.names := by
  unfold bindModule
  split <;> rfl

/-- One imported name adds at most its own binding. -/
theorem mem_names_bindName {file : SourcePath} {target : Target} {scope : ImportScope} {item : ImportedName}
    {entry : String × (Target × String)} (member : entry ∈ (bindName index file target scope item).names) :
    entry ∈ scope.names ∨ entry = (item.localName, (target, item.name)) := by
  unfold bindName at member
  split at member
  · left
    split at member <;> exact member
  · simp only at member
    split at member
    · left
      split at member
      · exact member
      · rwa [names_bindModule] at member
    · have added : entry ∈ (item.localName, (target, item.name)) :: scope.names := by
        split at member
        · exact member
        · rwa [names_bindModule] at member
      exact (List.mem_cons.mp added).symm

/-- Every name of a scope has a property, with the name that it stands for. -/
def AllNames (p : String → String → Prop) (scope : ImportScope) : Prop :=
  ∀ entry ∈ scope.names, p entry.1 entry.2.2

/-- One import keeps a property that holds of what it brings in. -/
theorem AllNames.bind {p : String → String → Prop} {file : SourcePath} {scope : ImportScope} {imported : Import}
    (before : scope.AllNames p) (brought : ∀ item ∈ imported.names, p item.localName item.name) :
    (bind index file scope imported).AllNames p := by
  unfold ImportScope.bind
  refine List.foldlRecOn (motive := AllNames p) _ _ ?_ ?_
  · split
    · rw [AllNames, names_bindModule]
      exact before
    · exact before
  · intro scope before item isItem entry member
    rcases mem_names_bindName member with known | rfl
    · exact before entry known
    · exact brought item isItem

/-- **The names of a file's scope are imported.** -/
theorem allNames_ofFile (index : ModuleIndex) (facts : FileFacts) : (ofFile index facts).AllNames facts.Imports := by
  refine List.foldlRecOn (motive := AllNames facts.Imports) _ _ (by simp [AllNames]) ?_
  intro scope before imported isImport
  exact before.bind fun item isItem => ⟨imported, isImport, item, isItem, rfl, rfl⟩

/-- **A callee leads to its simple name**, or to the name that is bound to it. -/
theorem name_of_mem_lookup {scope : ImportScope} {callee : String} {found : Target × String}
    (member : found ∈ scope.lookup callee) : found.2 = Callee.simpleName callee ∨ (callee, found) ∈ scope.names := by
  unfold lookup at member
  simp only at member
  split at member
  · obtain ⟨target, _, rfl⟩ := Option.map_eq_some_iff.mp (Option.mem_toList.mp member)
    exact .inl rfl
  · split at member
    · next bound isBound =>
      rw [List.mem_singleton.mp member]
      obtain ⟨before, after, split, _⟩ := List.lookup_eq_some_iff.mp isBound
      exact .inr (by simp [split])
    · obtain ⟨target, _, rfl⟩ := List.mem_map.mp member
      exact .inl rfl

end ImportScope

/-! ## Where a call across files comes from -/

def CallerPlace.key (place : CallerPlace) : FunctionKey :=
  .of place.file place.function

def CalleePlace.key (place : CalleePlace) : FunctionKey :=
  .of place.file place.function

/-- **Every call across files is a call of a function**, by the callee's own name or by the name under
which it is imported. -/
theorem exists_site (reported : call ∈ crossFileCalls index files) :
    ∃ facts ∈ files, ∃ function ∈ facts.functions, FunctionKey.of facts.file function.name = call.caller.key ∧
      ∃ callee ∈ function.calls, Callee.simpleName callee = call.callee.function ∨
        facts.Imports callee call.callee.function := by
  simp only [crossFileCalls, List.mem_flatMap, List.mem_filterMap] at reported
  obtain ⟨facts, isFile, function, isFunction, callee, isCall, made⟩ := reported
  obtain ⟨place, arrives, rfl⟩ := Option.map_eq_some_iff.mp made
  obtain ⟨found, isFound, arrival⟩ := List.exists_of_findSome?_eq_some arrives
  obtain ⟨path, _, rfl⟩ := Option.map_eq_some_iff.mp arrival
  refine ⟨facts, isFile, function, isFunction, rfl, callee, isCall, ?_⟩
  rcases ImportScope.name_of_mem_lookup isFound with simple | bound
  · exact .inl simple.symm
  · exact .inr (ImportScope.allNames_ofFile index facts _ bound)

/-- **A call by name**: some function with the caller's key has a call of the callee's simple name. -/
def CrossFileCall.IsByName (files : List FileFacts) (call : CrossFileCall) : Prop :=
  ∃ facts ∈ files, ∃ function ∈ facts.functions, FunctionKey.of facts.file function.name = call.caller.key ∧
    ∃ callee ∈ function.calls, Callee.simpleName callee = call.callee.function

/-- **A call that is only made under another name**: the caller calls what an import brings in as the
callee, and nothing by the callee's name. -/
def CrossFileCall.IsRenamed (files : List FileFacts) (call : CrossFileCall) : Prop :=
  ¬ call.IsByName files ∧
    ∃ facts ∈ files, ∃ function ∈ facts.functions, FunctionKey.of facts.file function.name = call.caller.key ∧
      ∃ callee ∈ function.calls, facts.Imports callee call.callee.function

instance (files : List FileFacts) (call : CrossFileCall) : Decidable (call.IsByName files) :=
  inferInstanceAs (Decidable (∃ facts ∈ files, ∃ function ∈ facts.functions, _ ∧ ∃ callee ∈ function.calls, _))

instance (files : List FileFacts) (call : CrossFileCall) : Decidable (call.IsRenamed files) :=
  inferInstanceAs (Decidable (¬ call.IsByName files ∧
    ∃ facts ∈ files, ∃ function ∈ facts.functions, _ ∧ ∃ callee ∈ function.calls, _))

theorem isByName_of_not_isRenamed (reported : call ∈ crossFileCalls index files) (unrenamed : ¬ call.IsRenamed files) :
    call.IsByName files := by
  by_contra unnamed
  obtain ⟨facts, isFile, function, isFunction, isCaller, callee, isCall, named | imported⟩ := exists_site reported
  · exact unnamed ⟨facts, isFile, function, isFunction, isCaller, callee, isCall, named⟩
  · exact unrenamed ⟨unnamed, facts, isFile, function, isFunction, isCaller, callee, isCall, imported⟩

/-! ## Flags in a linked repository -/

namespace Repository

/-- A repository has a function of a key with its flag set. -/
def Flags (repository : Repository) (key : FunctionKey) : Prop :=
  ∃ facts ∈ repository.files, ∃ function ∈ facts.functions, FunctionKey.of facts.file function.name = key ∧
    function.hasLlmCall = true

instance (repository : Repository) (key : FunctionKey) : Decidable (repository.Flags key) :=
  inferInstanceAs (Decidable (∃ facts ∈ repository.files, ∃ function ∈ facts.functions, _ ∧ _))

/-- Linking sets each flag to whether the key reaches a model in the linked repository. -/
theorem hasLlmCall_link {facts : FileFacts} {function : FunctionFacts} (isFile : facts ∈ (link files).files)
    (isFunction : function ∈ facts.functions) : function.hasLlmCall = true ↔
      ReachesModel (link files).files (link files).connections (.of facts.file function.name) := by
  obtain ⟨before, _, rfl⟩ := List.mem_map.mp isFile
  obtain ⟨old, _, rfl⟩ := List.mem_map.mp isFunction
  have again : flaggedKeys (link files).files (link files).connections =
      flaggedKeys files (link files).connections := flaggedKeys_withFlags _ _ _
  rw [← mem_flaggedKeys, again]
  exact decide_eq_true_iff

/-- Functions of one key are flagged together. -/
theorem hasLlmCall_of_flags {key : FunctionKey} (flags : (link files).Flags key) {facts : FileFacts}
    {function : FunctionFacts} (isFile : facts ∈ (link files).files) (isFunction : function ∈ facts.functions)
    (isKey : FunctionKey.of facts.file function.name = key) : function.hasLlmCall = true := by
  obtain ⟨other, isOther, target, isTarget, sameKey, flag⟩ := flags
  rw [hasLlmCall_link isFile isFunction, isKey, ← sameKey]
  exact (hasLlmCall_link isOther isTarget).mp flag

/-- The flag follows a call by name. -/
theorem flags_caller (byName : call.IsByName (link files).files) (flags : (link files).Flags call.callee.key) :
    (link files).Flags call.caller.key := by
  obtain ⟨facts, isFile, function, isFunction, isCaller, callee, isCall, named⟩ := byName
  obtain ⟨other, isOther, target, isTarget, isCallee, flag⟩ := flags
  obtain ⟨goal, callsModel, path⟩ := (hasLlmCall_link isOther isTarget).mp flag
  have isName : target.name = Callee.simpleName callee := by
    rw [named]
    exact congrArg FunctionKey.name isCallee
  have leads : Leads (link files).files (link files).connections (.of facts.file function.name)
      (.of other.file target.name) := .call isFile isFunction isCall isOther isTarget isName
  exact ⟨facts, isFile, function, isFunction, isCaller,
    (hasLlmCall_link isFile isFunction).mpr ⟨goal, callsModel, path.head leads⟩⟩

/-- **A call across files carries the flag**, unless it is only made under another name: where it arrives
at a flagged function, the caller has flagged functions and no others. -/
theorem carries_flag (files : List FileFacts) (call : CrossFileCall) (reported : call ∈ (link files).crossFileCalls)
    (flagged : (link files).Flags call.callee.key) (unrenamed : ¬ call.IsRenamed (link files).files) :
    (link files).Flags call.caller.key ∧
      ∀ facts ∈ (link files).files, ∀ function ∈ facts.functions,
        FunctionKey.of facts.file function.name = call.caller.key → function.hasLlmCall = true := by
  have flags := flags_caller (isByName_of_not_isRenamed reported unrenamed) flagged
  exact ⟨flags, fun _ isFile _ isFunction isKey => hasLlmCall_of_flags flags isFile isFunction isKey⟩

/-! ## Samples -/

/-- Files in the order of their paths are indexed as they come. -/
theorem link_of_sorted (sorted : (files.map (·.file.normalize)).eraseDups.Pairwise fun a b => a.le b) :
    link files = linkWith ⟨(files.map (·.file.normalize)).eraseDups⟩ files := by
  rw [link, ModuleIndex.ofPaths, List.map_map]
  exact congrArg (fun paths => linkWith ⟨paths⟩ files) (List.mergeSort_of_pairwise sorted)

/-- A file of functions, each with its callees and its calls of a language model. -/
def sampleFile (path : String) (functions : List (String × List String × List String)) (imports : List Import := []) :
    FileFacts :=
  { file := ⟨path⟩, imports, functions := functions.map fun (name, calls, llmCalls) =>
      { name, file := ⟨path⟩, startLine := 1, endLine := 2, calls, llmCalls } }

/-- A module that is found through its package. -/
def packageFiles : List FileFacts :=
  [sampleFile "app/llm.py" [("ask", [], ["client.create"])],
    sampleFile "app/main.py" [("run", ["llm.ask"], [])] [{ source := "app", names := [{ name := "llm" }], line := 1 }]]

def packageCall : CrossFileCall :=
  { caller := ⟨⟨"app/main.py"⟩, "run", 1⟩, callee := ⟨⟨"app/llm.py"⟩, "ask", some "app.llm"⟩ }

theorem carries_flag_package : packageCall ∈ (link packageFiles).crossFileCalls ∧
    (link packageFiles).Flags packageCall.callee.key ∧ ¬ packageCall.IsRenamed (link packageFiles).files ∧
    (link packageFiles).Flags packageCall.caller.key ∧
      ∀ facts ∈ (link packageFiles).files, ∀ function ∈ facts.functions,
        FunctionKey.of facts.file function.name = packageCall.caller.key → function.hasLlmCall = true := by
  have reported : packageCall ∈ (link packageFiles).crossFileCalls := by
    rw [link_of_sorted (by decide +kernel)]
    decide +kernel
  have flagged : (link packageFiles).Flags packageCall.callee.key := by decide +kernel
  have unrenamed : ¬ packageCall.IsRenamed (link packageFiles).files := by decide +kernel
  exact ⟨reported, flagged, unrenamed, carries_flag packageFiles packageCall reported flagged unrenamed⟩

/-- A function that is imported under another name and called by it. -/
def renamedFiles : List FileFacts :=
  [sampleFile "app.ts" [("run", ["gen"], [])]
      [{ source := "./llm", names := [{ name := "generate", asName := some "gen" }], line := 1 }],
    sampleFile "llm.ts" [("generate", [], ["client.create"])]]

/-- A call under another name may arrive at a flagged function and leave from one that is not. -/
theorem renamed_call_unflagged : (renamedFiles.map (·.file.normalize)).Nodup ∧
    ∃ call ∈ (link renamedFiles).crossFileCalls, (link renamedFiles).Flags call.callee.key ∧
      ∃ facts ∈ (link renamedFiles).files, ∃ function ∈ facts.functions,
        FunctionKey.of facts.file function.name = call.caller.key ∧ function.hasLlmCall = false := by
  rw [link_of_sorted (by decide +kernel)]
  decide +kernel

end Repository

end WorkflowAtlas
