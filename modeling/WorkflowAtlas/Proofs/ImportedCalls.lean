import Mathlib.Data.Bool.AllAny
import Mathlib.Data.List.Forall2
import Mathlib.Data.List.TakeWhile
import WorkflowAtlas.Proofs.ImportResolution
import WorkflowAtlas.Proofs.ResolvedCalls

/-!
# Calls through imports

A scope is built import by import. Of the names, every import adds its own in front (`names_ofFile`), so that
the latest stands first; every target, however it is bound, is where an import leads (`allImported_ofFile`).

**The law** (`crossFileCalls_exact`). Sound: the calls across files answer calls of functions, in order and each
at most once, and arrive at another file of the repository that provides the name and that an import of the
caller's file leads to, by its source or by that of a module it names (`Answers`). Complete: a
call of a name that an import alone binds is answered, and arrives at the first other file of the import that
provides it. The line of a call is that of its first occurrence. A function may list a callee without an
occurrence of it, and then the line is that of the function; and the mark `*` for all names of a module is no
name that an import binds (`calls_astray`).
-/

namespace WorkflowAtlas

open WorkflowAtlas.Text

variable {files : List FileFacts} {index : ModuleIndex} {facts : FileFacts} {function : FunctionFacts}
  {callee : String}

/-! ## What a scope binds -/

/-- **The names that a target binds**; none when it leads nowhere, and `*` is no name. -/
def Target.bindings (target : Target) (items : List ImportedName) : List (String × (Target × String)) :=
  if target.files.isEmpty then []
  else (items.filter (·.name != "*")).map fun item => (item.localName, (target, item.name))

theorem Target.bindings_append (target : Target) (first second : List ImportedName) :
    target.bindings (first ++ second) = target.bindings first ++ target.bindings second := by
  unfold bindings
  split <;> simp

/-- Where a source leads. -/
def Target.ofSource (index : ModuleIndex) (file : SourcePath) (source : String) : Target :=
  ⟨index.resolve file source, source⟩

/-- The names that the imports of a file bind, in order. -/
def FileFacts.bindings (index : ModuleIndex) (facts : FileFacts) : List (String × (Target × String)) :=
  facts.imports.flatMap fun imported => (Target.ofSource index facts.file imported.source).bindings imported.names

theorem FileFacts.mem_bindings {entry : String × (Target × String)} : entry ∈ facts.bindings index ↔
    ∃ imported ∈ facts.imports, index.resolve facts.file imported.source ≠ [] ∧
      ∃ item ∈ imported.names, item.name ≠ "*" ∧
        (item.localName, (Target.ofSource index facts.file imported.source, item.name)) = entry := by
  simp only [bindings, List.mem_flatMap, Target.bindings]
  refine exists_congr fun imported => and_congr_right fun _ => ?_
  by_cases leads : index.resolve facts.file imported.source = []
  · simp [Target.ofSource, leads]
  · simp [Target.ofSource, leads, and_assoc]

/-- **A source that an import of a file names**: its own, or that of the module which one of its names may be, as
`app.llm` is where `llm` is brought in from `app`. -/
def FileFacts.NamesSource (facts : FileFacts) (source : String) : Prop :=
  ∃ imported ∈ facts.imports, source = imported.source ∨
    ∃ item ∈ imported.names, item.name ≠ "*" ∧ source = submodule imported.source item.name

/-- **A target that an import of a file leads to**: an import names its source, and it has the files of that. -/
structure Target.IsImported (index : ModuleIndex) (facts : FileFacts) (target : Target) : Prop where
  files : target.files = index.resolve facts.file target.source
  source : facts.NamesSource target.source

/-- No other import of a file binds the local name of an imported one. -/
def FileFacts.BindsAlone (facts : FileFacts) (imported : Import) (item : ImportedName) : Prop :=
  ∀ other ∈ facts.imports, ∀ another ∈ other.names, another.name ≠ "*" → another.localName = item.localName →
    other.source = imported.source ∧ another.name = item.name

instance (facts : FileFacts) (imported : Import) (item : ImportedName) : Decidable (facts.BindsAlone imported item) :=
  inferInstanceAs (Decidable (∀ other ∈ facts.imports, ∀ another ∈ other.names, _ → _ → _ ∧ _))

/-- **A function calls an imported name**, one that the import alone binds, by its local name. -/
structure FileFacts.CallsImported (facts : FileFacts) (function : FunctionFacts) (imported : Import)
    (item : ImportedName) : Prop where
  isImport : imported ∈ facts.imports
  isItem : item ∈ imported.names
  isName : item.name ≠ "*"
  alone : facts.BindsAlone imported item
  isFunction : function ∈ facts.functions
  isCall : item.localName ∈ function.calls
  plain : ∀ c ∈ item.localName.toList, Callee.isJoint c = false

/-- A callee without a joint has no receiver. -/
theorem Callee.receiver?_of_plain (plain : ∀ c ∈ callee.toList, Callee.isJoint c = false) :
    Callee.receiver? callee = none := by
  have nothing : callee.toList.reverse.dropWhile (fun c => !Callee.isJoint c) = [] :=
    List.dropWhile_eq_nil_iff.mpr fun c isChar => by simp [plain c (List.mem_reverse.mp isChar)]
  simp only [Callee.receiver?, nothing]

/-- A key whose entries agree is found with their value. -/
theorem lookup_eq_of_agree {entries : List (String × (Target × String))} {key : String} {value : Target × String}
    (member : (key, value) ∈ entries) (agree : ∀ entry ∈ entries, entry.1 = key → entry.2 = value) :
    entries.lookup key = some value := by
  cases found : entries.lookup key with
  | none => simpa using List.lookup_eq_none_iff.mp found _ member
  | some other =>
    obtain ⟨before, after, isSplit, _⟩ := List.lookup_eq_some_iff.mp found
    exact congrArg some (agree (key, other) (by simp [isSplit]) rfl)

namespace ImportScope

variable {target : Target} {scope : ImportScope}

/-- One imported name adds its binding in front. -/
theorem names_bindName (index : ModuleIndex) (file : SourcePath) (target : Target) (scope : ImportScope)
    (item : ImportedName) :
    (bindName index file target scope item).names = target.bindings [item] ++ scope.names := by
  unfold bindName Target.bindings
  split
  · next isAll => split <;> simp [isAll]
  · next isName =>
    simp only
    split <;> split <;> simp [names_bindModule, isName]

theorem names_foldl_bindName (index : ModuleIndex) (file : SourcePath) (target : Target) (items : List ImportedName)
    (scope : ImportScope) :
    (items.foldl (bindName index file target) scope).names = (target.bindings items).reverse ++ scope.names := by
  induction items generalizing scope with
  | nil => simp [Target.bindings]
  | cons item items ih =>
    have single : (target.bindings [item]).reverse = target.bindings [item] := by
      unfold Target.bindings
      by_cases isAll : item.name = "*" <;> split <;> simp [isAll]
    have split : target.bindings (item :: items) = target.bindings [item] ++ target.bindings items :=
      target.bindings_append [item] items
    rw [List.foldl_cons, ih, names_bindName, split, List.reverse_append, single, List.append_assoc]

theorem names_bind (index : ModuleIndex) (file : SourcePath) (scope : ImportScope) (imported : Import) :
    (bind index file scope imported).names =
      ((Target.ofSource index file imported.source).bindings imported.names).reverse ++ scope.names := by
  unfold bind
  simp only
  rw [names_foldl_bindName]
  cases imported.asName with
  | some asName => exact congrArg (List.append _) (names_bindModule ..)
  | none => rfl

/-- **The names of a file's scope** are those that its imports bind, the latest first. -/
theorem names_ofFile (index : ModuleIndex) (facts : FileFacts) :
    (ofFile index facts).names = (facts.bindings index).reverse := by
  have run : ∀ (imports : List Import) (scope : ImportScope), (imports.foldl (bind index facts.file) scope).names =
      (imports.flatMap fun imported =>
        (Target.ofSource index facts.file imported.source).bindings imported.names).reverse ++ scope.names := by
    intro imports
    induction imports with
    | nil => intro scope; rfl
    | cons imported imports ih => intro scope; simp [ih, names_bind]
  exact (run facts.imports {}).trans (List.append_nil _)

/-- **Every target of a scope is imported.** -/
structure AllImported (index : ModuleIndex) (facts : FileFacts) (scope : ImportScope) : Prop where
  modules : ∀ entry ∈ scope.modules, entry.2.IsImported index facts
  names : ∀ entry ∈ scope.names, entry.2.1.IsImported index facts
  wholes : ∀ target ∈ scope.wholes, target.IsImported index facts

theorem AllImported.bindModule (before : scope.AllImported index facts) (isImported : target.IsImported index facts)
    (name : String) : (scope.bindModule name target).AllImported index facts := by
  unfold ImportScope.bindModule
  split
  · exact before
  · exact ⟨List.forall_mem_cons.mpr ⟨isImported, before.modules⟩, before.names, before.wholes⟩

/-- One name of an import keeps the targets imported: the module of the name is one that the import names. -/
theorem AllImported.bindName (before : scope.AllImported index facts) {imported : Import}
    (isImport : imported ∈ facts.imports) {item : ImportedName} (isItem : item ∈ imported.names) :
    (bindName index facts.file (.ofSource index facts.file imported.source) scope item).AllImported index facts := by
  have isImported : (Target.ofSource index facts.file imported.source).IsImported index facts :=
    ⟨rfl, imported, isImport, .inl rfl⟩
  unfold ImportScope.bindName
  split
  · split
    · exact before
    · exact ⟨before.modules, before.names, List.forall_mem_append.mpr ⟨before.wholes, by simpa using isImported⟩⟩
  · next isName =>
    simp only
    generalize isBound : (if (Target.ofSource index facts.file imported.source).files.isEmpty then scope
      else { scope with names := (item.localName, (_, item.name)) :: scope.names }) = bound
    have named : bound.AllImported index facts := by
      rw [← isBound]
      split
      · exact before
      · exact ⟨before.modules, List.forall_mem_cons.mpr ⟨isImported, before.names⟩, before.wholes⟩
    split
    · exact named
    · exact named.bindModule ⟨rfl, imported, isImport, .inr ⟨item, isItem, isName, rfl⟩⟩ _

theorem AllImported.bind (before : scope.AllImported index facts) {imported : Import}
    (isImport : imported ∈ facts.imports) : (bind index facts.file scope imported).AllImported index facts := by
  unfold ImportScope.bind
  refine List.foldlRecOn (motive := AllImported index facts) _ _ ?_ ?_
  · split
    · exact before.bindModule ⟨rfl, imported, isImport, .inl rfl⟩ _
    · exact before
  · intro scope before item isItem
    exact before.bindName isImport isItem

/-- **The targets of a file's scope are imported**, however they are bound. -/
theorem allImported_ofFile (index : ModuleIndex) (facts : FileFacts) :
    (ofFile index facts).AllImported index facts := by
  refine List.foldlRecOn (motive := AllImported index facts) _ _ ⟨by simp, by simp, by simp⟩ ?_
  intro scope before imported isImport
  exact before.bind isImport

theorem AllImported.of_mem_lookup (all : scope.AllImported index facts) {found : Target × String}
    (isFound : found ∈ scope.lookup callee) : found.1.IsImported index facts := by
  unfold lookup at isFound
  simp only at isFound
  split at isFound
  · obtain ⟨target, isTarget, rfl⟩ := Option.map_eq_some_iff.mp (Option.mem_toList.mp isFound)
    obtain ⟨before, after, isSplit, _⟩ := List.lookup_eq_some_iff.mp isTarget
    exact all.modules _ (isSplit ▸ List.mem_append_right _ List.mem_cons_self)
  · split at isFound
    · next bound isBound =>
      rw [List.mem_singleton.mp isFound]
      obtain ⟨before, after, isSplit, _⟩ := List.lookup_eq_some_iff.mp isBound
      exact all.names _ (isSplit ▸ List.mem_append_right _ List.mem_cons_self)
    · obtain ⟨target, isTarget, rfl⟩ := List.mem_map.mp isFound
      exact all.wholes target isTarget

/-- **A name that one import alone binds** leads where that import leads. -/
theorem lookup_ofFile {imported : Import} {item : ImportedName} (calls : facts.CallsImported function imported item)
    (leads : index.resolve facts.file imported.source ≠ []) :
    (ofFile index facts).lookup item.localName =
      [(.ofSource index facts.file imported.source, item.name)] := by
  have isBound : (item.localName, (Target.ofSource index facts.file imported.source, item.name)) ∈
      (ofFile index facts).names := by
    rw [names_ofFile, List.mem_reverse, FileFacts.mem_bindings]
    exact ⟨imported, calls.isImport, leads, item, calls.isItem, calls.isName, rfl⟩
  have others : ∀ entry ∈ (ofFile index facts).names, entry.1 = item.localName →
      entry.2 = (.ofSource index facts.file imported.source, item.name) := by
    intro entry isEntry sameName
    rw [names_ofFile, List.mem_reverse, FileFacts.mem_bindings] at isEntry
    obtain ⟨other, isOther, _, another, isAnother, isName, rfl⟩ := isEntry
    obtain ⟨sameSource, same⟩ := calls.alone other isOther another isAnother isName sameName
    rw [sameSource, same]
  unfold lookup
  simp only [Callee.receiver?_of_plain calls.plain, lookup_eq_of_agree isBound others]

end ImportScope

/-! ## Where a call arrives -/

/-- **A file provides a name** that it defines or exports. -/
def FileFacts.Provides (facts : FileFacts) (name : String) : Prop :=
  (∃ function ∈ facts.functions, function.name = name) ∨ name ∈ facts.exports

/-- **A call from a file can arrive** at a path: another file of the repository provides the name there. -/
def Arrives (files : List FileFacts) (caller : SourcePath) (path : NormalPath) (name : String) : Prop :=
  path.components ≠ caller.components ∧
    ∃ facts ∈ files, facts.file.components = path.components ∧ facts.Provides name

instance (facts : FileFacts) (name : String) : Decidable (facts.Provides name) :=
  inferInstanceAs (Decidable ((∃ function ∈ facts.functions, _) ∨ _))

instance (files : List FileFacts) (caller : SourcePath) (path : NormalPath) (name : String) :
    Decidable (Arrives files caller path name) :=
  inferInstanceAs (Decidable (_ ∧ ∃ facts ∈ files, _ ∧ _))

theorem FileFacts.provides_iff {name : String} :
    ((facts.function? name).isSome || name ∈ facts.exports) = true ↔ facts.Provides name := by
  simp [FileFacts.function?, Provides]

/-- Files with different normal forms are found by their paths. -/
theorem factsAt?_eq_some (distinct : (files.map (·.file.normalize)).Nodup) (isFile : facts ∈ files) {path : NormalPath}
    (isPath : facts.file.components = path.components) : factsAt? files path = some facts := by
  cases found : factsAt? files path with
  | none =>
    have absent := List.find?_eq_none.mp found facts (List.mem_reverse.mpr isFile)
    simp [isPath] at absent
  | some other =>
    have isOther : other ∈ files := List.mem_reverse.mp (List.mem_of_find?_eq_some found)
    have samePath : other.file.components = path.components := by simpa using List.find?_some found
    have sameForm : other.file.normalize = facts.file.normalize := by
      rw [SourcePath.normalize, SourcePath.normalize, samePath, isPath]
    exact congrArg some (List.inj_on_of_nodup_map distinct isOther isFile sameForm)

theorem exists_provider {path : NormalPath} {name : String} (provided : provides files path name = true) :
    ∃ facts ∈ files, facts.file.components = path.components ∧ facts.Provides name := by
  obtain ⟨facts, found, provided⟩ := (Option.any_eq_true _ _).mp provided
  refine ⟨facts, List.mem_reverse.mp (List.mem_of_find?_eq_some found), ?_, FileFacts.provides_iff.mp provided⟩
  simpa using List.find?_some found

theorem provides_of_mem (distinct : (files.map (·.file.normalize)).Nodup) (isFile : facts ∈ files) {path : NormalPath}
    {name : String} (isPath : facts.file.components = path.components) (provided : facts.Provides name) :
    provides files path name = true := by
  rw [provides, factsAt?_eq_some distinct isFile isPath]
  exact FileFacts.provides_iff.mpr provided

/-- **The first arrival** among some paths: a call can arrive there and at none before. -/
def FirstArrival (files : List FileFacts) (caller : SourcePath) (paths : List NormalPath) (path : NormalPath)
    (name : String) : Prop :=
  ∃ before after, paths = before ++ path :: after ∧ Arrives files caller path name ∧
    ∀ earlier ∈ before, ¬ Arrives files caller earlier name

/-- A lookup ends at the first arrival among the files of its target. -/
theorem arrival?_eq_some (distinct : (files.map (·.file.normalize)).Nodup) {caller : SourcePath} {target : Target}
    {path : NormalPath} {name : String} (isFirst : FirstArrival files caller target.files path name) :
    arrival? files caller (target, name) =
      some { file := path.toPath, function := name, module := some target.source } := by
  obtain ⟨before, after, isSplit, arrives, first⟩ := isFirst
  obtain ⟨other, provider, isFile, isPath, provided⟩ := arrives
  have passes : (path.components != caller.components && provides files path name) = true := by
    simp [other, provides_of_mem distinct isFile isPath provided]
  have fails : ∀ earlier ∈ before, (earlier.components != caller.components && provides files earlier name) = false := by
    intro earlier isEarlier
    refine Bool.eq_false_iff.mpr fun passes => first earlier isEarlier ?_
    obtain ⟨other, provided⟩ := Bool.and_eq_true_iff.mp passes
    exact ⟨by simpa using other, exists_provider provided⟩
  have isFound : target.files.find? (fun path => path.components != caller.components && provides files path name) =
      some path := by
    rw [List.find?_eq_some_iff_append]
    exact ⟨passes, before, after, isSplit, fun earlier isEarlier => by simp [fails earlier isEarlier]⟩
  simp only [arrival?, isFound, Option.map_some]

/-! ## The law -/

/-- **The line of a call**: that of the first occurrence of its callee, or of the function where none is listed. -/
inductive FunctionFacts.CallsFirstAt (function : FunctionFacts) (callee : String) : Nat → Prop
  | site {before after : List CallSite} {site : CallSite} (isSplit : function.callSites = before ++ site :: after)
      (isCall : site.callee = callee) (first : ∀ earlier ∈ before, earlier.callee ≠ callee) :
      CallsFirstAt function callee site.line
  | unlisted (absent : ∀ site ∈ function.callSites, site.callee ≠ callee) :
      CallsFirstAt function callee function.startLine

theorem FunctionFacts.callsFirstAt_callLine (function : FunctionFacts) (callee : String) :
    function.CallsFirstAt callee (function.callLine callee) := by
  unfold callLine
  cases found : function.callSites.find? (·.callee == callee) with
  | none => exact .unlisted fun site isSite => by simpa using List.find?_eq_none.mp found site isSite
  | some site =>
    obtain ⟨isCall, before, after, isSplit, first⟩ := List.find?_eq_some_iff_append.mp found
    exact .site isSplit (by simpa using isCall) fun earlier isEarlier => by simpa using first earlier isEarlier

/-- **A call of a function**: the function, its file and one entry of its calls. -/
structure CallEntry where
  facts : FileFacts
  function : FunctionFacts
  callee : String

/-- The calls of the functions of some files, in order. -/
def callEntries (files : List FileFacts) : List CallEntry :=
  files.flatMap fun facts => facts.functions.flatMap fun function => function.calls.map fun callee =>
    ⟨facts, function, callee⟩

/-- **A call across files answers a call of a function**: it leaves from there, and arrives at another file that
provides the name and that a source leads to which an import of the caller's file names. -/
structure Answers (index : ModuleIndex) (files : List FileFacts) (entry : CallEntry) (call : CrossFileCall) : Prop where
  file : call.caller.file = entry.facts.file
  function : call.caller.function = entry.function.name
  line : entry.function.CallsFirstAt entry.callee call.caller.line
  arrives : ∃ source, call.callee.module = some source ∧ entry.facts.NamesSource source ∧
    ∃ path ∈ index.resolve entry.facts.file source,
      call.callee.file = path.toPath ∧ Arrives files entry.facts.file path call.callee.function

theorem answers_of_crossCall? {entry : CallEntry} {call : CrossFileCall}
    (made : crossCall? files (.ofFile index entry.facts) entry.facts.file entry.function entry.callee = some call) :
    Answers index files entry call := by
  obtain ⟨place, found, rfl⟩ := Option.map_eq_some_iff.mp made
  obtain ⟨⟨target, name⟩, isFound, arrival⟩ := List.exists_of_findSome?_eq_some found
  have isImported := (ImportScope.allImported_ofFile index entry.facts).of_mem_lookup isFound
  obtain ⟨path, isPath, rfl⟩ := Option.map_eq_some_iff.mp arrival
  have passes := List.find?_some isPath
  obtain ⟨other, provided⟩ := Bool.and_eq_true_iff.mp passes
  refine ⟨rfl, rfl, entry.function.callsFirstAt_callLine entry.callee, target.source, rfl, isImported.source, path, ?_,
    rfl, ?_⟩
  · rw [← isImported.files]
    exact List.mem_of_find?_eq_some isPath
  · exact ⟨by simpa using other, exists_provider provided⟩

theorem crossFileCalls_eq (index : ModuleIndex) (files : List FileFacts) :
    crossFileCalls index files = (callEntries files).filterMap fun entry =>
      crossCall? files (.ofFile index entry.facts) entry.facts.file entry.function entry.callee := by
  simp [crossFileCalls, callEntries, List.filterMap_flatMap, List.filterMap_map]

/-- What a list is mapped to where there is something comes from a part of it. -/
theorem exists_sublist_filterMap {α β : Type} (f : α → Option β) (items : List α) :
    ∃ kept, kept.Sublist items ∧ List.Forall₂ (fun item made => f item = some made) kept (items.filterMap f) := by
  induction items with
  | nil => exact ⟨[], .slnil, .nil⟩
  | cons item items ih =>
    obtain ⟨kept, isPart, made⟩ := ih
    cases isMade : f item with
    | none => exact ⟨kept, isPart.cons item, by simpa [isMade] using made⟩
    | some result => exact ⟨item :: kept, isPart.cons_cons item, by simpa [isMade] using made⟩

/-- **Calls through imports.** Calls across files answer calls of functions, each at most once and in order; and
a call of an imported name is answered at the first arrival among the files of the import. -/
theorem crossFileCalls_exact (index : ModuleIndex) (files : List FileFacts)
    (distinct : (files.map (·.file.normalize)).Nodup) :
    (∃ entries, entries.Sublist (callEntries files) ∧
        List.Forall₂ (Answers index files) entries (crossFileCalls index files)) ∧
      ∀ facts ∈ files, ∀ (imported : Import) (item : ImportedName) (function : FunctionFacts) (path : NormalPath),
        facts.CallsImported function imported item →
        FirstArrival files facts.file (index.resolve facts.file imported.source) path item.name →
        ∃ line, function.CallsFirstAt item.localName line ∧
          { caller := ⟨facts.file, function.name, line⟩, callee := ⟨path.toPath, item.name, some imported.source⟩ } ∈
            crossFileCalls index files := by
  constructor
  · obtain ⟨entries, isPart, made⟩ := exists_sublist_filterMap (fun entry : CallEntry =>
      crossCall? files (.ofFile index entry.facts) entry.facts.file entry.function entry.callee) (callEntries files)
    rw [crossFileCalls_eq]
    exact ⟨entries, isPart, made.imp fun _ _ => answers_of_crossCall?⟩
  · intro facts isFile imported item function path calls isFirst
    have leads : index.resolve facts.file imported.source ≠ [] := by
      obtain ⟨before, after, isSplit, _⟩ := isFirst
      simp [isSplit]
    have arrival : arrival? files facts.file (.ofSource index facts.file imported.source, item.name) =
        some ⟨path.toPath, item.name, some imported.source⟩ := arrival?_eq_some distinct isFirst
    refine ⟨_, function.callsFirstAt_callLine item.localName, ?_⟩
    rw [crossFileCalls_eq, List.mem_filterMap]
    refine ⟨⟨facts, function, item.localName⟩, ?_, ?_⟩
    · exact List.mem_flatMap.mpr ⟨facts, isFile,
        List.mem_flatMap.mpr ⟨function, calls.isFunction, List.mem_map_of_mem calls.isCall⟩⟩
    · simp only [crossCall?, ImportScope.lookup_ofFile calls leads, List.findSome?_cons, arrival, Option.map_some]

/-! ## Samples -/

open Repository (sampleFile)

/-- A function of a header, under a name of its own. -/
def headerItem : ImportedName :=
  { name := "ask", asName := some "ask_model" }

def headerImport : Import :=
  { source := "llm.h", names := [headerItem], line := 1 }

def headerFunction : FunctionFacts :=
  { name := "run", file := ⟨"c/main.c"⟩, startLine := 3, endLine := 9, calls := ["puts", "ask_model"],
    callSites := [⟨"puts", 4⟩, ⟨"ask_model", 5⟩, ⟨"ask_model", 7⟩] }

def headerCaller : FileFacts :=
  { file := ⟨"c/main.c"⟩, functions := [headerFunction], imports := [headerImport] }

/-- A header that does not have the function, and an implementation that has it. -/
def headerFiles : List FileFacts :=
  [sampleFile "c/llm.c" [("ask", [], [])], { sampleFile "c/llm.h" [] with exports := ["Client"] }, headerCaller]

theorem ofPaths_headerFiles : ModuleIndex.ofPaths (headerFiles.map (·.file)) =
    ⟨[⟨false, ["c", "llm.c"]⟩, ⟨false, ["c", "llm.h"]⟩, ⟨false, ["c", "main.c"]⟩]⟩ :=
  ModuleIndex.ofPaths_of_sorted (by decide +kernel) (by decide +kernel) (by decide +kernel)

theorem crossFileCalls_exact_header : (headerFiles.map (·.file.normalize)).Nodup ∧ headerCaller ∈ headerFiles ∧
    headerCaller.CallsImported headerFunction headerImport headerItem ∧
    (ModuleIndex.ofPaths (headerFiles.map (·.file))).resolve headerCaller.file headerImport.source =
      [⟨false, ["c", "llm.h"]⟩, ⟨false, ["c", "llm.c"]⟩] ∧
    ∃ line, headerFunction.CallsFirstAt "ask_model" line ∧
      { caller := ⟨⟨"c/main.c"⟩, "run", line⟩, callee := ⟨⟨"c/llm.c"⟩, "ask", some "llm.h"⟩ } ∈
        crossFileCalls (.ofPaths (headerFiles.map (·.file))) headerFiles := by
  have distinct : (headerFiles.map (·.file.normalize)).Nodup := by decide +kernel
  have isFile : headerCaller ∈ headerFiles := by decide +kernel
  have calls : headerCaller.CallsImported headerFunction headerImport headerItem :=
    ⟨by decide, by decide, by decide, by decide +kernel, by decide, by decide,
      List.all_iff_forall_prop.mp (by decide +kernel)⟩
  have found : (ModuleIndex.ofPaths (headerFiles.map (·.file))).resolve headerCaller.file headerImport.source =
      [⟨false, ["c", "llm.h"]⟩, ⟨false, ["c", "llm.c"]⟩] := by
    rw [ofPaths_headerFiles]
    decide +kernel
  refine ⟨distinct, isFile, calls, found, ?_⟩
  refine (crossFileCalls_exact _ _ distinct).2 headerCaller isFile headerImport headerItem headerFunction
    ⟨false, ["c", "llm.c"]⟩ calls ?_
  exact ⟨[⟨false, ["c", "llm.h"]⟩], [], found, by decide +kernel, by decide +kernel⟩

/-- A function that lists a callee and no occurrence of it. -/
def unlistedFiles : List FileFacts :=
  [sampleFile "app.ts" [("run", ["llm.ask"], [])] [{ source := "./llm", asName := some "llm", line := 1 }],
    sampleFile "llm.ts" [("ask", [], [])]]

/-- All names of a module under one name, and a module that exports `*`. -/
def wholeImport : Import :=
  { source := "./llm", names := [{ name := "*", asName := some "all" }], line := 1 }

def wholeCaller : FileFacts :=
  sampleFile "app.ts" [("run", ["all"], [])] [wholeImport]

def wholeFiles : List FileFacts :=
  [wholeCaller, { sampleFile "llm.ts" [] with exports := ["*"] }]

/-- A call may be reported on a line where nothing is called, and a call of what is imported as `*` is not
reported though the other file exports that. -/
theorem calls_astray :
    ((unlistedFiles.map (·.file.normalize)).Nodup ∧
      ∃ call ∈ crossFileCalls (.ofPaths (unlistedFiles.map (·.file))) unlistedFiles,
        ∀ facts ∈ unlistedFiles, ∀ function ∈ facts.functions, ∀ site ∈ function.callSites,
          site.line ≠ call.caller.line) ∧
      (wholeFiles.map (·.file.normalize)).Nodup ∧ wholeCaller ∈ wholeFiles ∧ wholeCaller.imports = [wholeImport] ∧
        (∃ function ∈ wholeCaller.functions, "all" ∈ function.calls) ∧
        (ModuleIndex.ofPaths (wholeFiles.map (·.file))).resolve wholeCaller.file wholeImport.source =
          [⟨false, ["llm.ts"]⟩] ∧
        Arrives wholeFiles wholeCaller.file ⟨false, ["llm.ts"]⟩ "*" ∧
        crossFileCalls (.ofPaths (wholeFiles.map (·.file))) wholeFiles = [] := by
  have unlisted : ModuleIndex.ofPaths (unlistedFiles.map (·.file)) = ⟨[⟨false, ["app.ts"]⟩, ⟨false, ["llm.ts"]⟩]⟩ :=
    ModuleIndex.ofPaths_of_sorted (by decide +kernel) (by decide +kernel) (by decide +kernel)
  have whole : ModuleIndex.ofPaths (wholeFiles.map (·.file)) = ⟨[⟨false, ["app.ts"]⟩, ⟨false, ["llm.ts"]⟩]⟩ :=
    ModuleIndex.ofPaths_of_sorted (by decide +kernel) (by decide +kernel) (by decide +kernel)
  rw [unlisted, whole]
  decide +kernel

end WorkflowAtlas
