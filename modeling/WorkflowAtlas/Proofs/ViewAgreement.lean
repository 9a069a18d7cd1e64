import WorkflowAtlas.Proofs.Listing
import WorkflowAtlas.Scan.Views

/-!
# The views of a file agree

A scan gives every call to at most one function, and three views are read off it: the facts of a file list
what each function calls, the analysis lists the sites at which a language model is reached, and the call
graph groups both by the name of a function.

**The law** (`views_agree`): where no function has the name that stands for code outside of functions, the
sites of a function, its own list and its entry in the call graph are one list of callees, as they are first
seen; the flag of a function says whether that list is empty; and the call graph has the functions of the
facts with their calls. It rests on the names of functions: they differ, so that the owner of a call, which is
kept by name, is one function and no other (`Scan.Filled.owner_place`).

The law compares views of one scan. Which function a call is given to is not its subject.
-/

namespace WorkflowAtlas

/-! ## Attributed calls -/

namespace Span

theorem mem_of_narrowest? {spans : List Span} {span : Span} (narrowest : narrowest? spans = some span) :
    span ∈ spans := by
  induction spans with
  | nil => cases narrowest
  | cons first rest ih =>
    rw [narrowest?] at narrowest
    split at narrowest
    · cases narrowest
      exact List.mem_cons_self
    · next other found =>
      split at narrowest
      · cases narrowest
        exact List.mem_cons_self
      · cases narrowest
        exact List.mem_cons_of_mem first (ih found)

end Span

/-- A byte belongs to the owner of a span. -/
theorem mem_owners_of_owner? {spans : List Span} {byte : Nat} {owner : String} (owns : owner? spans byte = some owner) :
    owner ∈ spans.map (·.owner) := by
  obtain ⟨span, narrowest, rfl⟩ := Option.map_eq_some_iff.mp owns
  exact List.mem_map_of_mem (List.mem_filter.mp (Span.mem_of_narrowest? narrowest)).1

namespace AttributedCall

/-- A call has the name of a function for its owner's exactly where that function owns it. -/
theorem ownerName_beq {name : String} (inFunction : name ≠ moduleScope) (call : AttributedCall) :
    (call.ownerName == name) = (call.owner == some name) := by
  unfold ownerName
  cases call.owner with
  | none => simpa using inFunction.symm
  | some owner => simp

/-- The sites of a name are the calls that the function of that name owns. -/
theorem callees_llmSites {name : String} (inFunction : name ≠ moduleScope) (calls : List AttributedCall) :
    ((llmSites calls).filter (·.function == name)).map (·.callee) =
      ((ownedBy name calls).filter (·.isLlm)).map (·.callee) := by
  simp only [llmSites, ownedBy, List.filter_map, List.map_map, List.filter_filter, Function.comp_def,
    ownerName_beq inFunction, Bool.and_comm]

end AttributedCall

/-! ## The call graph's table of sites -/

/-- A look-up among entries whose value depends on their key alone. -/
theorem lookup_map_byKey {α β : Type} (key : α → String) (value : String → β) (items : List α) (name : String) :
    (items.map fun item => (key item, value (key item))).lookup name =
      if name ∈ items.map key then some (value name) else none := by
  induction items with
  | nil => rfl
  | cons item rest ih =>
    rw [List.map_cons, lookup_cons_ite, ih]
    by_cases same : name = key item <;> simp [same]

section ByKey

variable {α β : Type} {key : α → String} {items : List α} (unique : (items.map key).Nodup) (value : α → β)

include unique

/-- A map of items that have different keys has these keys. -/
theorem keys_ofList_byKey :
    (SortedMap.ofList (items.map fun item => (key item, value item))).keys.Perm (items.map key) := by
  have keys : (items.map fun item => (key item, value item)).map (·.1) = items.map key := by
    rw [List.map_map]
    rfl
  exact keys ▸ SortedMap.keys_ofList_perm (keys.symm ▸ unique)

theorem get?_ofList_byKey {item : α} (isItem : item ∈ items) :
    (SortedMap.ofList (items.map fun item => (key item, value item))).get? (key item) = some (value item) := by
  refine SortedMap.get?_ofList_of_mem ?_ (List.mem_map_of_mem isItem)
  rw [List.map_map]
  exact unique

end ByKey

/-- **The table has the callees of each name that has sites.** -/
theorem Scan.get?_llmCalls (scan : Scan) (name : String) : scan.callGraph.llmCalls.get? name =
    if LlmCallSite.calleesIn scan.llmSites name = [] then none
    else some (LlmCallSite.calleesIn scan.llmSites name) := by
  have present : name ∈ scan.llmSites.reverse.map (·.function) ↔ LlmCallSite.calleesIn scan.llmSites name ≠ [] := by
    simp [LlmCallSite.calleesIn, List.eq_nil_iff_forall_not_mem]
  show (SortedMap.ofList _).get? name = _
  rw [SortedMap.get?_ofList, ← List.map_reverse,
    lookup_map_byKey LlmCallSite.function (LlmCallSite.calleesIn scan.llmSites)]
  simp only [present, ne_eq, ite_not]

/-! ## What a scan fills in -/

/-- **A scan fills its functions from attributed calls**: the functions have different names, each is given
what its name owns, and what is owned is owned by one of them. -/
structure Scan.Filled (grammar : Grammar) (listed : List FunctionFacts) (calls : List AttributedCall) (scan : Scan) :
    Prop where
  functions : scan.facts.functions = listed.map (Analyzer.fill grammar calls)
  names : (listed.map (·.name)).Nodup
  sites : scan.llmSites = AttributedCall.llmSites calls
  owners : ∀ call ∈ calls, ∀ owner, call.owner = some owner → owner ∈ listed.map (·.name)

/-- **An owner is one of the functions**: its name is that of exactly one place in the list. -/
theorem Scan.Filled.owner_place {grammar : Grammar} {listed : List FunctionFacts} {calls : List AttributedCall}
    {scan : Scan} (filled : scan.Filled grammar listed calls) {call : AttributedCall} (isCall : call ∈ calls)
    {owner : String} (owns : call.owner = some owner) :
    ∃! place : Nat, ∃ function, listed[place]? = some function ∧ function.name = owner := by
  obtain ⟨function, isFunction, isName⟩ := List.mem_map.mp (filled.owners call isCall owner owns)
  obtain ⟨place, atPlace⟩ := List.mem_iff_getElem?.mp isFunction
  refine ⟨place, ⟨function, atPlace, isName⟩, ?_⟩
  rintro other ⟨another, atOther, sameName⟩
  exact index_eq_of_nodup_map filled.names atOther atPlace (sameName.trans isName.symm)

theorem Analyzer.scan_filled (analyzer : Analyzer) (language : Language) (file : SourcePath) (code : String)
    (root : ParseTree) : ∃ listed calls,
      (analyzer.scan language file code root).Filled language.grammar listed calls := by
  refine ⟨_, _, rfl, ?_, rfl, ?_⟩
  · rw [map_eraseDupsBy]
    exact nodup_eraseDups _
  · intro call isCall owner owns
    obtain ⟨found, _, rfl⟩ := List.mem_map.mp isCall
    have isOwner := mem_owners_of_owner? owns
    rw [map_eraseDupsBy, List.mem_eraseDups]
    -- The spans and the functions are read off the same definitions, under the same names.
    simpa [Span.ofNode, Definition.facts, Function.comp_def] using isOwner

/-! ## The three views -/

/-- **Three views of a file agree.** -/
structure FileFacts.AgreesWith (facts : FileFacts) (analysis : FileAnalysis) (graph : FileCallGraph) : Prop where
  /-- A function's list has what is first seen at its sites. -/
  sites : ∀ function ∈ facts.functions,
    FirstSeen ((analysis.llmCalls.filter (·.function == function.name)).map (·.callee)) function.llmCalls
  /-- So has its entry in the table, which is there unless the list is empty. -/
  table : ∀ function ∈ facts.functions,
    graph.llmCalls.get? function.name = if function.llmCalls = [] then none else some function.llmCalls
  flags : ∀ function ∈ facts.functions, function.hasLlmCall = true ↔ function.llmCalls ≠ []
  /-- No site is at a name of its own. -/
  placed : ∀ site ∈ analysis.llmCalls, site.function = moduleScope ∨ site.function ∈ facts.functions.map (·.name)
  functionNames : graph.functions.keys.Perm (facts.functions.map (·.name))
  callNames : graph.calls.keys.Perm (facts.functions.map (·.name))
  functions : ∀ function ∈ facts.functions, graph.functions.get? function.name = some function
  calls : ∀ function ∈ facts.functions, graph.calls.get? function.name = some function.calls

/-- The callees at a function's sites are its own, where its name does not stand for code outside of functions. -/
theorem Scan.Filled.calleesIn_eq {grammar : Grammar} {listed : List FunctionFacts} {calls : List AttributedCall}
    {scan : Scan} (filled : scan.Filled grammar listed calls) {function : FunctionFacts}
    (isFunction : function ∈ scan.facts.functions) (inFunction : function.name ≠ moduleScope) :
    LlmCallSite.calleesIn scan.llmSites function.name = function.llmCalls := by
  rw [filled.functions] at isFunction
  obtain ⟨bare, _, rfl⟩ := List.mem_map.mp isFunction
  rw [LlmCallSite.calleesIn, filled.sites, AttributedCall.callees_llmSites inFunction]
  rfl

/-- The names of a scan's functions are those of the functions it fills. -/
theorem Scan.Filled.names_functions {grammar : Grammar} {listed : List FunctionFacts} {calls : List AttributedCall}
    {scan : Scan} (filled : scan.Filled grammar listed calls) :
    scan.facts.functions.map (·.name) = listed.map (·.name) := by
  rw [filled.functions, List.map_map]
  rfl

theorem Scan.Filled.agrees {grammar : Grammar} {listed : List FunctionFacts} {calls : List AttributedCall}
    {scan : Scan} (filled : scan.Filled grammar listed calls)
    (inFunctions : ∀ function ∈ scan.facts.functions, function.name ≠ moduleScope) :
    scan.facts.AgreesWith scan.analysis scan.callGraph := by
  have unique : (scan.facts.functions.map (·.name)).Nodup := by
    rw [filled.names_functions]
    exact filled.names
  constructor
  case sites =>
    intro function isFunction
    rw [← filled.calleesIn_eq isFunction (inFunctions function isFunction)]
    exact firstSeen_eraseDups _
  case table =>
    intro function isFunction
    rw [Scan.get?_llmCalls, filled.calleesIn_eq isFunction (inFunctions function isFunction)]
  case flags =>
    intro function isFunction
    rw [filled.functions] at isFunction
    obtain ⟨bare, _, rfl⟩ := List.mem_map.mp isFunction
    simp [Analyzer.fill]
  case placed =>
    intro site isSite
    have isSite : site ∈ scan.llmSites := isSite
    rw [filled.sites] at isSite
    obtain ⟨call, isCall, rfl⟩ := List.mem_map.mp isSite
    have isCall := (List.mem_filter.mp isCall).1
    show call.ownerName = moduleScope ∨ call.ownerName ∈ _
    unfold AttributedCall.ownerName
    cases owns : call.owner with
    | none => exact .inl rfl
    | some owner =>
      obtain ⟨place, ⟨function, atPlace, rfl⟩, _⟩ := filled.owner_place isCall owns
      right
      rw [filled.names_functions]
      exact List.mem_map_of_mem (List.mem_of_getElem? atPlace)
  case functionNames => exact keys_ofList_byKey unique id
  case callNames => exact keys_ofList_byKey unique (·.calls)
  case functions => exact fun function isFunction => get?_ofList_byKey unique id isFunction
  case calls => exact fun function isFunction => get?_ofList_byKey unique (·.calls) isFunction

/-- The views of a file that is not scanned are empty, and agree. -/
theorem agrees_of_unread (file : SourcePath) : FileFacts.AgreesWith { file } { file } { file } := by
  constructor <;> simp [SortedMap.keys, SortedMap.empty]

/-- **The views of a file agree**, where no function is named as code outside of functions is. -/
theorem views_agree (analyzer : Analyzer) (file : SourcePath) (code : String) (tree : Option ParseTree)
    (inFunctions : ∀ function ∈ (analyzer.fileFacts file code tree).functions, function.name ≠ moduleScope) :
    (analyzer.fileFacts file code tree).AgreesWith (analyzer.fileAnalysis file code tree)
      (analyzer.fileCallGraph file code tree) := by
  unfold Analyzer.fileFacts Analyzer.fileAnalysis Analyzer.fileCallGraph at *
  cases scanned : analyzer.scan? file code tree with
  | none => exact agrees_of_unread file
  | some scan =>
    obtain ⟨language, _, _, root, _, rfl⟩ := Analyzer.scan?_eq_some.mp scanned
    obtain ⟨listed, calls, filled⟩ := analyzer.scan_filled language file code root
    rw [scanned] at inFunctions
    exact filled.agrees inFunctions

def sampleNode (kind field text : String) (start place : Nat) (children : List ParseTree := []) : ParseTree :=
  .node { kind, named := true, field, start, stop := start + text.length, firstRow := 0, lastRow := 0, place, text }
    children

/-- A function that calls a language model. -/
def askTree : ParseTree :=
  sampleNode "module" "" "def ask(): client.chat()" 0 0
    [sampleNode "function_definition" "" "def ask(): client.chat()" 0 1
      [sampleNode "identifier" "name" "ask" 4 2,
        sampleNode "call" "" "client.chat()" 11 3
          [sampleNode "attribute" "function" "client.chat" 11 4, sampleNode "argument_list" "arguments" "()" 22 5]]]

def askAnalyzer : Analyzer :=
  { recognizer := ⟨[.literal "chat".toList], [], []⟩, objects := ⟨[], []⟩, trackBindings := false }

theorem views_agree_ask :
    (askAnalyzer.fileFacts ⟨"a.py"⟩ askTree.text (some askTree)).functions.map (fun f => (f.name, f.llmCalls)) =
      [("ask", ["client.chat"])] ∧
    (askAnalyzer.fileAnalysis ⟨"a.py"⟩ askTree.text (some askTree)).llmCalls = [⟨"ask", "client.chat", 1⟩] ∧
    (askAnalyzer.fileFacts ⟨"a.py"⟩ askTree.text (some askTree)).AgreesWith
      (askAnalyzer.fileAnalysis ⟨"a.py"⟩ askTree.text (some askTree))
      (askAnalyzer.fileCallGraph ⟨"a.py"⟩ askTree.text (some askTree)) := by
  refine ⟨by decide +kernel, by decide +kernel, views_agree askAnalyzer ⟨"a.py"⟩ askTree.text (some askTree) ?_⟩
  decide +kernel

end WorkflowAtlas
