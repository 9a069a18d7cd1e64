import WorkflowAtlas.Proofs.HttpTraffic
import WorkflowAtlas.Proofs.ScanConsistency
import WorkflowAtlas.Proofs.TreeSpans

/-!
# Every call has its place

A scan gives each call that registers no route to the function whose span around it is narrowest, and what is
in no function to the module.

**The law** (`scan_attributes`): in a well-formed tree where no function is named as the module is, the function
that holds a call is an innermost one: one of its spans has the first byte of the call and lies within every
span that does. The module holds exactly the calls that are in no span. Each function lists the sites of the
calls that it holds, in the order of their matches and without what is built in, so that no site is lost or
listed twice, and its requests are those of the file that have its name.

The narrowest span is found by width. That it is innermost is the shape of the tree: spans are those of nodes,
and of two nodes with a byte in common one lies within the other (`ParseTree.WellFormed.nested`).
-/

namespace WorkflowAtlas

/-! ## Specification -/

/-- One span lies within another. -/
def Span.Within (span outer : Span) : Prop :=
  outer.start ≤ span.start ∧ span.stop ≤ outer.stop

/-- **A function is innermost around a byte**: one of its spans has the byte and lies within every span that does. -/
def IsInnermost (spans : List Span) (byte : Nat) (function : String) : Prop :=
  ∃ span ∈ spans, span.owner = function ∧ span.contains byte = true ∧
    ∀ other ∈ spans, other.contains byte = true → span.Within other

/-- Who holds a call: the function that owns its first byte, or the module. -/
def FoundCall.holder (spans : List Span) (call : FoundCall) : String :=
  (owner? spans call.node.label.start).getD moduleScope

def FoundCall.site (call : FoundCall) : CallSite :=
  ⟨call.callee, call.node.line⟩

namespace Analyzer

/-- The spans of the functions of a tree. -/
def functionSpans (analyzer : Analyzer) (grammar : Grammar) (root : ParseTree) : List Span :=
  (analyzer.functionNodes grammar root).map fun definition => Span.ofNode definition.name definition.node

/-- **The calls that register no route**, as they are matched. -/
def plainCalls (analyzer : Analyzer) (grammar : Grammar) (root : ParseTree) : List FoundCall :=
  (grammar.foundCalls root).filter fun call =>
    call.node.place ∉ (analyzer.foundRoutes (grammar.foundCalls root)).map (·.call.node.place)

end Analyzer

/-- **A scan in which each call has one holder.** -/
structure Scan.Attributes (scan : Scan) (analyzer : Analyzer) (grammar : Grammar) (spans : List Span)
    (calls : List FoundCall) : Prop where
  /-- A call that the module does not hold is held by an innermost function around it. -/
  innermost : ∀ call ∈ calls, call.holder spans ≠ moduleScope →
    call.holder spans ∈ scan.facts.functions.map (·.name) ∧
      IsInnermost spans call.node.label.start (call.holder spans)
  /-- The module holds what is in no function. -/
  outside : ∀ call ∈ calls,
    call.holder spans = moduleScope ↔ ∀ span ∈ spans, span.contains call.node.label.start = false
  sites : ∀ function ∈ scan.facts.functions, function.callSites =
    (calls.filter fun call => call.holder spans = function.name ∧ grammar.isBuiltin call.callee = false).map (·.site)
  /-- Together, the functions have the site of each call that the module does not hold, once. -/
  conserved : (scan.facts.functions.flatMap (·.callSites)).Perm ((calls.filter fun call =>
    call.holder spans ≠ moduleScope ∧ grammar.isBuiltin call.callee = false).map (·.site))
  /-- The requests of the file and the sites of language models have the name of their holder. -/
  requests : scan.facts.requests =
    calls.filterMap fun call => analyzer.request? scan.facts.file (call.holder spans) call
  llmSites : scan.llmSites = (calls.filter fun call => analyzer.isLlmCallee scan.llmVariables call.callee).map
    fun call => ⟨call.holder spans, call.callee, call.node.line⟩
  ownRequests : ∀ function ∈ scan.facts.functions,
    function.requests = scan.facts.requests.filter (·.function = function.name)

/-! ## The narrowest span -/

namespace Span

theorem narrowest?_eq_none {spans : List Span} : narrowest? spans = none ↔ spans = [] := by
  cases spans with
  | nil => simp [narrowest?]
  | cons first rest =>
    rw [narrowest?]
    split
    · simp
    · split <;> simp

theorem width_le_of_narrowest? {spans : List Span} {span : Span} (narrowest : narrowest? spans = some span) :
    ∀ other ∈ spans, span.width ≤ other.width := by
  induction spans generalizing span with
  | nil => simp
  | cons first rest ih =>
    rw [narrowest?] at narrowest
    intro other isOther
    split at narrowest
    · next isNone =>
      cases narrowest
      rw [narrowest?_eq_none.mp isNone] at isOther
      exact Nat.le_of_eq (congrArg width (List.mem_singleton.mp isOther).symm)
    · next found isFound =>
      have below := ih isFound
      split at narrowest
      · next narrower =>
        cases narrowest
        rcases List.mem_cons.mp isOther with rfl | isOther
        · exact Nat.le_refl _
        · exact Nat.le_trans narrower (below other isOther)
      · next wider =>
        cases narrowest
        rcases List.mem_cons.mp isOther with rfl | isOther
        · exact Nat.le_of_lt (Nat.lt_of_not_le wider)
        · exact below other isOther

theorem contains_iff {span : Span} {byte : Nat} : span.contains byte = true ↔ span.start ≤ byte ∧ byte < span.stop := by
  simp [contains]

/-- Of two spans with a byte in common that nest, the narrower lies within the other. -/
theorem within_of_width_le {span other : Span} {byte : Nat} (has : span.contains byte = true)
    (otherHas : other.contains byte = true) (nested : span.Within other ∨ other.Within span)
    (narrower : span.width ≤ other.width) : span.Within other := by
  rw [contains_iff] at has otherHas
  unfold Within width at *
  omega

end Span

theorem owner?_eq_none_iff {spans : List Span} {byte : Nat} :
    owner? spans byte = none ↔ ∀ span ∈ spans, span.contains byte = false := by
  rw [owner?, Option.map_eq_none_iff, Span.narrowest?_eq_none, List.filter_eq_nil_iff]
  simp

/-- **The owner of a byte is innermost around it**, where spans that share the byte nest. -/
theorem isInnermost_of_owner? {spans : List Span} {byte : Nat} {owner : String} (owns : owner? spans byte = some owner)
    (nested : ∀ span ∈ spans, ∀ other ∈ spans, span.contains byte = true → other.contains byte = true →
      span.Within other ∨ other.Within span) : IsInnermost spans byte owner := by
  obtain ⟨span, narrowest, rfl⟩ := Option.map_eq_some_iff.mp owns
  obtain ⟨isSpan, has⟩ := List.mem_filter.mp (Span.mem_of_narrowest? narrowest)
  refine ⟨span, isSpan, rfl, has, fun other isOther otherHas => ?_⟩
  have narrower := Span.width_le_of_narrowest? narrowest other (List.mem_filter.mpr ⟨isOther, otherHas⟩)
  exact Span.within_of_width_le has otherHas (nested span isSpan other isOther has otherHas) narrower

/-! ## Spans are those of nodes -/

/-- The arguments behind the first string are arguments. -/
theorem mem_of_firstString? {arguments behind : List ParseTree} {value : String}
    (found : ParseTree.firstString? arguments = some (value, behind)) {argument : ParseTree}
    (isBehind : argument ∈ behind) : argument ∈ arguments := by
  induction arguments with
  | nil => cases found
  | cons first rest ih =>
    rw [ParseTree.firstString?] at found
    split at found
    · cases found
      exact List.mem_cons_of_mem first isBehind
    · exact List.mem_cons_of_mem first (ih found)

theorem mem_of_server? {references : Bool} {arguments : List ParseTree} {node : ParseTree}
    (found : server? references arguments = some (.inline node)) : node ∈ arguments := by
  obtain ⟨argument, isArgument, found⟩ := Option.bind_eq_some_iff.mp found
  have isArgument := List.mem_reverse.mp (List.mem_of_find?_eq_some isArgument)
  split at found
  · cases found
    exact isArgument
  · cases found

/-- A function that is written in place for a route is an argument of the call. -/
theorem mem_of_registration? {objects : Http.Objects} {callee : String} {arguments : List ParseTree} {node : ParseTree}
    {registration : Registration} (found : registration? objects callee arguments = some registration)
    (inline : registration.server = .inline node) : node ∈ arguments := by
  obtain ⟨_, behind, _, isString, _, isServer⟩ := exists_of_registration? found
  rw [inline] at isServer
  exact mem_of_firstString? isString (mem_of_server? isServer)

namespace Analyzer

variable {analyzer : Analyzer} {grammar : Grammar} {root : ParseTree}

theorem mem_nodes_of_inline? {route : FoundRoute} (isRoute : route ∈ analyzer.foundRoutes (grammar.foundCalls root))
    {definition : Definition} (inline : route.inline? = some definition) : definition.node ∈ root.nodes := by
  obtain ⟨call, isCall, registered⟩ := List.mem_filterMap.mp isRoute
  obtain ⟨registration, isRegistration, rfl⟩ := Option.map_eq_some_iff.mp registered
  unfold FoundRoute.inline? at inline
  split at inline
  · cases inline
  · next node isInline =>
    cases inline
    exact ParseTree.mem_nodes_trans (mem_nodes_of_foundCalls isCall)
      (ParseTree.mem_nodes_of_arguments (mem_of_registration? isRegistration isInline))

/-- **The functions of a tree are nodes of it.** -/
theorem mem_nodes_of_functionNodes {definition : Definition} (isFunction : definition ∈ analyzer.functionNodes grammar root) :
    definition.node ∈ root.nodes := by
  rcases List.mem_append.mp isFunction with isDefinition | isInlined
  · exact mem_nodes_of_definitions isDefinition
  · obtain ⟨route, isRoute, inline⟩ := List.mem_filterMap.mp isInlined
    exact mem_nodes_of_inline? isRoute inline

/-- The spans of functions that share a byte nest. -/
theorem functionSpans_nested (wellFormed : root.WellFormed) {byte : Nat} {span other : Span}
    (isSpan : span ∈ analyzer.functionSpans grammar root) (isOther : other ∈ analyzer.functionSpans grammar root)
    (has : span.contains byte = true) (otherHas : other.contains byte = true) :
    span.Within other ∨ other.Within span := by
  obtain ⟨first, isFirst, rfl⟩ := List.mem_map.mp isSpan
  obtain ⟨second, isSecond, rfl⟩ := List.mem_map.mp isOther
  exact wellFormed.nested (mem_nodes_of_functionNodes isFirst) (mem_nodes_of_functionNodes isSecond)
    (Span.contains_iff.mp has) (Span.contains_iff.mp otherHas)

end Analyzer

/-! ## What a function is given -/

namespace AttributedCall

variable {analyzer : Analyzer} {file : SourcePath} {spans : List Span} {variableNames : List String}
  {calls : List FoundCall} {name : String}

/-- What a function owns is what it holds. -/
theorem ownedBy_attributed (inFunction : name ≠ moduleScope) :
    ownedBy name (calls.map (analyzer.attributeCall file spans variableNames)) =
      (calls.filter fun call => call.holder spans = name).map (analyzer.attributeCall file spans variableNames) := by
  have owned : ∀ call : FoundCall, ((analyzer.attributeCall file spans variableNames call).owner == some name) =
      decide (call.holder spans = name) := by
    intro call
    rw [← ownerName_beq inFunction, beq_eq_decide]
    rfl
  rw [ownedBy, List.filter_map, Function.comp_def]
  simp only [owned]

theorem sites_attributed (isBuiltin : String → Bool) :
    sites isBuiltin (calls.map (analyzer.attributeCall file spans variableNames)) =
      (calls.filter fun call => isBuiltin call.callee = false).map (·.site) := by
  simp [sites, List.filter_map, Function.comp_def, Analyzer.attributeCall, FoundCall.site]

theorem requests_attributed : requests (calls.map (analyzer.attributeCall file spans variableNames)) =
    calls.filterMap fun call => analyzer.request? file (call.holder spans) call := by
  rw [requests, List.filterMap_map]
  rfl

end AttributedCall

/-- A request has the name of the function that sends it. -/
theorem Analyzer.function_of_request? {analyzer : Analyzer} {file : SourcePath} {function : String} {call : FoundCall}
    {request : Request} (sent : analyzer.request? file function call = some request) : request.function = function := by
  obtain ⟨_, _, sent⟩ := Option.bind_eq_some_iff.mp sent
  obtain ⟨_, _, sent⟩ := Option.bind_eq_some_iff.mp sent
  cases sent
  rfl

/-- The requests of the calls that a function holds are those with its name. -/
theorem requests_of_holder (analyzer : Analyzer) (file : SourcePath) (spans : List Span) (calls : List FoundCall)
    (name : String) :
    ((calls.filter fun call => call.holder spans = name).filterMap fun call =>
      analyzer.request? file (call.holder spans) call) =
    (calls.filterMap fun call => analyzer.request? file (call.holder spans) call).filter (·.function = name) := by
  rw [List.filter_filterMap, List.filterMap_filter]
  refine List.filterMap_congr fun call _ => ?_
  cases sent : analyzer.request? file (call.holder spans) call with
  | none => simp
  | some request =>
    have sender := Analyzer.function_of_request? sent
    by_cases holds : call.holder spans = name
    · simp [Option.filter, sender, holds]
    · simp [Option.filter, sender, holds]

/-! ## The scan -/

namespace Analyzer

section Scan

variable {analyzer : Analyzer} {language : Language} {file : SourcePath} {code : String} {root : ParseTree}

/-- The calls of a scan that register no route, with their owners. -/
def attributedCalls (analyzer : Analyzer) (language : Language) (file : SourcePath) (code : String) (root : ParseTree) :
    List AttributedCall :=
  (analyzer.plainCalls language.grammar root).map (analyzer.attributeCall file
    (analyzer.functionSpans language.grammar root) (analyzer.scan language file code root).llmVariables)

/-- A function of a scan has the sites and the requests of what its name owns. -/
theorem filled_of_mem {function : FunctionFacts}
    (isFunction : function ∈ (analyzer.scan language file code root).facts.functions) :
    function.callSites = AttributedCall.sites language.grammar.isBuiltin
      (AttributedCall.ownedBy function.name (analyzer.attributedCalls language file code root)) ∧
    function.requests = AttributedCall.requests
      (AttributedCall.ownedBy function.name (analyzer.attributedCalls language file code root)) := by
  obtain ⟨bare, _, rfl⟩ := List.mem_map.mp isFunction
  exact ⟨rfl, rfl⟩

theorem requests_scan : (analyzer.scan language file code root).facts.requests =
    (analyzer.plainCalls language.grammar root).filterMap fun call =>
      analyzer.request? file (call.holder (analyzer.functionSpans language.grammar root)) call := by
  rw [← AttributedCall.requests_attributed]
  rfl

theorem llmSites_scan : (analyzer.scan language file code root).llmSites =
    ((analyzer.plainCalls language.grammar root).filter fun call =>
      analyzer.isLlmCallee (analyzer.scan language file code root).llmVariables call.callee).map fun call =>
        ⟨call.holder (analyzer.functionSpans language.grammar root), call.callee, call.node.line⟩ := by
  show AttributedCall.llmSites (analyzer.attributedCalls language file code root) = _
  simp only [AttributedCall.llmSites, attributedCalls, List.filter_map, List.map_map]
  rfl

theorem holder_of_owner? {spans : List Span} {call : FoundCall} {owner : String}
    (owns : owner? spans call.node.label.start = some owner) : call.holder spans = owner := by
  rw [FoundCall.holder, owns, Option.getD_some]

/-- What the module does not hold has an owner. -/
theorem owner?_of_holder_ne {spans : List Span} {call : FoundCall} (inFunction : call.holder spans ≠ moduleScope) :
    owner? spans call.node.label.start = some (call.holder spans) := by
  cases owns : owner? spans call.node.label.start with
  | none => exact absurd (by rw [FoundCall.holder, owns, Option.getD_none]) inFunction
  | some owner => rw [holder_of_owner? owns]

variable (inFunctions : ∀ function ∈ (analyzer.scan language file code root).facts.functions, function.name ≠ moduleScope)

/-- An owner is a function of the scan. -/
theorem mem_names_of_owner? (file : SourcePath) (code : String) {byte : Nat} {owner : String}
    (owns : owner? (analyzer.functionSpans language.grammar root) byte = some owner) :
    owner ∈ (analyzer.scan language file code root).facts.functions.map (·.name) := by
  rw [names_scan, List.mem_eraseDups]
  simpa [functionSpans, Span.ofNode, Function.comp_def] using mem_owners_of_owner? owns

include inFunctions

/-- The module holds the calls without an owner. -/
theorem holder_eq_moduleScope_iff {call : FoundCall} :
    call.holder (analyzer.functionSpans language.grammar root) = moduleScope ↔
      owner? (analyzer.functionSpans language.grammar root) call.node.label.start = none := by
  cases owns : owner? (analyzer.functionSpans language.grammar root) call.node.label.start with
  | none => simp [FoundCall.holder, owns]
  | some owner =>
    obtain ⟨function, isFunction, isNamed⟩ := List.mem_map.mp (mem_names_of_owner? file code owns)
    rw [holder_of_owner? owns, ← isNamed]
    exact iff_of_false (inFunctions function isFunction) (by simp)

/-- A function holds the calls that the module does not. -/
theorem holder_mem_names_iff {call : FoundCall} :
    call.holder (analyzer.functionSpans language.grammar root) ∈
      (analyzer.scan language file code root).facts.functions.map (·.name) ↔
    call.holder (analyzer.functionSpans language.grammar root) ≠ moduleScope := by
  constructor
  · intro isName
    obtain ⟨function, isFunction, isNamed⟩ := List.mem_map.mp isName
    exact isNamed ▸ inFunctions function isFunction
  · intro inFunction
    exact mem_names_of_owner? file code (owner?_of_holder_ne inFunction)

/-- The site of each call that a function holds, in order. -/
theorem callSites_of_mem {function : FunctionFacts}
    (isFunction : function ∈ (analyzer.scan language file code root).facts.functions) :
    function.callSites = ((analyzer.plainCalls language.grammar root).filter fun call =>
      call.holder (analyzer.functionSpans language.grammar root) = function.name ∧
        language.grammar.isBuiltin call.callee = false).map (·.site) := by
  rw [(filled_of_mem isFunction).1, attributedCalls,
    AttributedCall.ownedBy_attributed (inFunctions function isFunction), AttributedCall.sites_attributed,
    List.filter_filter]
  simp [Bool.and_comm]

theorem requests_of_mem {function : FunctionFacts}
    (isFunction : function ∈ (analyzer.scan language file code root).facts.functions) :
    function.requests = (analyzer.scan language file code root).facts.requests.filter (·.function = function.name) := by
  rw [(filled_of_mem isFunction).2, attributedCalls,
    AttributedCall.ownedBy_attributed (inFunctions function isFunction), AttributedCall.requests_attributed,
    requests_of_holder, requests_scan]

/-- **No call is lost and none is listed twice.** -/
theorem callSites_perm : ((analyzer.scan language file code root).facts.functions.flatMap (·.callSites)).Perm
    (((analyzer.plainCalls language.grammar root).filter fun call =>
      call.holder (analyzer.functionSpans language.grammar root) ≠ moduleScope ∧
        language.grammar.isBuiltin call.callee = false).map (·.site)) := by
  have unique : ((analyzer.scan language file code root).facts.functions.map (·.name)).Nodup :=
    (analyzer.scan_folds language file code root).names.nodup
  have listed : (analyzer.scan language file code root).facts.functions.flatMap (·.callSites) =
      (((analyzer.scan language file code root).facts.functions.map (·.name)).flatMap fun name =>
        ((analyzer.plainCalls language.grammar root).filter fun call => language.grammar.isBuiltin call.callee = false).filter
          fun call => call.holder (analyzer.functionSpans language.grammar root) = name).map (·.site) := by
    rw [List.flatMap_map, List.map_flatMap]
    refine List.flatMap_congr fun function isFunction => ?_
    rw [callSites_of_mem inFunctions isFunction, List.filter_filter]
    simp
  have held : (analyzer.plainCalls language.grammar root).filter (fun call =>
      call.holder (analyzer.functionSpans language.grammar root) ≠ moduleScope ∧
        language.grammar.isBuiltin call.callee = false) =
      ((analyzer.plainCalls language.grammar root).filter fun call => language.grammar.isBuiltin call.callee = false).filter
        fun call => call.holder (analyzer.functionSpans language.grammar root) ∈
          (analyzer.scan language file code root).facts.functions.map (·.name) := by
    rw [List.filter_filter]
    refine List.filter_congr fun call _ => ?_
    simp only [holder_mem_names_iff inFunctions, Bool.decide_and]
  rw [listed, held]
  exact (flatMap_filter_key_perm unique _ _).map _

end Scan

/-- **Each call has one place**: an innermost function around it holds it, or the module. -/
theorem scan_attributes (analyzer : Analyzer) (language : Language) (file : SourcePath) (code : String) (root : ParseTree)
    (wellFormed : root.WellFormed)
    (inFunctions : ∀ function ∈ (analyzer.scan language file code root).facts.functions, function.name ≠ moduleScope) :
    (analyzer.scan language file code root).Attributes analyzer language.grammar
      (analyzer.functionSpans language.grammar root) (analyzer.plainCalls language.grammar root) where
  innermost := by
    intro call _ inFunction
    refine ⟨(holder_mem_names_iff inFunctions).mpr inFunction, ?_⟩
    refine isInnermost_of_owner? (owner?_of_holder_ne inFunction) ?_
    intro span isSpan other isOther
    exact functionSpans_nested wellFormed isSpan isOther
  outside := by
    intro call _
    rw [holder_eq_moduleScope_iff inFunctions, owner?_eq_none_iff]
  sites := fun _ isFunction => callSites_of_mem inFunctions isFunction
  conserved := callSites_perm inFunctions
  requests := requests_scan
  llmSites := llmSites_scan
  ownRequests := fun _ isFunction => requests_of_mem inFunctions isFunction

end Analyzer

/-- A function written in place for a route, one in another, and calls in each of them and outside. -/
def routedTree : ParseTree :=
  sampleNode "module" "" "app.get('/a', lambda: ask())\ndef main():\n  def go(): fetch('/b')\n  go()\nmain()" 0 0
    [sampleNode "call" "" "app.get('/a', lambda: ask())" 0 1
      [sampleNode "attribute" "function" "app.get" 0 2,
        sampleNode "argument_list" "arguments" "('/a', lambda: ask())" 7 3
          [sampleNode "string" "" "'/a'" 8 4,
            sampleNode "lambda" "" "lambda: ask()" 14 5
              [sampleNode "call" "body" "ask()" 22 6
                [sampleNode "identifier" "function" "ask" 22 7, sampleNode "argument_list" "arguments" "()" 25 8]]]],
      sampleNode "function_definition" "" "def main():\n  def go(): fetch('/b')\n  go()" 29 9
        [sampleNode "identifier" "name" "main" 33 10,
          sampleNode "function_definition" "" "def go(): fetch('/b')" 43 11
            [sampleNode "identifier" "name" "go" 47 12,
              sampleNode "call" "" "fetch('/b')" 53 13
                [sampleNode "identifier" "function" "fetch" 53 14,
                  sampleNode "argument_list" "arguments" "('/b')" 58 15 [sampleNode "string" "" "'/b'" 59 16]]],
          sampleNode "call" "" "go()" 67 17
            [sampleNode "identifier" "function" "go" 67 18, sampleNode "argument_list" "arguments" "()" 69 19]],
      sampleNode "call" "" "main()" 72 20
        [sampleNode "identifier" "function" "main" 72 21, sampleNode "argument_list" "arguments" "()" 76 22]]

def routeAnalyzer : Analyzer :=
  { askAnalyzer with objects := ⟨["app"], []⟩ }

theorem scan_attributes_routed : routedTree.WellFormed ∧
    (routeAnalyzer.functionNodes Grammar.python routedTree).map (·.name) = ["main", "go", "GET /a"] ∧
    (routeAnalyzer.plainCalls Grammar.python routedTree).map (fun call =>
      (call.callee, call.holder (routeAnalyzer.functionSpans Grammar.python routedTree))) =
      [("ask", "GET /a"), ("fetch", "go"), ("go", "main"), ("main", moduleScope)] ∧
    (routeAnalyzer.scan .python ⟨"a.py"⟩ routedTree.text routedTree).Attributes routeAnalyzer Grammar.python
      (routeAnalyzer.functionSpans Grammar.python routedTree) (routeAnalyzer.plainCalls Grammar.python routedTree) := by
  have functions := Query.run_of_sorted Grammar.python.functions routedTree (by decide +kernel)
  have calls := Query.run_of_sorted Grammar.python.calls routedTree (by decide +kernel)
  have wellFormed : routedTree.WellFormed := by decide +kernel
  have names : (routeAnalyzer.functionNodes Grammar.python routedTree).map (·.name) = ["main", "go", "GET /a"] := by
    rw [Analyzer.functionNodes, Grammar.definitions, Grammar.foundCalls, functions, calls]
    decide +kernel
  have holders : (routeAnalyzer.plainCalls Grammar.python routedTree).map (fun call =>
      (call.callee, call.holder (routeAnalyzer.functionSpans Grammar.python routedTree))) =
      [("ask", "GET /a"), ("fetch", "go"), ("go", "main"), ("main", moduleScope)] := by
    rw [Analyzer.plainCalls, Analyzer.functionSpans, Analyzer.functionNodes, Grammar.definitions, Grammar.foundCalls,
      functions, calls]
    decide +kernel
  have inFunctions : ∀ function ∈ (routeAnalyzer.scan .python ⟨"a.py"⟩ routedTree.text routedTree).facts.functions,
      function.name ≠ moduleScope := by
    intro function isFunction
    have isName := List.mem_map_of_mem (f := (·.name)) isFunction
    rw [Analyzer.names_scan, Language.grammar, names] at isName
    rintro same
    rw [same] at isName
    exact absurd isName (by decide)
  exact ⟨wellFormed, names, holders, routeAnalyzer.scan_attributes .python ⟨"a.py"⟩ routedTree.text routedTree
    wellFormed inFunctions⟩

end WorkflowAtlas
