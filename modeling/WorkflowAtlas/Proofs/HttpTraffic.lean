import WorkflowAtlas.Proofs.EndpointForm
import WorkflowAtlas.Proofs.FlowEdges
import WorkflowAtlas.Proofs.ViewAgreement

/-!
# Routes and requests are addressed

Routes are found in three ways, as calls on routers, by decorators and by the place of a file, and requests in
two, as calls on clients and as `fetch`. Each way reads a method and a path off source text by itself.

**The law** (`repository_addressed`): however it was found, what a repository lists is **addressed**: its
method is a verb in upper case and its path is normal. So the label of every edge that has one crosses an
HTTP boundary, which is what the detection of workflows goes by.

Nothing is assumed of parse trees, settings and paths. A path that comes from the place of a file is normal
as well, since its slash in front gives it an endpoint.
-/

namespace WorkflowAtlas

open WorkflowAtlas.Http

/-- **A method and a path in normal form**: a verb in upper case and a normal path. -/
structure Http.IsAddress (method path : String) : Prop where
  isVerb : method ∈ verbs
  isPath : IsNormalPath path

theorem Http.mem_verbs_of_verb? {name verb : String} (found : verb? name = some verb) : verb ∈ verbs :=
  List.mem_of_find?_eq_some found

/-- A verb is its own. -/
theorem Http.verb?_isSome {verb : String} (isVerb : verb ∈ verbs) : (verb? verb).isSome :=
  List.find?_isSome.mpr ⟨verb, isVerb, by simp [sameButCase]⟩

theorem Http.IsAddress.isLabel {method path : String} (address : IsAddress method path) :
    isLabel (method ++ " " ++ path) :=
  isLabel_append (verb?_isSome address.isVerb) address.isPath.slash

/-- What is found behind a test was found with the test passed. -/
theorem found_of_guard {α : Type} {stop : Bool} {rest : Unit → Option α} {result : α}
    (found : (if stop then none >>= rest else rest ()) = some result) : stop = false ∧ rest () = some result := by
  cases stop with
  | false => exact ⟨rfl, found⟩
  | true => cases found

/-! ## Routes -/

variable {objects : Objects} {callee : String} {arguments : List ParseTree}

/-- **What a registration is read off**: a verb, a path, and a function behind it. -/
theorem exists_of_registration? {registration : Registration}
    (found : registration? objects callee arguments = some registration) : ∃ references behind,
      verb? (Callee.simpleName callee) = some registration.method ∧
      ParseTree.firstString? arguments = some (registration.rawPath, behind) ∧
      endpoint? registration.rawPath = some registration.path ∧ server? references behind = some registration.server := by
  unfold registration? at found
  obtain ⟨object, _, found⟩ := Option.bind_eq_some_iff.mp found
  obtain ⟨_, found⟩ := found_of_guard found
  obtain ⟨method, isMethod, found⟩ := Option.bind_eq_some_iff.mp found
  obtain ⟨⟨rawPath, behind⟩, isString, found⟩ := Option.bind_eq_some_iff.mp found
  obtain ⟨path, isPath, found⟩ := Option.bind_eq_some_iff.mp found
  obtain ⟨server, isServer, found⟩ := Option.bind_eq_some_iff.mp found
  cases found
  exact ⟨!objects.isClient object, behind, isMethod, isString, isPath, isServer⟩

theorem isAddress_of_registration? {registration : Registration}
    (found : registration? objects callee arguments = some registration) :
    IsAddress registration.method registration.path := by
  obtain ⟨_, _, isMethod, _, isPath, _⟩ := exists_of_registration? found
  exact ⟨mem_verbs_of_verb? isMethod, isNormalPath_of_endpoint? isPath⟩

/-- A decorator declares verbs, whether by its name, by a list or by neither. -/
theorem mem_verbs_of_declaredVerbs {name method : String} (declared : method ∈ declaredVerbs name arguments) :
    method ∈ verbs := by
  unfold declaredVerbs at declared
  split at declared
  · split at declared
    · rw [List.mem_singleton.mp declared]
      decide
    · obtain ⟨_, _, found⟩ := List.mem_filterMap.mp declared
      exact mem_verbs_of_verb? found
  · exact mem_verbs_of_verb? (Option.mem_toList.mp declared)

theorem isAddress_of_declaredRoutes {method rawPath path : String}
    (declared : (method, rawPath, path) ∈ declaredRoutes objects callee arguments) : IsAddress method path := by
  simp only [declaredRoutes] at declared
  split at declared
  · exact absurd declared List.not_mem_nil
  · next written normal found =>
    obtain ⟨verb, isVerb, same⟩ := List.mem_map.mp declared
    cases same
    refine ⟨mem_verbs_of_declaredVerbs isVerb, ?_⟩
    obtain ⟨object, _, found⟩ := Option.bind_eq_some_iff.mp found
    obtain ⟨_, found⟩ := found_of_guard found
    obtain ⟨⟨raw, _⟩, _, found⟩ := Option.bind_eq_some_iff.mp found
    obtain ⟨_, isPath, found⟩ := Option.bind_eq_some_iff.mp found
    cases found
    exact isNormalPath_of_endpoint? isPath

theorem isAddress_of_mem_decoratorRoutes {grammar : Grammar} {file : SourcePath} {root : ParseTree}
    {route : RouteHandler} (member : route ∈ decoratorRoutes grammar objects file root) :
    IsAddress route.method route.path := by
  obtain ⟨captures, _, member⟩ := List.mem_flatMap.mp member
  split at member
  · obtain ⟨decorator, _, member⟩ := List.mem_flatMap.mp member
    split at member
    · exact absurd member List.not_mem_nil
    · obtain ⟨⟨method, rawPath, path⟩, declared, rfl⟩ := List.mem_map.mp member
      exact isAddress_of_declaredRoutes declared
  · exact absurd member List.not_mem_nil

/-- A route by the place of a file has a slash in front. -/
theorem Http.Convention.startsWith_route? {convention : Convention} {file : SourcePath} {route : String}
    (found : convention.route? file = some route) : Text.startsWith route "/" := by
  unfold route? at found
  obtain ⟨stem, _, found⟩ := Option.bind_eq_some_iff.mp found
  obtain ⟨extension, _, found⟩ := Option.bind_eq_some_iff.mp found
  obtain ⟨_, found⟩ := found_of_guard found
  obtain ⟨below, _, found⟩ := Option.bind_eq_some_iff.mp found
  cases found
  simp [Text.startsWith]

theorem isAddress_of_mem_conventionRoutes {conventions : List Convention} {file : SourcePath}
    {functions : List FunctionFacts} {route : RouteHandler} (member : route ∈ conventionRoutes conventions file functions) :
    IsAddress route.method route.path := by
  unfold conventionRoutes at member
  split at member
  · exact absurd member List.not_mem_nil
  · next place found =>
    obtain ⟨function, chosen, rfl⟩ := List.mem_map.mp member
    obtain ⟨convention, _, isPlace⟩ := List.exists_of_findSome?_eq_some found
    obtain ⟨path, isPath⟩ := Option.isSome_iff_exists.mp (endpoint?_isSome (Convention.startsWith_route? isPlace))
    rw [List.mem_filter, Bool.and_eq_true, decide_eq_true_iff] at chosen
    rw [isPath]
    exact ⟨chosen.2.2, isNormalPath_of_endpoint? isPath⟩

/-! ## Requests -/

theorem optionsVerb?_mem {options : ParseTree} {verb : String} (found : optionsVerb? options = some verb) :
    verb ∈ verbs := by
  unfold optionsVerb? at found
  obtain ⟨pair, _, found⟩ := Option.bind_eq_some_iff.mp found
  obtain ⟨value, _, found⟩ := Option.bind_eq_some_iff.mp found
  obtain ⟨text, _, found⟩ := Option.bind_eq_some_iff.mp found
  exact mem_verbs_of_verb? found

theorem mem_verbs_of_sentRequest? {method rawPath : String}
    (sent : sentRequest? objects callee arguments = some (method, rawPath)) : method ∈ verbs := by
  unfold sentRequest? at sent
  split at sent
  · obtain ⟨⟨raw, behind⟩, _, sent⟩ := Option.bind_eq_some_iff.mp sent
    cases sent
    cases found : behind.head?.bind optionsVerb? with
    | none => decide
    | some verb =>
      obtain ⟨options, _, isVerb⟩ := Option.bind_eq_some_iff.mp found
      exact optionsVerb?_mem isVerb
  · obtain ⟨object, _, sent⟩ := Option.bind_eq_some_iff.mp sent
    obtain ⟨_, sent⟩ := found_of_guard sent
    obtain ⟨verb, isVerb, sent⟩ := Option.bind_eq_some_iff.mp sent
    obtain ⟨⟨raw, _⟩, _, sent⟩ := Option.bind_eq_some_iff.mp sent
    cases sent
    exact mem_verbs_of_verb? isVerb

theorem Analyzer.isAddress_of_request? {analyzer : Analyzer} {file : SourcePath} {function : String} {call : FoundCall}
    {request : Request} (sent : analyzer.request? file function call = some request) :
    IsAddress request.method request.path := by
  obtain ⟨⟨method, rawPath⟩, isSent, sent⟩ := Option.bind_eq_some_iff.mp sent
  obtain ⟨path, isPath, sent⟩ := Option.bind_eq_some_iff.mp sent
  cases sent
  exact ⟨mem_verbs_of_sentRequest? isSent, isNormalPath_of_endpoint? isPath⟩

/-! ## Files and repositories -/

/-- **A file whose routes and requests are addressed**, the requests of its functions among them. -/
structure FileFacts.IsAddressed (facts : FileFacts) : Prop where
  routes : ∀ route ∈ facts.routes, IsAddress route.method route.path
  requests : ∀ request ∈ facts.requests, IsAddress request.method request.path
  owned : ∀ function ∈ facts.functions, ∀ request ∈ function.requests, IsAddress request.method request.path

theorem AttributedCall.isAddress_of_mem_requests {calls : List FoundCall} {analyzer : Analyzer} {file : SourcePath}
    {spans : List Span} {variableNames : List String} {chosen : List AttributedCall} {request : Request}
    (among : ∀ call ∈ chosen, call ∈ calls.map (analyzer.attributeCall file spans variableNames))
    (member : request ∈ AttributedCall.requests chosen) : IsAddress request.method request.path := by
  obtain ⟨attributed, isChosen, isRequest⟩ := List.mem_filterMap.mp member
  obtain ⟨call, _, rfl⟩ := List.mem_map.mp (among attributed isChosen)
  exact Analyzer.isAddress_of_request? isRequest

theorem Analyzer.scan_addressed (analyzer : Analyzer) (language : Language) (file : SourcePath) (code : String)
    (root : ParseTree) : (analyzer.scan language file code root).facts.IsAddressed where
  routes := by
    intro route member
    rcases List.mem_append.mp member with member | byPlace
    · rcases List.mem_append.mp member with byCall | byDecorator
      · obtain ⟨found, isFound, rfl⟩ := List.mem_map.mp byCall
        obtain ⟨call, _, registered⟩ := List.mem_filterMap.mp isFound
        obtain ⟨registration, isRegistration, rfl⟩ := Option.map_eq_some_iff.mp registered
        exact isAddress_of_registration? isRegistration
      · exact isAddress_of_mem_decoratorRoutes byDecorator
    · exact isAddress_of_mem_conventionRoutes byPlace
  requests := by
    intro request member
    exact AttributedCall.isAddress_of_mem_requests (fun _ isCall => isCall) member
  owned := by
    intro function isFunction request member
    obtain ⟨listed, _, rfl⟩ := List.mem_map.mp isFunction
    exact AttributedCall.isAddress_of_mem_requests (fun _ isCall => List.mem_of_mem_filter isCall) member

theorem Analyzer.fileFacts_addressed (analyzer : Analyzer) (file : SourcePath) (code : String)
    (tree : Option ParseTree) : (analyzer.fileFacts file code tree).IsAddressed := by
  unfold fileFacts
  cases scanned : analyzer.scan? file code tree with
  | none => exact ⟨by simp, by simp, by simp⟩
  | some scan =>
    obtain ⟨language, _, _, root, _, rfl⟩ := scan?_eq_some.mp scanned
    exact analyzer.scan_addressed language file code root

theorem Analyzer.repositoryFile?_addressed {analyzer : Analyzer} {file : SourceFile} {facts : FileFacts}
    (found : analyzer.repositoryFile? file = some facts) : facts.IsAddressed := by
  obtain ⟨_, _, rfl⟩ := Option.map_eq_some_iff.mp found
  have addressed := analyzer.fileFacts_addressed file.path.normalize.toPath file.content file.tree
  exact ⟨addressed.routes, addressed.requests, addressed.owned⟩

/-- Setting flags leaves routes and requests alone. -/
theorem FileFacts.IsAddressed.withFlags {facts : FileFacts} (addressed : facts.IsAddressed)
    (flagged : List FunctionKey) : (facts.withFlags flagged).IsAddressed where
  routes := addressed.routes
  requests := addressed.requests
  owned := by
    intro function isFunction
    obtain ⟨unflagged, isUnflagged, rfl⟩ := List.mem_map.mp isFunction
    exact addressed.owned unflagged isUnflagged

/-- A connection is made with one of the routes. -/
theorem handler_mem_of_mem_connect {requests : List Request} {routes : List RouteHandler} {connection : Connection}
    (member : connection ∈ connect requests routes) : connection.handler ∈ routes := by
  obtain ⟨client, _, member⟩ := List.mem_flatMap.mp member
  obtain ⟨handler, isRoute, matched⟩ := List.mem_filterMap.mp member
  obtain ⟨confidence, _, rfl⟩ := Option.map_eq_some_iff.mp matched
  exact isRoute

/-- Where the routes of a repository are addressed, an edge with a label crosses an HTTP boundary. -/
theorem Repository.isLabel_of_mem_flowEdges {files : List FileFacts} {edge : FlowEdge} {label : String}
    (addressed : ∀ route ∈ (link files).routes, IsAddress route.method route.path)
    (member : edge ∈ (link files).flowEdges) (labelled : edge.label = some label) : isLabel label := by
  rcases List.mem_append.mp (mem_of_mem_flowEdges member).1 with isCall | isRequest
  · rw [unlabelled_of_mem_callEdges isCall] at labelled
    cases labelled
  · obtain ⟨connection, isConnection, _, _, _, rfl⟩ := mem_requestEdges.mp isRequest
    cases labelled
    exact (addressed _ (handler_mem_of_mem_connect isConnection)).isLabel

/-- **What a repository lists is addressed, and its labels cross HTTP boundaries.** -/
theorem Analyzer.repository_addressed (analyzer : Analyzer) (files : List SourceFile) :
    (∀ facts ∈ (analyzer.repository files).files, facts.IsAddressed) ∧
    (∀ route ∈ (analyzer.repository files).routes, IsAddress route.method route.path) ∧
    (∀ request ∈ (analyzer.repository files).requests, IsAddress request.method request.path) ∧
    ∀ edge ∈ (analyzer.repository files).flowGraph.2, ∀ label, edge.label = some label → isLabel label := by
  have read : ∀ facts ∈ files.filterMap analyzer.repositoryFile?, facts.IsAddressed := by
    intro facts member
    obtain ⟨_, _, found⟩ := List.mem_filterMap.mp member
    exact repositoryFile?_addressed found
  have routes : ∀ route ∈ (analyzer.repository files).routes, IsAddress route.method route.path := by
    intro route member
    obtain ⟨facts, isFile, isRoute⟩ := List.mem_flatMap.mp member
    exact (read facts isFile).routes route isRoute
  refine ⟨?_, routes, ?_, fun edge member label => Repository.isLabel_of_mem_flowEdges routes member⟩
  · intro facts member
    obtain ⟨unflagged, isFile, rfl⟩ := List.mem_map.mp member
    exact (read unflagged isFile).withFlags _
  · intro request member
    obtain ⟨facts, isFile, isRequest⟩ := List.mem_flatMap.mp member
    exact (read facts isFile).requests request isRequest

/-- A function that serves a route by the place of its file, and one that fetches it. -/
def chatSources : List SourceFile :=
  let handler := sampleNode "program" "" "export const GET = () => client.chat()" 0 0
    [sampleNode "export_statement" "" "export const GET = () => client.chat()" 0 1
      [sampleNode "lexical_declaration" "declaration" "const GET = () => client.chat()" 7 2
        [sampleNode "variable_declarator" "" "GET = () => client.chat()" 13 3
          [sampleNode "identifier" "name" "GET" 13 4,
            sampleNode "arrow_function" "value" "() => client.chat()" 19 5
              [sampleNode "call_expression" "body" "client.chat()" 25 6
                [sampleNode "member_expression" "function" "client.chat" 25 7,
                  sampleNode "arguments" "arguments" "()" 36 8]]]]]]
  let page := sampleNode "program" "" "const send = () => fetch('/chat/?q=1')" 0 0
    [sampleNode "lexical_declaration" "" "const send = () => fetch('/chat/?q=1')" 0 1
      [sampleNode "variable_declarator" "" "send = () => fetch('/chat/?q=1')" 6 2
        [sampleNode "identifier" "name" "send" 6 3,
          sampleNode "arrow_function" "value" "() => fetch('/chat/?q=1')" 13 4
            [sampleNode "call_expression" "body" "fetch('/chat/?q=1')" 19 5
              [sampleNode "identifier" "function" "fetch" 19 6,
                sampleNode "arguments" "arguments" "('/chat/?q=1')" 24 7
                  [sampleNode "string" "" "'/chat/?q=1'" 25 8]]]]]]
  [⟨⟨"app/chat/route.ts"⟩, handler.text, some handler⟩, ⟨⟨"page.ts"⟩, page.text, some page⟩]

theorem repository_addressed_chat : ∃ edge ∈ (askAnalyzer.repository chatSources).flowGraph.2,
    edge.source = "page.ts::send" ∧ edge.label = some "GET /chat" ∧ isLabel "GET /chat" := by
  have found : ∃ edge ∈ (askAnalyzer.repository chatSources).flowGraph.2,
      edge.source = "page.ts::send" ∧ edge.label = some "GET /chat" := by
    rw [Analyzer.repository, Repository.link_of_sorted (by decide +kernel)]
    decide +kernel
  obtain ⟨edge, member, isSend, labelled⟩ := found
  exact ⟨edge, member, isSend, labelled,
    (askAnalyzer.repository_addressed chatSources).2.2.2 edge member _ labelled⟩

end WorkflowAtlas
