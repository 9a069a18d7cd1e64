import WorkflowAtlas.Proofs.ViewAgreement

/-!
# The facts of a scan are consistent

Functions are read off definitions and off the functions that are written in place for routes, and what they
call is filled in from attributed calls.

**The law** (`scan_consistent`): in any language, whatever the tree and the settings, functions have different
names, each lists what its call sites show, once and as it is first seen, and what is exported is listed in
order with the name of every exported function. Definitions of one name fold into the first of them, and so do
the functions that are written in place for one route (`FileFacts.Folds`).
-/

namespace WorkflowAtlas

/-- **The functions that a tree has**: its definitions, then what is written in place for its routes. -/
def Analyzer.functionNodes (analyzer : Analyzer) (grammar : Grammar) (root : ParseTree) : List Definition :=
  grammar.definitions root ++ (analyzer.foundRoutes (grammar.foundCalls root)).filterMap (·.inline?)

/-- **Facts that are consistent**: functions, what they list and what is exported. -/
structure FileFacts.IsConsistent (facts : FileFacts) : Prop where
  names : (facts.functions.map (·.name)).Nodup
  /-- A function lists the callees of its call sites, each once and as it is first seen. -/
  calls : ∀ function ∈ facts.functions,
    function.calls.Nodup ∧ FirstSeen (function.callSites.map (·.callee)) function.calls
  llmCalls : ∀ function ∈ facts.functions, function.llmCalls.Nodup
  exports : facts.exports.Pairwise (· < ·)
  exported : ∀ function ∈ facts.functions, function.isExported = true → function.name ∈ facts.exports

/-- **Functions of one name fold into the first of them**, where that comes in the list and in the file. -/
structure FileFacts.Folds (facts : FileFacts) (nodes : List Definition) : Prop where
  names : FirstSeen (nodes.map (·.name)) (facts.functions.map (·.name))
  places : ∀ function ∈ facts.functions, ∃ definition, nodes.find? (·.name == function.name) = some definition ∧
    function.startLine = definition.node.line ∧ function.endLine = definition.node.lastLine

namespace Analyzer

variable (analyzer : Analyzer) (language : Language) (file : SourcePath) (code : String) (root : ParseTree)

/-- The functions of a scan before their calls are filled in. -/
def bareFunctions : List FunctionFacts :=
  (language.grammar.definitions root).map (·.facts language.grammar file (language.grammar.declaredExports root)) ++
    ((analyzer.foundRoutes (language.grammar.foundCalls root)).filterMap (·.inline?)).map fun definition =>
      { name := definition.name, file, startLine := definition.node.line, endLine := definition.node.lastLine }

/-- The functions and the nodes have the same names and lines, in order. -/
theorem places_bareFunctions :
    (analyzer.bareFunctions language file root).map (fun bare => (bare.name, bare.startLine, bare.endLine)) =
      (analyzer.functionNodes language.grammar root).map fun definition =>
        (definition.name, definition.node.line, definition.node.lastLine) := by
  simp [bareFunctions, functionNodes, Definition.facts, Function.comp_def]

theorem names_scan : (analyzer.scan language file code root).facts.functions.map (·.name) =
    ((analyzer.functionNodes language.grammar root).map (·.name)).eraseDups := by
  have names : (analyzer.bareFunctions language file root).map (·.name) =
      (analyzer.functionNodes language.grammar root).map (·.name) := by
    simpa [Function.comp_def] using congrArg (List.map (·.1)) (analyzer.places_bareFunctions language file root)
  rw [← names, ← map_eraseDupsBy, bareFunctions]
  exact List.map_map

/-- The first function of a name is read off the first node of that name. -/
theorem exists_node_of_find? {name : String} {bare : FunctionFacts}
    (found : (analyzer.bareFunctions language file root).find? (·.name == name) = some bare) :
    ∃ definition, (analyzer.functionNodes language.grammar root).find? (·.name == name) = some definition ∧
      bare.startLine = definition.node.line ∧ bare.endLine = definition.node.lastLine := by
  have places := congrArg (List.find? (·.1 == name)) (analyzer.places_bareFunctions language file root)
  rw [List.find?_map, List.find?_map, Function.comp_def, Function.comp_def, found, Option.map_some] at places
  obtain ⟨definition, isFirst, same⟩ := Option.map_eq_some_iff.mp places.symm
  obtain ⟨_, start, stop⟩ := by simpa only [Prod.mk.injEq] using same
  exact ⟨definition, isFirst, start.symm, stop.symm⟩

/-- **Functions of one name fold into the first.** -/
theorem scan_folds : (analyzer.scan language file code root).facts.Folds
    (analyzer.functionNodes language.grammar root) := by
  constructor
  case names =>
    rw [names_scan]
    exact firstSeen_eraseDups _
  case places =>
    intro function isFunction
    obtain ⟨bare, isBare, rfl⟩ := List.mem_map.mp isFunction
    have isFirst : (analyzer.bareFunctions language file root).find? (·.name == bare.name) = some bare :=
      mem_eraseDupsBy_key.mp isBare
    obtain ⟨definition, isNode, start, stop⟩ := analyzer.exists_node_of_find? language file root isFirst
    exact ⟨definition, isNode, start, stop⟩

/-- **The facts of a scan are consistent**, and definitions of one name fold into the first. -/
theorem scan_consistent : (analyzer.scan language file code root).facts.IsConsistent ∧
    (analyzer.scan language file code root).facts.Folds (analyzer.functionNodes language.grammar root) := by
  have folds := analyzer.scan_folds language file code root
  refine ⟨?_, folds⟩
  constructor
  case names => exact folds.names.nodup
  case calls =>
    intro function isFunction
    obtain ⟨bare, _, rfl⟩ := List.mem_map.mp isFunction
    exact ⟨nodup_eraseDups _, firstSeen_eraseDups _⟩
  case llmCalls =>
    intro function isFunction
    obtain ⟨bare, _, rfl⟩ := List.mem_map.mp isFunction
    exact nodup_eraseDups _
  case exports => exact sortedTexts_sorted _
  case exported =>
    intro function isFunction isExported
    obtain ⟨bare, isBare, rfl⟩ := List.mem_map.mp isFunction
    refine mem_sortedTexts.mpr (List.mem_append_right _ ?_)
    exact List.mem_map.mpr ⟨bare, List.mem_filter.mpr ⟨isBare, isExported⟩, rfl⟩

end Analyzer

end WorkflowAtlas
