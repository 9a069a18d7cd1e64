import WorkflowAtlas.Scan.Basic
import WorkflowAtlas.CallTable.Hash
import WorkflowAtlas.Facts.Codec

/-!
# Views of a file

Three readings of one scan: the **structure** of a file, the **analysis** of its language model use,
and its **call graph** with a structural hash. A file that is not scanned has empty views.
-/

namespace WorkflowAtlas

/-- **The language model use of a file.** -/
structure FileAnalysis where
  file : SourcePath
  language : Option Language := none
  mightContainLlm : Bool := false
  llmVariables : List String := []
  llmCalls : List LlmCallSite := []
  deriving DecidableEq, Repr, Inhabited

/-- **The call graph of a file**: its functions by name, their calls, and their calls of language
models, those of code outside of functions included. The structural hash of the calls is kept with
them; a graph that was stored elsewhere has the hash that was stored with it. -/
structure FileCallGraph where
  file : SourcePath
  language : Option Language := none
  functions : SortedMap FunctionFacts := .empty
  calls : CallTable := .empty
  llmCalls : CallTable := .empty
  imports : List Import := []
  structuralHash : String := calls.structuralHash

/-- **The changes from one call graph of a file to another.** Graphs with one hash and the same calls are
not compared further. -/
def FileCallGraph.changes (old new : FileCallGraph) : CallChanges :=
  if old.structuralHash = new.structuralHash ∧ old.calls.entries = new.calls.entries then {}
  else old.calls.changes new.calls

/-- The callees at a function's sites, each once. -/
def LlmCallSite.calleesIn (sites : List LlmCallSite) (function : String) : List String :=
  ((sites.filter (·.function == function)).map (·.callee)).eraseDups

namespace Scan

def analysis (scan : Scan) : FileAnalysis where
  file := scan.facts.file
  language := scan.facts.language
  mightContainLlm := scan.mightContainLlm
  llmVariables := scan.llmVariables
  llmCalls := scan.llmSites

def callGraph (scan : Scan) : FileCallGraph where
  file := scan.facts.file
  language := scan.facts.language
  functions := .ofList (scan.facts.functions.map fun function => (function.name, function))
  calls := .ofList (scan.facts.functions.map fun function => (function.name, function.calls))
  llmCalls := .ofList (scan.llmSites.map fun site => (site.function, LlmCallSite.calleesIn scan.llmSites site.function))
  imports := scan.facts.imports

end Scan

namespace Analyzer

/-- **The structure of a file.** -/
def fileFacts (analyzer : Analyzer) (file : SourcePath) (code : String) (tree : Option ParseTree) : FileFacts :=
  ((analyzer.scan? file code tree).map (·.facts)).getD { file }

/-- **The language model use of a file.** -/
def fileAnalysis (analyzer : Analyzer) (file : SourcePath) (code : String) (tree : Option ParseTree) : FileAnalysis :=
  ((analyzer.scan? file code tree).map Scan.analysis).getD { file }

/-- **The call graph of a file.** -/
def fileCallGraph (analyzer : Analyzer) (file : SourcePath) (code : String) (tree : Option ParseTree) : FileCallGraph :=
  ((analyzer.scan? file code tree).map Scan.callGraph).getD { file }

end Analyzer

def LlmCallSite.toJson (site : LlmCallSite) : Json :=
  .obj [("function", .str site.function), ("callee", .str site.callee), ("line", .nat site.line)]

def FileAnalysis.toJson (analysis : FileAnalysis) : Json :=
  .obj [("file", analysis.file.toJson), ("language", .option Language.toJson analysis.language),
    ("mightContainLlm", .bool analysis.mightContainLlm), ("llmVariables", .strings analysis.llmVariables),
    ("llmCalls", .arr (analysis.llmCalls.map LlmCallSite.toJson))]

def FileCallGraph.toJson (graph : FileCallGraph) : Json :=
  .obj [("file", graph.file.toJson), ("language", .option Language.toJson graph.language),
    ("functions", .obj (graph.functions.entries.map fun (name, function) => (name, function.toJson))),
    ("callGraph", graph.calls.toJson), ("llmCalls", graph.llmCalls.toJson),
    ("imports", .arr (graph.imports.map Import.toJson)), ("structuralHash", .str graph.structuralHash)]

end WorkflowAtlas
