import WorkflowAtlas.Regex.Reader
import WorkflowAtlas.Settings.Basic

/-!
# Recognising language model calls

A **recognizer** is the patterns of the settings, read: it says of a callee, of an identifier and of
a whole text whether it has to do with a language model.
-/

namespace WorkflowAtlas

/-- **The patterns of an analysis**, read. -/
structure Recognizer where
  calls : List Regex
  identifiers : List Regex
  hints : List Regex
  deriving Inhabited

namespace Recognizer

/-- The expressions of some patterns, or the first text that is no pattern. -/
def readAll (patterns : List String) : Except String (List Regex) :=
  patterns.mapM fun pattern =>
    match Regex.parse? pattern with
    | some regex => .ok regex
    | none => .error pattern

/-- **The recognizer of some patterns**, or the first text that is no pattern. -/
def ofPatterns (patterns : LlmPatterns) : Except String Recognizer := do
  return {
    calls := ← readAll patterns.calls
    identifiers := ← readAll patterns.identifiers
    hints := ← readAll patterns.hints }

/-- Whether a callee is a call of a language model. -/
def isCall (recognizer : Recognizer) (callee : String) : Bool :=
  recognizer.calls.any (·.isFoundIn callee)

/-- Whether an identifier names a client of a language model. -/
def isIdentifier (recognizer : Recognizer) (text : String) : Bool :=
  recognizer.identifiers.any (·.isFoundIn text)

/-- Whether a text may have to do with a language model. -/
def isHint (recognizer : Recognizer) (text : String) : Bool :=
  recognizer.hints.any (·.isFoundIn text)

end Recognizer

end WorkflowAtlas
