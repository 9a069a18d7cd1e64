import WorkflowAtlas.Grammar.Python
import WorkflowAtlas.Grammar.Script
import WorkflowAtlas.Grammar.Go
import WorkflowAtlas.Grammar.Rust
import WorkflowAtlas.Grammar.C
import WorkflowAtlas.Grammar.Java
import WorkflowAtlas.Grammar.Lua
import WorkflowAtlas.Grammar.Swift

/-!
# The grammar of each language
-/

namespace WorkflowAtlas

/-- **The grammar of a language.** -/
def Language.grammar : Language → Grammar
  | .python => .python
  | .typescript => .script
  | .tsx => .script
  | .javascript => .script
  | .go => .go
  | .rust => .rust
  | .c => .c
  | .cpp => .cpp
  | .swift => .swift
  | .java => .java
  | .lua => .lua

end WorkflowAtlas
