import WorkflowAtlas.FileSet
import WorkflowAtlas.ParseTree.Codec

/-!
# File sets in JSON

A file set is a list of objects with the path of a file, its content and, for source files, the parse
tree of the content.
-/

namespace WorkflowAtlas

/-- The value of a member, `null` when there is none. -/
def Document.member (doc : Document) (name : String) : Document :=
  match doc with
  | .obj members _ => (members.lookup (some name)).getD .null
  | _ => .null

/-- **A source file** with its parse tree. -/
def SourceFile.decode : Decoder SourceFile := fun doc => do
  let content ← Decoder.string (doc.member "content")
  let tree ← ParseTree.decode content (doc.member "tree")
  return ⟨⟨← Decoder.string (doc.member "path")⟩, content, tree⟩

/-- **The files below a working directory.** -/
def FileSet.decode : Decoder FileSet := fun doc => do
  return .ofFiles (← Decoder.list SourceFile.decode doc)

end WorkflowAtlas
