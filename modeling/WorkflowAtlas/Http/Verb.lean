import WorkflowAtlas.Text.Blank
import WorkflowAtlas.Text.Cut
import WorkflowAtlas.Text.Casing

/-!
# HTTP verbs and edge labels

The seven **verbs** of requests and routes, and the **label** of an edge that crosses an HTTP
boundary: a verb, blanks and a path, such as `GET /users`. A verb in source text counts in any ASCII
case; a label also takes the case variants of its letters beyond ASCII.
-/

namespace WorkflowAtlas.Http

open WorkflowAtlas.Text

/-- **The verbs**, in upper case. -/
def verbs : List String :=
  ["GET", "POST", "PUT", "PATCH", "DELETE", "HEAD", "OPTIONS"]

/-- Whether two texts differ at most in the case of ASCII letters. -/
def sameButCase (a b : String) : Bool :=
  a.toList.map Char.toLower = b.toList.map Char.toLower

/-- **The verb of a method name**: `post`, `Post` and `POST` are `POST`. -/
def verb? (name : String) : Option String :=
  verbs.find? (sameButCase · name)

/-- What follows a word at the front of a text, its letters taken in any case. -/
def afterWord? : List Char → List Char → Option (List Char)
  | [], rest => some rest
  | _ :: _, [] => none
  | w :: ws, c :: cs => if w ∈ caseVariants c then afterWord? ws cs else none

/-- Whether at least one blank and then a slash come next. -/
def blanksThenSlash : List Char → Bool
  | [] => false
  | c :: cs => isBlank c && (cs.dropWhile isBlank).head? == some '/'

/-- **Whether a label crosses an HTTP boundary**: blanks, a verb, one blank or more, and a slash. -/
def isLabel (label : String) : Bool :=
  let text := label.toList.dropWhile isBlank
  verbs.any fun verb => (afterWord? verb.toList text).any blanksThenSlash

end WorkflowAtlas.Http
