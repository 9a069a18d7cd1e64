import WorkflowAtlas.Literal

/-!
# Endpoints

The **endpoint** of a literal in source text: the path that a route serves or a request asks for. An
interpolation stands for one unknown part, of an absolute URL only the path counts, and neither a
query nor a trailing slash does. A literal that is no path and no URL has no endpoint.
-/

namespace WorkflowAtlas.Http

open WorkflowAtlas.Text

/-- How many characters stand before the first `mark`, if there is one. -/
def lengthTo? (mark : Char) (cs : List Char) : Option Nat :=
  let n := (cs.takeWhile (· != mark)).length
  if n < cs.length then some n else none

/-- The number of characters after the first one of a complete interpolation at the front of a text:
`${id}`, `{id}` or `\(id)`. -/
def interpolation? : List Char → Option Nat
  | '$' :: '\x7b' :: rest => (lengthTo? '\x7d' rest).map (· + 2)
  | '\x7b' :: rest => (lengthTo? '\x7d' rest).map (· + 1)
  | '\\' :: '(' :: rest => (lengthTo? ')' rest).map (· + 2)
  | _ => none

/-- What stands for an interpolation. -/
def hole : List Char :=
  ":param".toList

/-- The text with a hole for each interpolation, `skip` being how many characters of the present
interpolation are left. -/
def fillHoles : Nat → List Char → List Char
  | _, [] => []
  | skip + 1, _ :: cs => fillHoles skip cs
  | 0, c :: cs =>
    match interpolation? (c :: cs) with
    | some more => hole ++ fillHoles more cs
    | none => c :: fillHoles 0 cs

/-- Whether the text is a URL rather than a path. -/
def isUrl (cs : List Char) : Bool :=
  "http".toList.isPrefixOf cs

/-- The part of a URL from the first slash behind the host on. -/
def urlPath? (cs : List Char) : Option (List Char) :=
  (cutAt "://".toList cs).map fun (_, rest) => rest.dropWhile (· != '/')

/-- A path without its trailing slashes, at least the slash in front. -/
def dropSlashes (path : List Char) : List Char :=
  match dropEndWhile (· == '/') path with
  | [] => ['/']
  | cs => cs

/-- The path with a slash in front. -/
def withSlash (path : List Char) : List Char :=
  match path with
  | '/' :: _ => path
  | _ => '/' :: path

/-- **The endpoint of a literal.** -/
def endpoint? (raw : String) : Option String := do
  let literal := trimChars (Literal.content raw).toList
  if !(literal.head? == some '/' || isUrl literal) then none
  let filled := fillHoles 0 literal
  let path ← if isUrl filled then urlPath? filled else some filled
  let path := path.takeWhile fun c => c != '?' && c != '#'
  if '/' ∈ path then some (String.ofList (dropSlashes (withSlash path))) else none

end WorkflowAtlas.Http
