import WorkflowAtlas.Text.Blank
import WorkflowAtlas.Text.Cut

/-!
# String literals

The content of a string literal as it is written in source text, whatever the language: a letter
prefix such as `f` or `r`, then one of five kinds of quotes, or the double brackets of a long
string. A text with no closed pair of quotes is its own content.
-/

namespace WorkflowAtlas.Literal

open WorkflowAtlas.Text

/-- A letter that may stand before the quotes. -/
def isPrefixLetter (c : Char) : Bool :=
  c ∈ ['f', 'F', 'r', 'R', 'b', 'B', 'u', 'U']

/-- The quotes, the longer kinds first. -/
def quotes : List (List Char) :=
  ["\"\"\"".toList, "'''".toList, ['"'], ['\''], ['`']]

/-- What stands between a quote and the same quote at the end, when the two do not overlap. -/
def between? (quote body : List Char) : Option (List Char) := do
  let rest ← after? quote body
  if 2 * quote.length ≤ body.length then before? quote rest else none

/-- The text with the letter prefix dropped, when a quote follows it. -/
def dropLetters (trimmed : List Char) : List Char :=
  let rest := trimmed.dropWhile isPrefixLetter
  match rest with
  | '"' :: _ => rest
  | '\'' :: _ => rest
  | '`' :: _ => rest
  | _ => trimmed

/-- The content between the first kind of quotes that encloses the text, or between double brackets;
else the text itself. -/
def unquote (body : List Char) : List Char :=
  match quotes.findSome? (between? · body) with
  | some inner => inner
  | none =>
    match (after? ['[', '['] body).bind (before? [']', ']']) with
    | some inner => inner
    | none => body

/-- **The content of a literal**: blanks around it, its letter prefix and its quotes removed. -/
def content (raw : String) : String :=
  String.ofList (unquote (dropLetters (trimChars raw.toList)))

end WorkflowAtlas.Literal
