import WorkflowAtlas.Regex.CharSet

/-!
# Regular expressions

A **regular expression** over characters, with conditions on the place between two characters
(start and end of text or line, boundaries of words). A search asks only whether some part of a text
is matched, so what a repetition prefers and what a group captures have no place here.

**How a search runs.** `residuals c r` lists the expressions that have to match what is left of a
match of `r` once `c` is read: the partial derivatives of `r`. A search keeps the list of what is
left of every match begun so far, and begins a new one at each place. Every part is structural: on
the expression for `nullable` and `residuals`, on the text for `searchFrom`.
-/

namespace WorkflowAtlas

/-- **A condition on a place** between two characters. -/
inductive Look where
  | textStart
  | textEnd
  /-- The start of a line; with `crlf` a line may also end in a carriage return. -/
  | lineStart (crlf : Bool)
  | lineEnd (crlf : Bool)
  /-- A boundary between a word character and another; `ascii` takes word characters of ASCII only. -/
  | boundary (ascii : Bool)
  | noBoundary (ascii : Bool)
  | wordStart (ascii : Bool)
  | wordEnd (ascii : Bool)
  /-- No word character comes before. -/
  | noWordBefore (ascii : Bool)
  /-- No word character comes after. -/
  | noWordAfter (ascii : Bool)
  deriving DecidableEq, Repr, Inhabited

/-- **A regular expression.** -/
inductive Regex where
  /-- The empty text. -/
  | empty
  /-- One character of a set. -/
  | one (set : CharSet)
  /-- The empty text at a place with a condition. -/
  | look (condition : Look)
  | seq (a b : Regex)
  | either (a b : Regex)
  | many (a : Regex)
  deriving DecidableEq, Repr, Inhabited

/-- Whether the character next to a place is there and a word character. -/
def wordBeside (ascii : Bool) (c : Option Char) : Bool :=
  c.any fun c => if ascii then Text.isAsciiWord c else Text.isWordChar c

/-- **Whether a condition holds** between two characters; at an end of the text there is none. -/
def Look.holds (before after : Option Char) : Look → Bool
  | .textStart => before.isNone
  | .textEnd => after.isNone
  | .lineStart false => before.isNone || before == some '\n'
  | .lineStart true => before.isNone || before == some '\n' || (before == some '\r' && after != some '\n')
  | .lineEnd false => after.isNone || after == some '\n'
  | .lineEnd true => after.isNone || after == some '\r' || (after == some '\n' && before != some '\r')
  | .boundary ascii => wordBeside ascii before != wordBeside ascii after
  | .noBoundary ascii => wordBeside ascii before == wordBeside ascii after
  | .wordStart ascii => !wordBeside ascii before && wordBeside ascii after
  | .wordEnd ascii => wordBeside ascii before && !wordBeside ascii after
  | .noWordBefore ascii => !wordBeside ascii before
  | .noWordAfter ascii => !wordBeside ascii after

namespace Regex

/-- Nothing is matched. -/
def never : Regex :=
  .one .empty

/-- Whether the empty text at a place is matched. -/
def nullable (before after : Option Char) : Regex → Bool
  | .empty => true
  | .one _ => false
  | .look condition => condition.holds before after
  | .seq a b => a.nullable before after && b.nullable before after
  | .either a b => a.nullable before after || b.nullable before after
  | .many _ => true

/-- One after another, where nothing may be left of the first. -/
def andThen (a b : Regex) : Regex :=
  match a with
  | .empty => b
  | a => .seq a b

/-- What is left to be matched after the character `c`, which stands behind `before`. -/
def residuals (before : Option Char) (c : Char) : Regex → List Regex
  | .empty => []
  | .one set => if set.contains c then [.empty] else []
  | .look _ => []
  | .seq a b =>
    let first := (a.residuals before c).map (andThen · b)
    if a.nullable before (some c) then first ++ b.residuals before c else first
  | .either a b => a.residuals before c ++ b.residuals before c
  | .many a => (a.residuals before c).map (andThen · (.many a))

/-- What is left of every match in `active` after the character `c`, each once. -/
def advance (before : Option Char) (c : Char) (active : List Regex) : List Regex :=
  (active.flatMap (residuals before c)).eraseDups

/-- Whether a match begun earlier, of which `active` is left, ends at the end of the text. -/
def matchesFrom (before : Option Char) (active : List Regex) : List Char → Bool
  | [] => active.any (nullable before none)
  | c :: cs => matchesFrom (some c) (advance before c active) cs

/-- **Whether the whole text is matched.** -/
def matchesWhole (r : Regex) (cs : List Char) : Bool :=
  matchesFrom none [r] cs

/-- Whether some part of the text is matched, with `active` left of the matches begun so far. -/
def searchFrom (r : Regex) (before : Option Char) (active : List Regex) : List Char → Bool
  | [] => (r :: active).any (nullable before none)
  | c :: cs =>
    let active := r :: active
    active.any (nullable before (some c)) || searchFrom r (some c) (advance before c active) cs

/-- **Whether some part of the text is matched.** -/
def isFoundIn (r : Regex) (text : String) : Bool :=
  searchFrom r none [] text.toList

/-! ## Building expressions -/

/-- One after another. -/
def sequence : List Regex → Regex
  | [] => .empty
  | [r] => r
  | r :: rest => .seq r (sequence rest)

/-- One of several. -/
def choice : List Regex → Regex
  | [] => never
  | [r] => r
  | r :: rest => .either r (choice rest)

/-- A character. -/
def char (c : Char) : Regex :=
  .one (.single c)

/-- A text, character by character. -/
def literal (cs : List Char) : Regex :=
  sequence (cs.map char)

/-- Once or not at all. -/
def perhaps (r : Regex) : Regex :=
  .either r .empty

/-- Once or more. -/
def oneOrMore (r : Regex) : Regex :=
  .seq r (.many r)

/-- Up to `n` times. -/
def atMost (r : Regex) : Nat → Regex
  | 0 => .empty
  | n + 1 => perhaps (.seq r (atMost r n))

/-- From `least` to `most` times; without `most`, any number of times. -/
def times (r : Regex) (least : Nat) (most : Option Nat) : Regex :=
  let tail := match most with
    | none => [.many r]
    | some most => if most = least then [] else [atMost r (most - least)]
  sequence (List.replicate least r ++ tail)

end Regex

end WorkflowAtlas
