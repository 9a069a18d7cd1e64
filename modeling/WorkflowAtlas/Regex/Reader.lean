import WorkflowAtlas.Regex.Basic
import WorkflowAtlas.Text.Digits

/-!
# Reading a pattern

The text of a pattern to a regular expression. The notation is that of linear time matchers: no
look-around and no back-references, classes with nesting and set operations, flags for a group or
for the rest of one, counted repetition. A text that is no pattern has no expression. `escape` writes a
text as a pattern of itself.

Each step of the readers consumes a character, so the length of the text bounds their depth.
-/

namespace WorkflowAtlas.Regex

/-- **The flags** in force at a place of a pattern. -/
structure Flags where
  /-- Letter case does not count. -/
  anyCase : Bool := false
  /-- `^` and `$` match at lines. -/
  lines : Bool := false
  /-- `.` matches a line break too. -/
  dotAll : Bool := false
  /-- What a repetition prefers is swapped; a search does not see it. -/
  swapped : Bool := false
  /-- Classes and characters are those of Unicode. -/
  unicode : Bool := true
  /-- A line may end in a carriage return. -/
  crlf : Bool := false
  /-- Blanks and comments in the pattern do not count. -/
  spaced : Bool := false

/-- The class of a character with the case flag applied. -/
def Flags.close (flags : Flags) (set : CharSet) : CharSet :=
  if flags.anyCase then .anyCase set else set

/-- Skips blanks and comments, where the flags say so. -/
def skipSpaced (flags : Flags) : Nat → List Char → List Char
  | 0, cs => cs
  | fuel + 1, cs =>
    if !flags.spaced then cs
    else
      match cs with
      | '#' :: rest => skipSpaced flags fuel (rest.dropWhile (· != '\n'))
      | c :: rest => if Text.isBlank c then skipSpaced flags fuel rest else c :: rest
      | [] => []

/-! ## Escapes -/

/-- What a backslash and the characters after it stand for. -/
inductive Escaped where
  | char (c : Char)
  | set (set : CharSet)
  | look (condition : Look)

/-- A character by its code point: `width` digits, or digits in braces. -/
def hexEscape? (width : Nat) (cs : List Char) : Option (Char × List Char) :=
  match cs with
  | '\x7b' :: rest =>
    match rest.span (· != '\x7d') with
    | (digits, _ :: rest) => if digits.isEmpty then none else (Text.hexChar? digits).map (·, rest)
    | _ => none
  | _ => if (cs.take width).length = width then (Text.hexChar? (cs.take width)).map (·, cs.drop width) else none

/-- Punctuation that a backslash takes literally: every ASCII character but letters, digits and the
two angle brackets. -/
def isPlainEscape (c : Char) : Bool :=
  c.toNat < 128 && !c.isAlphanum && c != '<' && c != '>'

/-- The conditions written `\b` and a word in braces. -/
def wordLook? (ascii : Bool) (name : List Char) : Option Look :=
  match String.ofList name with
  | "start" => some (.wordStart ascii)
  | "end" => some (.wordEnd ascii)
  | "start-half" => some (.noWordBefore ascii)
  | "end-half" => some (.noWordAfter ascii)
  | _ => none

/-- A boundary, `cs` being what follows `\b`. Braces that start with a letter or `-` name a kind of
boundary; other braces are a repetition. -/
def boundary? (flags : Flags) (cs : List Char) : Option (Escaped × List Char) :=
  let ascii := !flags.unicode
  let plain := some (.look (.boundary ascii), cs)
  match cs with
  | '\x7b' :: rest =>
    let isNameChar := fun (c : Char) => c.isAlpha || c == '-'
    match skipSpaced flags rest.length rest with
    | [] => none
    | c :: rest =>
      if isNameChar c then
        match (c :: rest).span isNameChar with
        | (name, '\x7d' :: rest) => (wordLook? ascii name).map fun l => (.look l, rest)
        | _ => none
      else plain
  | _ => plain

/-- A class of a letter, its other side for the upper case letter. Without Unicode only the ASCII
class is there: its other side is no text. -/
def letterClass? (flags : Flags) (set ascii : CharSet) (otherSide : Bool) : Option CharSet :=
  match flags.unicode, otherSide with
  | true, false => some set
  | true, true => some (.other set)
  | false, false => some ascii
  | false, true => none

/-- A character as a part of a pattern without Unicode must be ASCII. -/
def plainChar? (flags : Flags) (c : Char) : Option Char :=
  if flags.unicode || c.toNat < 128 then some c else none

/-- **What an escape stands for**, `cs` being what follows the backslash. -/
def escaped? (flags : Flags) (cs : List Char) : Option (Escaped × List Char) :=
  match cs with
  | [] => none
  | c :: rest =>
    let set := fun (s : Option CharSet) => s.map fun s => (Escaped.set s, rest)
    let char := fun (n : Nat) => some (Escaped.char (Char.ofNat n), rest)
    match c with
    | 'd' => set (letterClass? flags .digit .asciiDigit false)
    | 'D' => set (letterClass? flags .digit .asciiDigit true)
    | 's' => set (letterClass? flags .blank .asciiBlank false)
    | 'S' => set (letterClass? flags .blank .asciiBlank true)
    | 'w' => set (letterClass? flags .word .asciiWord false)
    | 'W' => set (letterClass? flags .word .asciiWord true)
    | 'x' => (hexEscape? 2 rest).map fun (c, rest) => (.char c, rest)
    | 'u' => (hexEscape? 4 rest).map fun (c, rest) => (.char c, rest)
    | 'U' => (hexEscape? 8 rest).map fun (c, rest) => (.char c, rest)
    | 'a' => char 7
    | 'f' => char 12
    | 't' => char 9
    | 'n' => char 10
    | 'r' => char 13
    | 'v' => char 11
    | 'A' => some (.look .textStart, rest)
    | 'z' => some (.look .textEnd, rest)
    | 'b' => boundary? flags rest
    | 'B' => some (.look (.noBoundary (!flags.unicode)), rest)
    | '<' => some (.look (.wordStart (!flags.unicode)), rest)
    | '>' => some (.look (.wordEnd (!flags.unicode)), rest)
    | _ => if isPlainEscape c then some (.char c, rest) else none

/-! ## Classes -/

/-- The named ASCII classes. -/
def asciiClass? (name : List Char) : Option CharSet :=
  match String.ofList name with
  | "alnum" => some (.ofRanges [('0', '9'), ('A', 'Z'), ('a', 'z')])
  | "alpha" => some (.ofRanges [('A', 'Z'), ('a', 'z')])
  | "ascii" => some (.range '\x00' '\x7f')
  | "blank" => some (.ofRanges [('\t', '\t'), (' ', ' ')])
  | "cntrl" => some (.ofRanges [('\x00', '\x1f'), ('\x7f', '\x7f')])
  | "digit" => some .asciiDigit
  | "graph" => some (.range '!' '~')
  | "lower" => some (.range 'a' 'z')
  | "print" => some (.range ' ' '~')
  | "punct" => some (.ofRanges [('!', '/'), (':', '@'), ('[', '\x60'), ('\x7b', '~')])
  | "space" => some .asciiBlank
  | "upper" => some (.range 'A' 'Z')
  | "word" => some .asciiWord
  | "xdigit" => some (.ofRanges [('0', '9'), ('A', 'F'), ('a', 'f')])
  | _ => none

/-- A named ASCII class, `cs` being what follows the opening bracket and colon. -/
def namedClass? (cs : List Char) : Option (CharSet × List Char) :=
  let (otherSide, cs) := match cs with
    | '^' :: rest => (true, rest)
    | cs => (false, cs)
  match cs.span (· != ':') with
  | (name, ':' :: ']' :: rest) =>
    (asciiClass? name).map fun set => (if otherSide then .other set else set, rest)
  | _ => none

/-- The operations between the parts of a class. -/
inductive SetOp where
  | inter
  | minus
  | differ

/-- A set operation applied. -/
def SetOp.apply (flags : Flags) : SetOp → CharSet → CharSet → CharSet
  | .inter, a, b => .inter (flags.close a) (flags.close b)
  | .minus, a, b => .minus (flags.close a) (flags.close b)
  | .differ, a, b =>
    let a := flags.close a
    let b := flags.close b
    .union (.minus a b) (.minus b a)

/-- What a class is so far: the items of the part that is being read, and what stands before the last
operation. -/
structure ClassSoFar where
  items : CharSet := .empty
  before : Option (SetOp × CharSet) := none

def ClassSoFar.add (soFar : ClassSoFar) (set : CharSet) : ClassSoFar :=
  { soFar with items := .union set soFar.items }

/-- The set of a class so far. -/
def ClassSoFar.set (flags : Flags) (soFar : ClassSoFar) : CharSet :=
  match soFar.before with
  | none => soFar.items
  | some (op, before) => op.apply flags before soFar.items

def ClassSoFar.operate (flags : Flags) (op : SetOp) (soFar : ClassSoFar) : ClassSoFar :=
  { items := .empty, before := some (op, soFar.set flags) }

/-- One item of a class: a character, written or escaped, or a set. -/
def classItem? (flags : Flags) : List Char → Option ((Char ⊕ CharSet) × List Char)
  | [] => none
  | '\\' :: rest =>
    match escaped? flags rest with
    | some (.char c, rest) => (plainChar? flags c).map fun c => (.inl c, rest)
    | some (.set set, rest) => some (.inr set, rest)
    | _ => none
  | c :: rest => (plainChar? flags c).map fun c => (.inl c, rest)

/-- An item, or a range of characters. A `-` before the closing bracket, or before another `-`, is no
range. -/
def classRange? (flags : Flags) (cs : List Char) : Option (CharSet × List Char) := do
  let (item, rest) ← classItem? flags cs
  let rest := skipSpaced flags rest.length rest
  let alone := match item with
    | .inl c => CharSet.single c
    | .inr set => set
  match rest with
  | [] => none
  | '-' :: tail =>
    match skipSpaced flags tail.length tail with
    | ']' :: _ => some (alone, rest)
    | '-' :: _ => some (alone, rest)
    | [] => none
    | tail =>
      let (item', tail) ← classItem? flags tail
      match item, item' with
      | .inl first, .inl last => if first ≤ last then some (.range first last, tail) else none
      | _, _ => none
  | _ => some (alone, rest)

/-- The opening of a class behind its bracket: whether it takes the other side, and the `-` and `]`
that are literal in front. -/
def classOpening? (flags : Flags) (cs : List Char) : Option (Bool × ClassSoFar × List Char) := do
  let cs := skipSpaced flags cs.length cs
  let (otherSide, cs) := match cs with
    | '^' :: rest => (true, skipSpaced flags rest.length rest)
    | cs => (false, cs)
  let dashes := cs.takeWhile (· == '-')
  let rest := cs.drop dashes.length
  let rest := skipSpaced flags rest.length rest
  match dashes, rest with
  | _, [] => none
  | [], ']' :: rest => some (otherSide, ({} : ClassSoFar).add (.single ']'), rest)
  | [], rest => some (otherSide, {}, rest)
  | _ :: _, rest => some (otherSide, ({} : ClassSoFar).add (.single '-'), rest)

/-- A class, from what follows its opening on. -/
def classFrom? (flags : Flags) : Nat → Bool → ClassSoFar → List Char → Option (CharSet × List Char)
  | 0, _, _, _ => none
  | fuel + 1, otherSide, soFar, cs =>
    match skipSpaced flags cs.length cs with
    | [] => none
    | ']' :: rest =>
      let set := flags.close (soFar.set flags)
      if otherSide then
        if flags.unicode then some (.other set, rest) else none
      else some (set, rest)
    | '[' :: rest =>
      let named := match rest with
        | ':' :: rest => namedClass? rest
        | _ => none
      match named with
      | some (set, rest) => classFrom? flags fuel otherSide (soFar.add set) rest
      | none => do
        let (inner, start, rest) ← classOpening? flags rest
        let (set, rest) ← classFrom? flags fuel inner start rest
        classFrom? flags fuel otherSide (soFar.add set) rest
    | '&' :: '&' :: rest => classFrom? flags fuel otherSide (soFar.operate flags .inter) rest
    | '-' :: '-' :: rest => classFrom? flags fuel otherSide (soFar.operate flags .minus) rest
    | '~' :: '~' :: rest => classFrom? flags fuel otherSide (soFar.operate flags .differ) rest
    | cs => do
      let (set, rest) ← classRange? flags cs
      classFrom? flags fuel otherSide (soFar.add set) rest

/-! ## Groups and flags -/

/-- A flag by its letter. -/
def Flags.set? (flags : Flags) (letter : Char) (on : Bool) : Option Flags :=
  match letter with
  | 'i' => some { flags with anyCase := on }
  | 'm' => some { flags with lines := on }
  | 's' => some { flags with dotAll := on }
  | 'U' => some { flags with swapped := on }
  | 'u' => some { flags with unicode := on }
  | 'R' => some { flags with crlf := on }
  | 'x' => some { flags with spaced := on }
  | _ => none

/-- The letters of a group up to `:` or `)`: each flag once, one `-`, and a flag after it. -/
def readFlags? (flags : Flags) (seen : List Char) : List Char → Option (Flags × List Char × List Char)
  | [] => none
  | c :: rest =>
    if c == ':' || c == ')' then
      if seen.head? == some '-' then none else some (flags, seen, c :: rest)
    else if c ∈ seen then none
    else if c == '-' then readFlags? flags ('-' :: seen) rest
    else do readFlags? (← flags.set? c ('-' ∉ seen)) (c :: seen) rest

/-- A character of a group's name. -/
def isNameChar (first : Bool) (c : Char) : Bool :=
  let letter := c == '_' || (Text.isWordChar c && !Text.isDecimalDigit c)
  if first then letter
  else letter || c == '.' || c == '[' || c == ']' || Text.isDecimalDigit c

/-- The name of a group up to its closing bracket. -/
def groupName? (cs : List Char) : Option (String × List Char) :=
  match cs.span (· != '>') with
  | (c :: name, _ :: rest) =>
    if isNameChar true c && name.all (isNameChar false) then some (String.ofList (c :: name), rest) else none
  | _ => none

/-- How a group opens behind its bracket. -/
inductive Opening where
  /-- A group that is read with flags of its own. -/
  | group (flags : Flags) (names : List String)
  /-- Flags for what follows. -/
  | flags (flags : Flags)

/-- The opening of a group. Look-around is no part of the notation. -/
def opening? (flags : Flags) (names : List String) (cs : List Char) : Option (Opening × List Char) :=
  let named := fun (rest : List Char) => do
    let (name, rest) ← groupName? rest
    if name ∈ names then none else some (Opening.group flags (name :: names), rest)
  match cs with
  | '?' :: '=' :: _ => none
  | '?' :: '!' :: _ => none
  | '?' :: '<' :: '=' :: _ => none
  | '?' :: '<' :: '!' :: _ => none
  | '?' :: 'P' :: '<' :: rest => named rest
  | '?' :: '<' :: rest => named rest
  | '?' :: rest => do
    match ← readFlags? flags [] rest with
    | (flags, seen, ')' :: rest) => if seen.isEmpty then none else some (.flags flags, rest)
    | (flags, _, _ :: rest) => some (.group flags names, rest)
    | _ => none
  | cs => some (.group flags names, cs)

/-! ## Repetition -/

/-- A number in the braces of a repetition, blanks around it. -/
def count? (cs : List Char) : Option Nat × List Char :=
  let cs := cs.dropWhile Text.isBlank
  match cs.span Char.isDigit with
  | (digits, rest) =>
    let rest := rest.dropWhile Text.isBlank
    if digits.isEmpty then (none, rest)
    else
      let n := digits.foldl (fun n c => n * 10 + (c.toNat - 48)) 0
      (if n < Text.bound32 then some n else none, rest)

/-- The bounds of a counted repetition, `cs` being what follows the brace. -/
def bounds? (cs : List Char) : Option (Nat × Option Nat × List Char) :=
  match count? cs with
  | (some least, '\x7d' :: rest) => some (least, some least, rest)
  | (some least, ',' :: rest) =>
    match rest.dropWhile Text.isBlank with
    | '\x7d' :: rest => some (least, none, rest)
    | rest =>
      match count? rest with
      | (some most, '\x7d' :: rest) => if least ≤ most then some (least, some most, rest) else none
      | _ => none
  | _ => none

/-- A mark after a repetition that says what it prefers; a search does not see it. -/
def skipPreference : List Char → List Char
  | '?' :: rest => rest
  | cs => cs

/-! ## Patterns -/

/-- The characters in a pattern whose size a repetition multiplies: a bound on what is built. -/
def size : Regex → Nat
  | .seq a b => a.size + b.size + 1
  | .either a b => a.size + b.size + 1
  | .many a => a.size + 1
  | _ => 1

/-- No pattern is read that would grow beyond this. -/
def sizeBound : Nat := 1000000

/-- `.` under the flags; without Unicode it is no text. -/
def dot? (flags : Flags) : Option Regex :=
  if !flags.unicode then none
  else if flags.dotAll then some (.one .all)
  else if flags.crlf then some (.one (.other (.ofRanges [('\n', '\n'), ('\r', '\r')])))
  else some (.one (.other (.single '\n')))

/-- A character of the pattern under the flags. -/
def charUnder? (flags : Flags) (c : Char) : Option Regex :=
  (plainChar? flags c).map fun c => .one (flags.close (.single c))

/-- What one escape of a pattern matches. -/
def escapeRegex? (flags : Flags) (cs : List Char) : Option (Regex × List Char) := do
  match ← escaped? flags cs with
  | (.char c, rest) => return (← charUnder? flags c, rest)
  | (.set set, rest) => return (.one set, rest)
  | (.look condition, rest) => return (.look condition, rest)

/-- The last item of a sequence repeated; without one there is nothing to repeat. -/
def repeatLast? (items : List (Option Regex)) (least : Nat) (most : Option Nat) : Option (List (Option Regex)) :=
  match items with
  | some r :: rest =>
    let copies := max least (most.getD (least + 1))
    if copies * (size r + 1) > sizeBound then none else some (some (times r least most) :: rest)
  | _ => none

/-- A sequence of items; flags among them match the empty text. -/
def sequenceOf (items : List (Option Regex)) : Regex :=
  sequence (items.reverse.filterMap id)

/-- The alternatives of a group up to its closing bracket or the end of the text, with `done` the
alternatives before and `items` the reversed items of the present one; an item that only sets flags
is `none`. The result has the names of groups that were read. -/
def alternatives? : Nat → Flags → List String → List Regex → List (Option Regex) → List Char →
    Option (Regex × List String × List Char)
  | 0, _, _, _, _, _ => none
  | fuel + 1, flags, names, done, items, cs =>
    let close := fun (rest : List Char) =>
      some (choice (sequenceOf items :: done).reverse, names, rest)
    let add := fun (r : Regex) (rest : List Char) =>
      alternatives? fuel flags names done (some r :: items) rest
    let again := fun (least : Nat) (most : Option Nat) (rest : List Char) => do
      alternatives? fuel flags names done (← repeatLast? items least most) (skipPreference rest)
    match skipSpaced flags cs.length cs with
    | [] => close []
    | ')' :: rest => close (')' :: rest)
    | '|' :: rest => alternatives? fuel flags names (sequenceOf items :: done) [] rest
    | '(' :: rest => do
      match ← opening? flags names rest with
      | (.flags flags, rest) => alternatives? fuel flags names done (none :: items) rest
      | (.group inner names, rest) =>
        match ← alternatives? fuel inner names [] [] rest with
        | (r, names, ')' :: rest) => alternatives? fuel flags names done (some r :: items) rest
        | _ => none
    | '*' :: rest => again 0 none rest
    | '+' :: rest => again 1 none rest
    | '?' :: rest => again 0 (some 1) rest
    | '\x7b' :: rest => do
      let (least, most, rest) ← bounds? rest
      again least most (skipSpaced flags rest.length rest)
    | '[' :: rest => do
      let (otherSide, start, rest) ← classOpening? flags rest
      let (set, rest) ← classFrom? flags (rest.length + 1) otherSide start rest
      add (.one set) rest
    | '.' :: rest => do add (← dot? flags) rest
    | '^' :: rest => add (.look (if flags.lines then .lineStart flags.crlf else .textStart)) rest
    | '$' :: rest => add (.look (if flags.lines then .lineEnd flags.crlf else .textEnd)) rest
    | '\\' :: rest => do
      let (r, rest) ← escapeRegex? flags rest
      add r rest
    | c :: rest => do add (← charUnder? flags c) rest

/-- **The expression of a pattern**, if the text is one. -/
def parse? (pattern : String) : Option Regex :=
  let cs := pattern.toList
  match alternatives? (cs.length + 1) {} [] [] [] cs with
  | some (r, _, []) => some r
  | _ => none

/-! ## Writing a pattern -/

/-- A character that has a meaning of its own somewhere in a pattern. -/
def hasMeaning (c : Char) : Bool :=
  c ∈ ['\\', '.', '+', '*', '?', '(', ')', '|', '[', ']', '\x7b', '\x7d', '^', '$', '#', '&', '-', '~']

/-- A character as a pattern that matches it alone. -/
def escapeChar (c : Char) : List Char :=
  if hasMeaning c then ['\\', c] else [c]

/-- **A text as a pattern** that matches it alone. -/
def escape (cs : List Char) : List Char :=
  cs.flatMap escapeChar

end WorkflowAtlas.Regex
