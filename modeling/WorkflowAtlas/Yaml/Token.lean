import WorkflowAtlas.Yaml.Scalar

/-!
# YAML tokens

`tokens?` cuts a YAML text into tokens. Outside brackets the columns of keys and dashes decide where
collections start and end, and the tokens say so: a collection starts with a token of its own and ends
with `blockEnd`. A key need not be marked as one; it is known by the `:` that follows it, and its tokens
are then put in before it. The **scanner** therefore remembers, for every level of brackets, where a key
may have started; such a key lies on one line and has at most 1024 characters.
-/

namespace WorkflowAtlas

/-- How a scalar is written. -/
inductive YamlStyle where
  | plain
  | quoted
  | literal
  | folded
  deriving DecidableEq, Repr, Inhabited

/-- **A token of YAML text.** -/
inductive YamlToken where
  | version (major minor : Nat)
  | tagHandle (handle expansion : String)
  | documentStart
  | documentEnd
  | blockSequence
  | blockMapping
  | blockEnd
  | flowSequence
  | flowSequenceEnd
  | flowMapping
  | flowMappingEnd
  | entry
  | comma
  | key
  | value
  | reference (name : String)
  | anchor (name : String)
  | tag (handle suffix : String)
  | scalar (style : YamlStyle) (text : String)
  | streamEnd
  deriving DecidableEq, Repr, Inhabited

namespace Yaml

/-- A place where a key may have started. -/
structure KeyStart where
  /-- Whether nothing but a key can stand there. -/
  required : Bool
  /-- The number of tokens before it. -/
  number : Nat
  line : Nat
  index : Nat
  column : Nat
  deriving Repr, Inhabited

/-- **What a scanner knows** between two tokens. -/
structure Scanner where
  cursor : Cursor
  /-- The tokens so far, the last one first. -/
  tokens : List YamlToken := []
  /-- The columns of the open collections, the innermost one first. -/
  indents : List Nat := []
  /-- For every level of brackets, the innermost first, where a key may have started. -/
  starts : List (Option KeyStart) := [none]
  /-- Whether a key may start here. -/
  keyAllowed : Bool := true
  deriving Repr, Inhabited

namespace Scanner

/-- Whether the place lies inside brackets. -/
def inFlow (s : Scanner) : Bool := s.starts.length > 1

def push (s : Scanner) (token : YamlToken) : Scanner :=
  { s with tokens := token :: s.tokens }

/-- Puts tokens in behind the first `number` ones. -/
def insert (s : Scanner) (number : Nat) (added : List YamlToken) : Scanner :=
  let later := s.tokens.length - number
  { s with tokens := s.tokens.take later ++ added.reverse ++ s.tokens.drop later }

/-- Whether a column lies further in than the innermost collection. -/
def isDeeper (s : Scanner) (column : Nat) : Bool :=
  match s.indents with
  | [] => true
  | indent :: _ => indent < column

/-- Ends the collections that lie further in than a column. -/
def closeTo (s : Scanner) (column : Nat) : Scanner :=
  if s.inFlow then s
  else
    let closed := s.indents.takeWhile (column < ·)
    { s with
      tokens := closed.map (fun _ => YamlToken.blockEnd) ++ s.tokens
      indents := s.indents.drop closed.length }

/-- Ends all collections. -/
def closeAll (s : Scanner) : Scanner :=
  if s.inFlow then s
  else { s with tokens := s.indents.map (fun _ => YamlToken.blockEnd) ++ s.tokens, indents := [] }

/-- Opens a collection at the present column unless one is open there. -/
def openHere (s : Scanner) (token : YamlToken) : Scanner :=
  if !s.inFlow && s.isDeeper s.cursor.column then
    { s.push token with indents := s.cursor.column :: s.indents }
  else s

/-- Gives up the start of a key; one that is required must not be given up. -/
def dropStart? (s : Scanner) : Option Scanner :=
  match s.starts with
  | some start :: outer => if start.required then none else some { s with starts := none :: outer }
  | _ => some s

/-- Notes that a key may start here, if one is allowed to. -/
def noteStart? (s : Scanner) : Option Scanner :=
  if s.keyAllowed then do
    let s ← s.dropStart?
    let start : KeyStart := {
      required := !s.inFlow && s.indents.head? == some s.cursor.column
      number := s.tokens.length
      line := s.cursor.line
      index := s.cursor.index
      column := s.cursor.column }
    some { s with starts := some start :: s.starts.drop 1 }
  else some s

/-- Gives up the starts that lie on an earlier line or too far back. -/
def dropStale? (s : Scanner) : Option Scanner :=
  let isStale := fun (start : KeyStart) =>
    start.line < s.cursor.line || start.index + 1024 < s.cursor.index
  if s.starts.any fun start => start.any fun k => isStale k && k.required then none
  else some { s with starts := s.starts.map fun start => start.filter fun k => !isStale k }

/-- Moves to the next token, over blanks, comments and line breaks. A tab is no indentation, so it is
passed over only where no key may start. -/
def skipToToken : (fuel : Nat) → Scanner → Scanner
  | 0, s => s
  | fuel + 1, s =>
    let cursor := s.cursor.skipWhile fun c => c = ' ' || ((s.inFlow || !s.keyAllowed) && c = '\t')
    let cursor := cursor.skipComment
    if cursor.rest.head?.any isBreak then
      skipToToken fuel { s with cursor := cursor.readBreak.2, keyAllowed := s.keyAllowed || !s.inFlow }
    else { s with cursor }

/-- Moves on by some characters of the line and adds a token. -/
def take (s : Scanner) (count : Nat) (token : YamlToken) : Scanner :=
  { s.push token with cursor := s.cursor.advance count }

/-! ## Names and tags -/

/-- The name of an anchor or alias behind its mark. -/
def name? (cursor : Cursor) : Option (String × Cursor) :=
  let name := cursor.rest.takeWhile isNameChar
  let next := cursor.advance name.length
  if !name.isEmpty && (startsBlank next.rest || next.rest.head?.any fun c => "?:,]\x7d%@`".toList.contains c) then
    some (String.ofList name, next)
  else none

/-- A byte behind a percent sign. -/
def percentByte? : List Char → Option Nat
  | '%' :: a :: b :: _ => Text.ofBase? 16 [a, b]
  | _ => none

/-- The character that escaped bytes spell, with the number of bytes. -/
def percentChar? (cs : List Char) : Option (Char × Nat) := do
  let first ← percentByte? cs
  let (lead, size) ←
    if first < 0x80 then some (first, 1)
    else if 0xC0 ≤ first ∧ first < 0xE0 then some (first - 0xC0, 2)
    else if 0xE0 ≤ first ∧ first < 0xF0 then some (first - 0xE0, 3)
    else if 0xF0 ≤ first ∧ first < 0xF8 then some (first - 0xF0, 4)
    else none
  let more ← ((List.range (size - 1)).mapM fun i => do
    let byte ← percentByte? (cs.drop (3 * (i + 1)))
    if 0x80 ≤ byte ∧ byte < 0xC0 then some (byte - 0x80) else none)
  return (Char.ofNat (more.foldl (fun n byte => n * 64 + byte) lead), size)

/-- A character of a tag; inside `<` and `>` there are some more. -/
def isTagChar (verbatim : Bool) (c : Char) : Bool :=
  isNameChar c || ";/?:@&=+$.!~*\x27()".toList.contains c || (verbatim && ",[]".toList.contains c)

/-- The characters of a tag. -/
def tagText? (verbatim : Bool) : (fuel : Nat) → (text : List Char) → Cursor → Option (List Char × Cursor)
  | 0, text, cursor => some (text, cursor)
  | fuel + 1, text, cursor =>
    match cursor.rest with
    | '%' :: _ => do
      let (c, size) ← percentChar? cursor.rest
      tagText? verbatim fuel (text ++ [c]) (cursor.advance (3 * size))
    | c :: _ => if isTagChar verbatim c then tagText? verbatim fuel (text ++ [c]) (cursor.advance 1) else some (text, cursor)
    | [] => some (text, cursor)

/-- The characters of a tag, at least one of them. -/
def tagUri? (verbatim : Bool) (cursor : Cursor) : Option (List Char × Cursor) := do
  let (text, next) ← tagText? verbatim (cursor.rest.length + 1) [] cursor
  if text.isEmpty then none else return (text, next)

/-- The exclamation mark and the name behind it, with another mark if one follows. -/
def handle (cursor : Cursor) : List Char × Cursor :=
  let name := (cursor.rest.drop 1).takeWhile isNameChar
  let next := cursor.advance (name.length + 1)
  match next.rest with
  | '!' :: _ => ('!' :: name ++ ['!'], next.advance 1)
  | _ => ('!' :: name, next)

/-- A tag, as its handle and what follows that. -/
def tag? (cursor : Cursor) : Option (YamlToken × Cursor) := do
  match cursor.rest with
  | '!' :: '<' :: _ =>
    let (text, next) ← tagUri? true (cursor.advance 2)
    match next.rest with
    | '>' :: _ => return (.tag "" (String.ofList text), next.advance 1)
    | _ => none
  | _ =>
    let (front, next) := handle cursor
    if front.length > 1 ∧ front.getLast? = some '!' then
      let (text, next) ← tagUri? false next
      return (.tag (String.ofList front) (String.ofList text), next)
    else
      let (text, next) ← tagText? false (next.rest.length + 1) (front.drop 1) next
      if text.isEmpty then return (.tag "" "!", next) else return (.tag "!" (String.ofList text), next)

/-! ## Directives -/

/-- A number of at most nine digits. -/
def versionNumber? (cursor : Cursor) : Option (Nat × Cursor) :=
  let digits := cursor.rest.takeWhile Text.isDigit
  if digits.isEmpty || digits.length > 9 then none else some (Text.ofDigits digits, cursor.advance digits.length)

/-- The directive behind a percent sign, with the rest of its line. -/
def directive? (cursor : Cursor) : Option (YamlToken × Cursor) := do
  let name := cursor.rest.takeWhile isNameChar
  let next := cursor.advance name.length
  if !startsBlank next.rest then none
  else
    let next := next.skipWhile isBlank
    let (token, next) ←
      if String.ofList name = "YAML" then do
        let (major, next) ← versionNumber? next
        match next.rest with
        | '.' :: _ =>
          let (minor, next) ← versionNumber? (next.advance 1)
          some (YamlToken.version major minor, next)
        | _ => none
      else if String.ofList name = "TAG" ∧ next.rest.head? = some '!' then do
        let (front, next) := handle next
        if front ≠ ['!'] ∧ front.getLast? ≠ some '!' then none
        else if !next.rest.head?.any isBlank then none
        else
          let (text, next) ← tagUri? true (next.skipWhile isBlank)
          if startsBlank next.rest then some (YamlToken.tagHandle (String.ofList front) (String.ofList text), next) else none
      else none
    return (token, ← next.lineEnd?)

/-! ## Tokens -/

/-- A mark that ends all collections and starts a new line of thought: a directive, or the start or end
of a document. -/
def reset? (s : Scanner) : Option Scanner := do
  some { ← s.closeAll.dropStart? with keyAllowed := false }

/-- A token that may be the start of a key and is not followed by one. -/
def node? (s : Scanner) (read : Cursor → Option (YamlToken × Cursor)) : Option Scanner := do
  let s ← s.noteStart?
  let (token, cursor) ← read s.cursor
  some { s.push token with cursor, keyAllowed := false }

/-- The colon behind a key or in front of a value. -/
def value? (s : Scanner) : Option Scanner :=
  match s.starts with
  | some start :: outer =>
    let opens := !s.inFlow && s.isDeeper start.column
    let s := s.insert start.number (if opens then [.blockMapping, .key] else [.key])
    let s := if opens then { s with indents := start.column :: s.indents } else s
    some { s.take 1 .value with starts := none :: outer, keyAllowed := false }
  | _ =>
    if !s.inFlow && !s.keyAllowed then none
    else some { (s.openHere .blockMapping).take 1 .value with keyAllowed := !s.inFlow }

/-- A dash or question mark, which only stands where a key may start. -/
def indicator? (s : Scanner) (collection token : YamlToken) (keyAllowed : Bool) : Option Scanner :=
  if !s.inFlow && !s.keyAllowed then none
  else do some { (← (s.openHere collection).dropStart?).take 1 token with keyAllowed }

/-- An opening bracket. -/
def open? (s : Scanner) (token : YamlToken) : Option Scanner := do
  let s ← s.noteStart?
  some { s.take 1 token with starts := none :: s.starts, keyAllowed := true }

/-- A closing bracket; one that was not opened closes no level. -/
def close? (s : Scanner) (token : YamlToken) : Option Scanner := do
  let s ← s.dropStart?
  some { s.take 1 token with starts := if s.inFlow then s.starts.drop 1 else s.starts, keyAllowed := false }

/-- A block scalar. -/
def blockScalar? (s : Scanner) (folded : Bool) : Option Scanner := do
  let s ← s.dropStart?
  let (text, cursor) ← block? folded s.indents.head? (s.cursor.advance 1)
  some { s.push (.scalar (if folded then .folded else .literal) (String.ofList text)) with cursor, keyAllowed := true }

/-- A plain scalar; a key may start behind its last line. -/
def plainScalar? (s : Scanner) : Option Scanner := do
  let s ← s.noteStart?
  let (text, broken, cursor) ← plain? s.inFlow ((s.indents.head?.map (· + 1)).getD 0) s.cursor
  some { s.push (.scalar .plain (String.ofList text)) with cursor, keyAllowed := broken }

/-- Whether a plain scalar may start with some characters. -/
def startsPlain (inFlow : Bool) : List Char → Bool
  | [] => false
  | c :: rest =>
    let isMark := "-?:,[]\x7b\x7d#&*!|>\x27\"%@`".toList.contains c
    !(isBlank c || isBreak c || isMark)
      || (c = '-' && !rest.head?.any isBlank)
      || (!inFlow && (c = '?' || c = ':') && !startsBlank rest)

/-- **One more token**, from the place where it starts. -/
def step? (s : Scanner) : Option Scanner :=
  let cs := s.cursor.rest
  let rest := cs.drop 1
  let spaced := startsBlank rest
  match cs with
  | [] => do some ((← s.reset?).push .streamEnd)
  | c :: _ =>
    if s.cursor.column = 0 && c = '%' then do
      let s ← s.reset?
      let (token, cursor) ← directive? (s.cursor.advance 1)
      some { s.push token with cursor }
    else if s.cursor.atDocumentMark then do
      some ((← s.reset?).take 3 (if c = '-' then .documentStart else .documentEnd))
    else if c = '[' then s.open? .flowSequence
    else if c = '\x7b' then s.open? .flowMapping
    else if c = ']' then s.close? .flowSequenceEnd
    else if c = '\x7d' then s.close? .flowMappingEnd
    else if c = ',' then do some { (← s.dropStart?).take 1 .comma with keyAllowed := true }
    else if c = '-' && spaced then s.indicator? .blockSequence .entry true
    else if c = '?' && (s.inFlow || spaced) then s.indicator? .blockMapping .key !s.inFlow
    else if c = ':' && (s.inFlow || spaced) then s.value?
    else if c = '*' then s.node? fun cursor => (name? (cursor.advance 1)).map fun (name, next) => (.reference name, next)
    else if c = '&' then s.node? fun cursor => (name? (cursor.advance 1)).map fun (name, next) => (.anchor name, next)
    else if c = '!' then s.node? fun cursor => do
      let (token, next) ← tag? cursor
      if startsBlank next.rest || (s.inFlow && next.rest.head? == some ',') then some (token, next) else none
    else if c = '|' && !s.inFlow then s.blockScalar? false
    else if c = '>' && !s.inFlow then s.blockScalar? true
    else if c = '\x27' then s.node? fun cursor =>
      (quoted? true (cursor.advance 1)).map fun (text, next) => (.scalar .quoted (String.ofList text), next)
    else if c = '"' then s.node? fun cursor =>
      (quoted? false (cursor.advance 1)).map fun (text, next) => (.scalar .quoted (String.ofList text), next)
    else if startsPlain s.inFlow cs then s.plainScalar?
    else none

/-- Tokens up to the end of the text. Each step consumes a character, so one more than the length of the
text is enough fuel. -/
def run? : (fuel : Nat) → Scanner → Option (List YamlToken)
  | 0, _ => none
  | fuel + 1, s => do
    let s ← (s.skipToToken (s.cursor.rest.length + 1)).dropStale?
    let s ← (s.closeTo s.cursor.column).step?
    if s.tokens.head? = some .streamEnd then some s.tokens.reverse else run? fuel s

end Scanner

/-- **The tokens of a YAML text.** A byte order mark in front is passed over, a second one takes a column,
and a character that may not stand in a stream spoils it as a whole. -/
def tokens? (text : String) : Option (List YamlToken) :=
  let cs := text.toList
  if cs.all isPrintable then
    let mark := cs.head? == some '\ufeff'
    let cursor : Cursor := { rest := if mark then cs.drop 1 else cs }
    let cursor := if cursor.rest.head? == some '\ufeff' then cursor.advance 1 else cursor
    Scanner.run? (cs.length + 2) { cursor }
  else none

end Yaml

end WorkflowAtlas
