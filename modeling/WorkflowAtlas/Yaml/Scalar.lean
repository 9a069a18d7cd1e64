import WorkflowAtlas.Yaml.Cursor
import WorkflowAtlas.Text.Digits

/-!
# YAML scalars

Reading the texts of YAML: plain ones, which have no quotes; quoted ones; and blocks, which take whole
lines. Each reader starts behind the mark that announces the scalar and gives back its text with the
place behind it.
-/

namespace WorkflowAtlas.Yaml

/-! ## Plain scalars -/

/-- A word of a plain scalar: the characters up to a blank or a mark that ends the scalar. Inside
brackets some more marks do so, and `:` must not stand before one of them. -/
def plainWord? (inFlow : Bool) : List Char → Option (List Char)
  | [] => some []
  | c :: rest =>
    if isBlank c ∨ isBreak c then some []
    else if inFlow ∧ c = ':' ∧ rest.head?.any (fun d => ",?[]\x7b\x7d".toList.contains d) then none
    else if c = ':' ∧ startsBlank rest then some []
    else if inFlow ∧ ",[]\x7b\x7d".toList.contains c then some []
    else (plainWord? inFlow rest).map (c :: ·)

/-- A plain scalar: the text, whether a line break follows it, and the place behind both. Lines that go
on with it are indented by `indent` at least. -/
def plainFrom? (inFlow : Bool) (indent : Nat) : (fuel : Nat) → (text : List Char) → Gap → Cursor →
    Option (List Char × Bool × Cursor)
  | 0, _, _, _ => none
  | fuel + 1, text, gap, cursor =>
    if cursor.atDocumentMark || cursor.rest.head? == some '#' then some (text, gap.broken, cursor)
    else do
      let word ← plainWord? inFlow cursor.rest
      if word.isEmpty then some (text, gap.broken, cursor)
      else
        let text := text ++ gap.text ++ word
        let cursor := cursor.advance word.length
        if cursor.rest.head?.any fun c => isBlank c || isBreak c then
          let (gap, cursor) ← gap? indent {} cursor
          if !inFlow && cursor.column < indent then some (text, gap.broken, cursor)
          else plainFrom? inFlow indent fuel text gap cursor
        else some (text, false, cursor)

/-- **A plain scalar.** -/
def plain? (inFlow : Bool) (indent : Nat) (cursor : Cursor) : Option (List Char × Bool × Cursor) :=
  plainFrom? inFlow indent (cursor.rest.length + 1) [] {} cursor

/-! ## Quoted scalars -/

/-- The character of an escape of one letter. -/
def shortEscape? (c : Char) : Option Char :=
  match c with
  | '0' => some '\x00'
  | 'a' => some '\x07'
  | 'b' => some '\x08'
  | 't' => some '\t'
  | '\t' => some '\t'
  | 'n' => some '\n'
  | 'v' => some '\x0b'
  | 'f' => some '\x0c'
  | 'r' => some '\r'
  | 'e' => some '\x1b'
  | ' ' => some ' '
  | '"' => some '"'
  | '/' => some '/'
  | '\\' => some '\\'
  | 'N' => some '\u0085'
  | '_' => some '\u00a0'
  | 'L' => some '\u2028'
  | 'P' => some '\u2029'
  | _ => none

/-- The number of hexadecimal digits that an escape takes. -/
def escapeSize? (c : Char) : Option Nat :=
  match c with
  | 'x' => some 2
  | 'u' => some 4
  | 'U' => some 8
  | _ => none

/-- The character of an escape behind its backslash, and how many characters the escape has there. -/
def escape? : List Char → Option (Char × Nat)
  | [] => none
  | c :: rest =>
    match escapeSize? c with
    | some size =>
      if (rest.take size).length = size then (Text.hexChar? (rest.take size)).map (·, size + 1) else none
    | none => (shortEscape? c).map (·, 1)

/-- A quoted scalar behind its opening quote. In single quotes a quote is written twice; in double quotes
a backslash escapes, and before a line break it joins the lines. -/
def quotedFrom? (single : Bool) : (fuel : Nat) → (text : List Char) → Cursor → Option (List Char × Cursor)
  | 0, _, _ => none
  | fuel + 1, text, cursor =>
    if cursor.atDocumentMark then none
    else
      match cursor.rest with
      | [] => none
      | c :: rest =>
        if isBlank c || isBreak c then do
          let (gap, cursor) ← gap? 0 {} cursor
          quotedFrom? single fuel (text ++ gap.text) cursor
        else if single && c = '\x27' && rest.head? == some '\x27' then
          quotedFrom? single fuel (text ++ [c]) (cursor.advance 2)
        else if c = (if single then '\x27' else '"') then some (text, cursor.advance 1)
        else if !single && c = '\\' then
          if rest.head?.any isBreak then do
            let (gap, cursor) ← gap? 0 { broken := true } (cursor.advance 1).readBreak.2
            quotedFrom? single fuel (text ++ gap.text) cursor
          else do
            let (e, size) ← escape? rest
            quotedFrom? single fuel (text ++ [e]) (cursor.advance (size + 1))
        else quotedFrom? single fuel (text ++ [c]) (cursor.advance 1)

/-- **A quoted scalar** behind its opening quote. -/
def quoted? (single : Bool) (cursor : Cursor) : Option (List Char × Cursor) :=
  quotedFrom? single (cursor.rest.length + 1) [] cursor

/-! ## Block scalars -/

/-- What becomes of the line breaks at the end of a block. -/
inductive Chomping where
  | strip
  | clip
  | keep
  deriving DecidableEq, Repr

/-- The marks behind `|` or `>`: how the end is treated and how far the block is indented, each at most
once and in either order. -/
def blockMarks? (cursor : Cursor) : Option (Chomping × Option Nat × Cursor) :=
  let chomping? := fun (c : Option Char) =>
    if c = some '+' then some Chomping.keep else if c = some '-' then some .strip else none
  let digit? := fun (c : Option Char) => (c.filter Text.isDigit).map fun d => d.toNat - 48
  let first := cursor.rest.head?
  let second := (cursor.rest.drop 1).head?
  match chomping? first, digit? first with
  | some chomping, _ =>
    match digit? second with
    | some 0 => none
    | some n => some (chomping, some n, cursor.advance 2)
    | none => some (chomping, none, cursor.advance 1)
  | none, some 0 => none
  | none, some n =>
    match chomping? second with
    | some chomping => some (chomping, some n, cursor.advance 2)
    | none => some (.clip, some n, cursor.advance 1)
  | none, none => some (.clip, none, cursor)

/-- The line breaks and the indentation in front of the next line that is not empty: their text, the
place and the deepest column met. An `indent` that is still open takes all spaces. -/
def blockBreaksFrom? (indent : Option Nat) : (fuel : Nat) → (breaks : List Char) → (deepest : Nat) → Cursor →
    Option (List Char × Nat × Cursor)
  | 0, _, _, _ => none
  | fuel + 1, breaks, deepest, cursor =>
    let spaces := (cursor.rest.takeWhile (· = ' ')).length
    let cursor := cursor.advance (match indent with
      | none => spaces
      | some n => min spaces (n - cursor.column))
    let deepest := max deepest cursor.column
    let short := match indent with
      | none => true
      | some n => decide (cursor.column < n)
    if short && cursor.rest.head? == some '\t' then none
    else if cursor.rest.head?.any isBreak then
      let (text, next) := cursor.readBreak
      blockBreaksFrom? indent fuel (breaks ++ text) deepest next
    else some (breaks, deepest, cursor)

def blockBreaks? (indent : Option Nat) (cursor : Cursor) : Option (List Char × Nat × Cursor) :=
  blockBreaksFrom? indent (cursor.rest.length + 1) [] 0 cursor

/-- The lines of a block: the text so far, the break of its last line, the breaks after that, whether
that line started with a blank, and the place. Lines of a folded block are joined by a space unless one
of them starts with a blank. -/
def blockLinesFrom? (folded : Bool) (indent : Nat) : (fuel : Nat) → (text last breaks : List Char) →
    (lastBlank : Bool) → Cursor → Option (List Char × List Char × List Char × Cursor)
  | 0, _, _, _, _, _ => none
  | fuel + 1, text, last, breaks, lastBlank, cursor =>
    if cursor.column = indent && !cursor.rest.isEmpty then do
      let startsWithBlank := cursor.rest.head?.any isBlank
      let joint :=
        if folded && last = ['\n'] && !lastBlank && !startsWithBlank then (if breaks = [] then [' '] else [])
        else last
      let line := cursor.rest.takeWhile fun c => !isBreak c
      let (last, next) := (cursor.advance line.length).readBreak
      let text := text ++ joint ++ breaks ++ line
      let (breaks, _, next) ← blockBreaks? (some indent) next
      blockLinesFrom? folded indent fuel text last breaks startsWithBlank next
    else some (text, last, breaks, cursor)

/-- **A block scalar** behind `|` or `>`; `outer` is the indentation of what it stands in. Its own
indentation is what its marks say beyond the outer one, or that of its first line. -/
def block? (folded : Bool) (outer : Option Nat) (cursor : Cursor) : Option (List Char × Cursor) := do
  let (chomping, step, cursor) ← blockMarks? cursor
  let cursor ← cursor.lineEnd?
  let given := step.map (· + outer.getD 0)
  let (breaks, deepest, cursor) ← blockBreaks? given cursor
  let indent := given.getD (max deepest (max 1 ((outer.map (· + 1)).getD 0)))
  let (text, last, breaks, cursor) ← blockLinesFrom? folded indent (cursor.rest.length + 1) [] [] breaks false cursor
  let ending := match chomping with
    | .strip => []
    | .clip => last
    | .keep => last ++ breaks
  return (text ++ ending, cursor)

end WorkflowAtlas.Yaml
