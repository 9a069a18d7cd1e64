/-!
# Places in YAML text

YAML goes by lines and columns, so a reader carries its place along. A **cursor** is a place in a text:
the characters that follow and how many characters, lines and columns lie before them. A **gap** is a
run of blanks and line breaks between two words of a scalar, and stands for the text into which the
run folds.
-/

namespace WorkflowAtlas.Yaml

/-! ## Characters -/

/-- A blank: a space or a tab. -/
def isBlank (c : Char) : Bool := c = ' ' || c = '\t'

/-- A line break: carriage return, line feed, next line, or one of the two separators. -/
def isBreak (c : Char) : Bool :=
  c = '\n' || c = '\r' || c.toNat = 0x85 || c.toNat = 0x2028 || c.toNat = 0x2029

/-- Whether a blank, a line break or the end stands in front of the text. -/
def startsBlank : List Char → Bool
  | [] => true
  | c :: _ => isBlank c || isBreak c

/-- Whether a line break or the end stands in front of the text. -/
def startsBreak : List Char → Bool
  | [] => true
  | c :: _ => isBreak c

/-- A letter, a digit, `_` or `-`, as in the names of anchors. -/
def isNameChar (c : Char) : Bool :=
  ('a' ≤ c && c ≤ 'z') || ('A' ≤ c && c ≤ 'Z') || ('0' ≤ c && c ≤ '9') || c = '_' || c = '-'

/-- A character that may stand in a stream at all. -/
def isPrintable (c : Char) : Bool :=
  let n := c.toNat
  n = 0x9 || n = 0xA || n = 0xD || (0x20 ≤ n && n ≤ 0x7E) || n = 0x85 || (0xA0 ≤ n && n ≤ 0xD7FF)
    || (0xE000 ≤ n && n ≤ 0xFFFD) || 0x10000 ≤ n

/-! ## Cursors -/

/-- **A place in a text.** -/
structure Cursor where
  rest : List Char
  /-- The number of characters before. -/
  index : Nat := 0
  line : Nat := 0
  column : Nat := 0
  deriving Repr, Inhabited

namespace Cursor

/-- The place behind some characters of the same line. -/
def advance (cursor : Cursor) (count : Nat) : Cursor :=
  { cursor with
    rest := cursor.rest.drop count
    index := cursor.index + count
    column := cursor.column + count }

/-- The place behind the characters of a class, none of which is a line break. -/
def skipWhile (p : Char → Bool) (cursor : Cursor) : Cursor :=
  cursor.advance (cursor.rest.takeWhile p).length

/-- The place on the next line, `count` characters further on. -/
def nextLine (cursor : Cursor) (count : Nat) : Cursor :=
  { rest := cursor.rest.drop count
    index := cursor.index + count
    line := cursor.line + 1
    column := 0 }

/-- The text of a line break and the place behind it; a place without one stays. A carriage return and
a line feed are one break, and all but the two separators are read as a line feed. -/
def readBreak (cursor : Cursor) : List Char × Cursor :=
  match cursor.rest with
  | '\r' :: '\n' :: _ => (['\n'], cursor.nextLine 2)
  | c :: _ =>
    if c = '\n' ∨ c = '\r' ∨ c.toNat = 0x85 then (['\n'], cursor.nextLine 1)
    else if isBreak c then ([c], cursor.nextLine 1)
    else ([], cursor)
  | [] => ([], cursor)

/-- The place behind blanks and a comment, within the line. -/
def skipComment (cursor : Cursor) : Cursor :=
  match cursor.rest with
  | '#' :: _ => cursor.skipWhile fun c => !isBreak c
  | _ => cursor

/-- The next line, when nothing but blanks and a comment is left of this one. -/
def lineEnd? (cursor : Cursor) : Option Cursor :=
  let cursor := (cursor.skipWhile isBlank).skipComment
  if startsBreak cursor.rest then some cursor.readBreak.2 else none

/-- Whether the mark of a document's start or end stands here, at the start of a line. -/
def atDocumentMark (cursor : Cursor) : Bool :=
  cursor.column = 0 &&
    match cursor.rest with
    | '-' :: '-' :: '-' :: rest => startsBlank rest
    | '.' :: '.' :: '.' :: rest => startsBlank rest
    | _ => false

end Cursor

/-! ## Gaps -/

/-- **A run of blanks and line breaks.** -/
structure Gap where
  /-- The blanks before the first line break. -/
  blanks : List Char := []
  /-- Whether there is a line break. -/
  broken : Bool := false
  /-- The text of the first line break. -/
  first : List Char := []
  /-- The text of the others. -/
  later : List Char := []
  deriving Repr, Inhabited

/-- **The text into which a gap folds**: blanks stay, one line feed becomes a space, and of several the
first is dropped. -/
def Gap.text (gap : Gap) : List Char :=
  if !gap.broken then gap.blanks
  else if gap.first = ['\n'] then (if gap.later = [] then [' '] else gap.later)
  else gap.first ++ gap.later

/-- The gap that goes on at a place, with the place behind it. A tab before column `indent` of a new line
is refused. -/
def gapFrom? (indent : Nat) : (fuel : Nat) → Gap → Cursor → Option (Gap × Cursor)
  | 0, gap, cursor => some (gap, cursor)
  | fuel + 1, gap, cursor =>
    match cursor.rest with
    | [] => some (gap, cursor)
    | c :: _ =>
      if isBlank c then
        if gap.broken then
          if c = '\t' ∧ cursor.column < indent then none else gapFrom? indent fuel gap (cursor.advance 1)
        else gapFrom? indent fuel { gap with blanks := gap.blanks ++ [c] } (cursor.advance 1)
      else if isBreak c then
        let (text, next) := cursor.readBreak
        if gap.broken then gapFrom? indent fuel { gap with later := gap.later ++ text } next
        else gapFrom? indent fuel { gap with broken := true, first := text } next
      else some (gap, cursor)

/-- The whole gap at a place. -/
def gap? (indent : Nat) (gap : Gap) (cursor : Cursor) : Option (Gap × Cursor) :=
  gapFrom? indent cursor.rest.length gap cursor

end WorkflowAtlas.Yaml
