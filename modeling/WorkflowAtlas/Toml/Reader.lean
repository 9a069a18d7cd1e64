import WorkflowAtlas.Toml.Basic
import WorkflowAtlas.Text.Digits
import WorkflowAtlas.Text.Cut

/-!
# TOML text

Reading TOML 1.0. Each reader takes the characters from some place on and gives back what it read with
the characters that follow. A text that is no TOML is refused as a whole, so readers give no reasons.
-/

namespace WorkflowAtlas.Toml

open Text (isDigit)

/-! ## Blanks, comments and lines -/

/-- A blank within a line. -/
def isSpace (c : Char) : Bool := c = ' ' || c = '\t'

def skipSpace (cs : List Char) : List Char := cs.dropWhile isSpace

/-- A character that may stand in a comment: no control character but the tab. -/
def isPlain (c : Char) : Bool :=
  c = '\t' || (c.toNat ≥ 0x20 && c.toNat ≠ 0x7F)

/-- What follows a line break. -/
def lineBreak? : List Char → Option (List Char)
  | '\n' :: rest => some rest
  | '\r' :: '\n' :: rest => some rest
  | _ => none

/-- What follows a comment, if one stands here. -/
def skipComment : List Char → List Char
  | '#' :: rest => rest.dropWhile isPlain
  | cs => cs

/-- What follows the rest of a line that holds nothing more than a comment. -/
def lineEnd? (cs : List Char) : Option (List Char) :=
  match skipComment (skipSpace cs) with
  | [] => some []
  | cs => lineBreak? cs

/-- Skips blanks, line breaks and comments; a comment ends with its line. -/
def skipLines? : (fuel : Nat) → List Char → Option (List Char)
  | 0, _ => none
  | fuel + 1, cs =>
    match skipSpace cs with
    | '#' :: rest => (lineBreak? (rest.dropWhile isPlain)).bind (skipLines? fuel)
    | '\n' :: rest => skipLines? fuel rest
    | '\r' :: rest => (lineBreak? ('\r' :: rest)).bind (skipLines? fuel)
    | cs => some cs

/-! ## Strings -/

/-- The character of an escape of one letter. -/
def shortEscape? (c : Char) : Option Char :=
  match c with
  | 'b' => some '\x08'
  | 't' => some '\t'
  | 'n' => some '\n'
  | 'f' => some '\x0c'
  | 'r' => some '\r'
  | '"' => some '"'
  | '\\' => some '\\'
  | _ => none

/-- A character of a fixed number of hexadecimal digits. -/
def hexEscape? (size : Nat) (cs : List Char) : Option (Char × List Char) :=
  if (cs.take size).length = size then (Text.hexChar? (cs.take size)).map (·, cs.drop size) else none

/-- The character that an escape stands for, behind its backslash. -/
def escape? : List Char → Option (Char × List Char)
  | 'u' :: rest => hexEscape? 4 rest
  | 'U' :: rest => hexEscape? 8 rest
  | c :: rest => (shortEscape? c).map (·, rest)
  | [] => none

/-- A string in double quotes behind the opening one, its reversed beginning in `text`. -/
def basicFrom? : (fuel : Nat) → (text : List Char) → List Char → Option (String × List Char)
  | 0, _, _ => none
  | _, _, [] => none
  | _, text, '"' :: rest => some (String.ofList text.reverse, rest)
  | fuel + 1, text, '\\' :: rest => do
    let (c, rest) ← escape? rest
    basicFrom? fuel (c :: text) rest
  | fuel + 1, text, c :: rest => if isPlain c then basicFrom? fuel (c :: text) rest else none

/-- A string in single quotes behind the opening one. -/
def literal? (cs : List Char) : Option (String × List Char) :=
  match cs.span fun c => isPlain c && c ≠ '\x27' with
  | (text, '\x27' :: rest) => some (String.ofList text, rest)
  | _ => none

/-- The first line break of a text over several lines does not belong to it. -/
def dropFirstBreak (cs : List Char) : List Char :=
  (lineBreak? cs).getD cs

/-- What follows blanks and line breaks. -/
def skipBreaks : (fuel : Nat) → List Char → List Char
  | 0, cs => cs
  | fuel + 1, cs =>
    match skipSpace cs with
    | '\n' :: rest => skipBreaks fuel rest
    | '\r' :: '\n' :: rest => skipBreaks fuel rest
    | cs => cs

/-- What follows a line break behind a backslash, blanks and further line breaks included. -/
def joinedLine? (fuel : Nat) (cs : List Char) : Option (List Char) :=
  (lineBreak? (skipSpace cs)).map (skipBreaks fuel)

/-- A text over several lines that ends with three of `mark`, and up to two of them may stand right
before the end. Escapes count only `withEscapes`; every line break is read as one character. -/
def multilineFrom? (mark : Char) (withEscapes : Bool) : (fuel : Nat) → (text : List Char) → List Char → Option (String × List Char)
  | 0, _, _ => none
  | _, _, [] => none
  | fuel + 1, text, c :: rest =>
    if c = mark then
      let marks := ((c :: rest).takeWhile (· = mark)).length
      if marks < 3 then multilineFrom? mark withEscapes fuel (c :: text) rest
      else
        let own := min (marks - 3) 2
        some (String.ofList (List.replicate own mark ++ text).reverse, rest.drop (own + 2))
    else if c = '\\' ∧ withEscapes then
      match joinedLine? fuel rest with
      | some rest => multilineFrom? mark withEscapes fuel text rest
      | none => do
        let (c, rest) ← escape? rest
        multilineFrom? mark withEscapes fuel (c :: text) rest
    else
      match lineBreak? (c :: rest) with
      | some rest => multilineFrom? mark withEscapes fuel ('\n' :: text) rest
      | none => if isPlain c then multilineFrom? mark withEscapes fuel (c :: text) rest else none

/-- A string of any of the four kinds. -/
def string? (cs : List Char) : Option (String × List Char) :=
  match cs with
  | '"' :: '"' :: '"' :: rest => multilineFrom? '"' true (rest.length + 1) [] (dropFirstBreak rest)
  | '\x27' :: '\x27' :: '\x27' :: rest => multilineFrom? '\x27' false (rest.length + 1) [] (dropFirstBreak rest)
  | '"' :: rest => basicFrom? (rest.length + 1) [] rest
  | '\x27' :: rest => literal? rest
  | _ => none

/-! ## Numbers -/

/-- Digits of a base with single underscores between them. -/
def digitsFrom? (base : Nat) : List Char → Option ((List Char) × List Char)
  | [] => none
  | c :: rest => do
    let _ ← Text.digitValue? base c
    some (more c rest)
where
  /-- The digits behind one digit, which is put in front. -/
  more (first : Char) : List Char → List Char × List Char
    | '_' :: d :: rest =>
      if (Text.digitValue? base d).isSome then
        let (digits, left) := more d rest
        (first :: digits, left)
      else ([first], '_' :: d :: rest)
    | d :: rest =>
      if (Text.digitValue? base d).isSome then
        let (digits, left) := more d rest
        (first :: digits, left)
      else ([first], d :: rest)
    | [] => ([first], [])

/-- A sign, if there is one, as whether it is a minus. -/
def sign : List Char → Bool × List Char
  | '-' :: rest => (true, rest)
  | '+' :: rest => (false, rest)
  | cs => (false, cs)

/-- The whole part of a decimal number: a single zero, or digits that start with none. -/
def whole? : List Char → Option ((List Char) × List Char)
  | '0' :: rest => some (['0'], rest)
  | cs => digitsFrom? 10 cs

/-- A number that fits 64 bits with a sign. -/
def fit? (number : Int) : Option Toml :=
  if -(Text.bound64 / 2) ≤ number ∧ number < Text.bound64 / 2 then some (.integer number) else none

/-- An integer in decimal, or in another base behind its mark. -/
def integer? (cs : List Char) : Option (Toml × List Char) :=
  match cs with
  | '0' :: 'x' :: rest => based 16 rest
  | '0' :: 'o' :: rest => based 8 rest
  | '0' :: 'b' :: rest => based 2 rest
  | _ => do
    let (negative, rest) := sign cs
    let (digits, rest) ← whole? rest
    let size : Int := Text.ofDigits digits
    return (← fit? (if negative then -size else size), rest)
where
  based (base : Nat) (cs : List Char) : Option (Toml × List Char) := do
    let (digits, rest) ← digitsFrom? base cs
    return (← fit? ((Text.ofBase? base digits).getD 0), rest)

/-- An exponent behind a decimal number, as its sign and digits. -/
def exponent? : List Char → Option ((Bool × List Char) × List Char)
  | c :: rest => do
    if c = 'e' ∨ c = 'E' then
      let (negative, rest) := sign rest
      let (digits, rest) ← digitsFrom? 10 rest
      some ((negative, digits), rest)
    else none
  | [] => none

/-- A number with a fraction or an exponent. A positive one must be in the range of a double. -/
def float? (cs : List Char) : Option (Toml × List Char) := do
  let (negative, rest) := sign cs
  match rest with
  | 'i' :: 'n' :: 'f' :: rest => some (.float, rest)
  | 'n' :: 'a' :: 'n' :: rest => some (.float, rest)
  | _ =>
    let (digits, rest) ← whole? rest
    let (fraction, rest) ← match rest with
      | '.' :: rest => (digitsFrom? 10 rest).map fun (fraction, rest) => (some fraction, rest)
      | rest => some (none, rest)
    let tail := fraction.getD []
    let number := Text.ofDigits (digits ++ tail)
    match fraction, exponent? rest with
    | none, none => none
    | some _, none => finish negative number 0 tail.length rest
    | _, some ((true, e), rest) => finish negative number 0 (tail.length + Text.ofDigits e) rest
    | _, some ((false, e), rest) => finish negative number (Text.ofDigits e) tail.length rest
where
  finish (negative : Bool) (number up down : Nat) (rest : List Char) : Option (Toml × List Char) :=
    if !negative && Text.isVast number up down then none else some (.float, rest)

/-! ## Dates and times -/

/-- A number of a fixed count of digits within bounds. -/
def fixed? (size low high : Nat) (cs : List Char) : Option (Nat × List Char) :=
  let digits := cs.take size
  if digits.length = size && digits.all isDigit && low ≤ Text.ofDigits digits && Text.ofDigits digits ≤ high then
    some (Text.ofDigits digits, cs.drop size)
  else none

/-- The number of days of a month. -/
def daysIn (year month : Nat) : Nat :=
  if month = 2 then (if (year % 4 = 0 ∧ year % 100 ≠ 0) ∨ year % 400 = 0 then 29 else 28)
  else if month ∈ [4, 6, 9, 11] then 30 else 31

/-- What follows a day of the calendar. -/
def day? (cs : List Char) : Option (List Char) := do
  let (year, cs) ← fixed? 4 0 9999 cs
  let (month, cs) ← fixed? 2 1 12 (← Text.after? ['-'] cs)
  let (_, cs) ← fixed? 2 1 (daysIn year month) (← Text.after? ['-'] cs)
  return cs

/-- What follows a time of day; its seconds may have a fraction. -/
def time? (cs : List Char) : Option (List Char) := do
  let (_, cs) ← fixed? 2 0 23 cs
  let (_, cs) ← fixed? 2 0 59 (← Text.after? [':'] cs)
  let (_, cs) ← fixed? 2 0 60 (← Text.after? [':'] cs)
  match cs with
  | '.' :: d :: rest => if isDigit d then return rest.dropWhile isDigit else return cs
  | _ => return cs

/-- What follows the distance from universal time. -/
def offset? : List Char → Option (List Char)
  | 'Z' :: rest => some rest
  | 'z' :: rest => some rest
  | c :: rest => do
    if c = '+' ∨ c = '-' then
      let (_, rest) ← fixed? 2 0 23 rest
      let (_, rest) ← fixed? 2 0 59 (← Text.after? [':'] rest)
      return rest
    else none
  | [] => none

/-- A day, a day with a time, or a time. -/
def date? (cs : List Char) : Option (Toml × List Char) :=
  match day? cs with
  | some rest =>
    match rest with
    | c :: more =>
      if c = 'T' ∨ c = 't' ∨ c = ' ' then
        match time? more with
        | some after => some (.date, (offset? after).getD after)
        | none => some (.date, rest)
      else some (.date, rest)
    | [] => some (.date, [])
  | none => (time? cs).map (.date, ·)

/-! ## Keys -/

/-- A character of a key without quotes. -/
def isKeyChar (c : Char) : Bool :=
  ('a' ≤ c && c ≤ 'z') || ('A' ≤ c && c ≤ 'Z') || isDigit c || c = '-' || c = '_'

/-- One key, with or without quotes. -/
def simpleKey? (cs : List Char) : Option (String × List Char) :=
  match cs with
  | '"' :: rest => basicFrom? (rest.length + 1) [] rest
  | '\x27' :: rest => literal? rest
  | _ =>
    match cs.span isKeyChar with
    | ([], _) => none
    | (key, rest) => some (String.ofList key, rest)

/-- Keys with dots between them, the last one apart; blanks around each are skipped. -/
def keysFrom? : (fuel : Nat) → (earlier : List String) → List Char → Option ((List String × String) × List Char)
  | 0, _, _ => none
  | fuel + 1, earlier, cs => do
    let (key, rest) ← simpleKey? (skipSpace cs)
    match skipSpace rest with
    | '.' :: rest => keysFrom? fuel (earlier ++ [key]) rest
    | rest => some ((earlier, key), rest)

/-- Values may not be nested deeper, and keys may not have more parts, than this. -/
def depthBound : Nat := 79

/-- A key of one or more parts. -/
def key? (cs : List Char) : Option ((List String × String) × List Char) :=
  keysFrom? depthBound [] cs

/-! ## Values -/

/-- A value that is neither an array nor a table. -/
def scalar? (cs : List Char) : Option (Toml × List Char) :=
  match cs with
  | [] => none
  | c :: rest =>
    if c = '"' ∨ c = '\x27' then (string? cs).map fun (text, rest) => (.string text, rest)
    else if c = 't' then (Text.after? "rue".toList rest).map (.boolean true, ·)
    else if c = 'f' then (Text.after? "alse".toList rest).map (.boolean false, ·)
    else date? cs <|> float? cs <|> integer? cs

mutual

/-- A value inside `depth` others. Every call consumes a character, so the length of the text is enough
fuel. -/
def valueFrom? (fuel depth : Nat) (cs : List Char) : Option (Toml × List Char) :=
  match fuel with
  | 0 => none
  | fuel + 1 =>
    match cs with
    | '[' :: rest => if depth < depthBound then itemsFrom? fuel (depth + 1) [] rest else none
    | '\x7b' :: rest =>
      if depth < depthBound then
        match skipSpace rest with
        | '\x7d' :: rest => some (.table .inline [], rest)
        | _ => pairsFrom? fuel (depth + 1) (.table .inline []) rest
      else none
    | _ => scalar? cs

/-- The items of an array from one item or the closing bracket on. -/
def itemsFrom? (fuel depth : Nat) (items : List Toml) (cs : List Char) : Option (Toml × List Char) :=
  match fuel with
  | 0 => none
  | fuel + 1 => do
    match ← skipLines? (cs.length + 1) cs with
    | ']' :: rest => some (.array items, rest)
    | cs =>
      let (item, rest) ← valueFrom? fuel depth cs
      match ← skipLines? (rest.length + 1) rest with
      | ',' :: rest => itemsFrom? fuel depth (items ++ [item]) rest
      | ']' :: rest => some (.array (items ++ [item]), rest)
      | _ => none

/-- The keys and values of a table in braces from one key on, all on one line. -/
def pairsFrom? (fuel depth : Nat) (table : Toml) (cs : List Char) : Option (Toml × List Char) :=
  match fuel with
  | 0 => none
  | fuel + 1 => do
    let ((path, key), rest) ← key? cs
    let (value, rest) ← valueFrom? fuel depth (skipSpace (← Text.after? ['='] rest))
    let table ← assign? path key value table
    match skipSpace rest with
    | ',' :: rest => pairsFrom? fuel depth table rest
    | '\x7d' :: rest => some (table, rest)
    | _ => none

end

/-! ## Documents -/

/-- One statement, behind blanks, with the rest of its line. -/
def statement? (cs : List Char) : Option (TomlStatement × List Char) := do
  match cs with
  | '[' :: '[' :: rest =>
    let ((path, key), rest) ← key? rest
    some (.itemHeader path key, ← lineEnd? (← Text.after? "]]".toList rest))
  | '[' :: rest =>
    let ((path, key), rest) ← key? rest
    some (.header path key, ← lineEnd? (← Text.after? [']'] rest))
  | _ =>
    let ((path, key), rest) ← key? cs
    let rest := skipSpace (← Text.after? ['='] rest)
    let (value, rest) ← valueFrom? (rest.length + 1) 0 rest
    some (.assign path key value, ← lineEnd? rest)

/-- The statements of a text, one a line. -/
def statementsFrom? : (fuel : Nat) → List TomlStatement → List Char → Option (List TomlStatement)
  | 0, _, _ => none
  | fuel + 1, earlier, cs =>
    match skipSpace cs with
    | [] => some earlier.reverse
    | cs =>
      match lineEnd? cs with
      | some rest => statementsFrom? fuel earlier rest
      | none => do
        let (statement, rest) ← statement? cs
        statementsFrom? fuel (statement :: earlier) rest

/-- **The table that a TOML text spells.** A byte order mark may come first. -/
def parse? (text : String) : Option Toml := do
  let cs := text.toList
  let cs := (Text.after? ['\ufeff'] cs).getD cs
  ofStatements? (← statementsFrom? (cs.length + 1) [] cs)

end WorkflowAtlas.Toml
