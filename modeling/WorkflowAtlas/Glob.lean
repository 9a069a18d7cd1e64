import WorkflowAtlas.Regex.Basic

/-!
# Globs

A **glob** is a pattern for paths: `?` and `*` for characters, `**` between slashes for directories,
classes in brackets and alternatives in braces. Paths are matched whole, byte by byte, so a character
beyond ASCII counts as several. A glob may be told that `?` and `*` stop at a slash.
-/

namespace WorkflowAtlas

/-- **One token of a glob.** -/
inductive GlobToken where
  | literal (c : Char)
  /-- `?`: one byte. -/
  | any
  /-- `*`: any bytes. -/
  | many
  /-- `**` in front: nothing, or any directories. -/
  | leading
  /-- `**` at the end: everything below. -/
  | trailing
  /-- `**` between slashes: any directories or none. -/
  | between
  /-- A class of characters, or of all others. -/
  | oneOf (others : Bool) (ranges : List (Char × Char))
  | either (branches : List (List GlobToken))
  deriving Repr, Inhabited

/-- **A glob**: its tokens, and whether `?` and `*` stop at a slash. -/
structure Glob where
  tokens : List GlobToken
  stopsAtSlash : Bool := false
  deriving Repr, Inhabited

/-- **Why a text is no glob.** -/
inductive GlobFault where
  /-- A bracket is not closed. -/
  | unclosedClass
  /-- The last character of a range comes before the first. -/
  | emptyRange
  /-- A brace is not closed. -/
  | unclosedBraces
  /-- A brace is closed that was not opened. -/
  | unopenedBrace
  /-- Nothing follows a backslash. -/
  | danglingEscape
  deriving DecidableEq, Repr

namespace Glob

/-! ## Reading -/

/-- What was read so far: the reversed tokens of the present branch, and for each open brace its
branches and the reversed tokens before it. -/
structure Reading where
  current : List GlobToken := []
  pending : List (List (List GlobToken) × List GlobToken) := []

def Reading.push (reading : Reading) (token : GlobToken) : Reading :=
  { reading with current := token :: reading.current }

/-- A range of a class whose last character is known. -/
def closeRange (ranges : List (Char × Char)) (last : Char) : Except GlobFault (List (Char × Char)) :=
  match ranges with
  | (first, _) :: rest => if first ≤ last then .ok ((first, last) :: rest) else .error .emptyRange
  | [] => .error .emptyRange

/-- The ranges of a class behind its opening, in reverse, `waiting` when the last one waits for its end. -/
def classFrom (first waiting : Bool) (ranges : List (Char × Char)) :
    List Char → Except GlobFault (List (Char × Char) × List Char)
  | [] => .error .unclosedClass
  | ']' :: rest =>
    if first then classFrom false false ((']', ']') :: ranges) rest
    else .ok (if waiting then ('-', '-') :: ranges else ranges, rest)
  | '-' :: rest =>
    if first then classFrom false false (('-', '-') :: ranges) rest
    else if waiting then do classFrom false false (← closeRange ranges '-') rest
    else classFrom false true ranges rest
  | c :: rest =>
    if waiting then do classFrom false false (← closeRange ranges c) rest
    else classFrom false false ((c, c) :: ranges) rest

/-- A class behind its bracket. -/
def readClass (cs : List Char) : Except GlobFault (GlobToken × List Char) :=
  let (others, cs) := match cs with
    | '!' :: rest => (true, rest)
    | '^' :: rest => (true, rest)
    | cs => (false, cs)
  (classFrom true false [] cs).map fun (ranges, rest) => (.oneOf others ranges.reverse, rest)

/-- What `**` adds to what was read, `before` being the character in front of it and `cs` what follows;
and what is left. Away from slashes and ends it is `*` twice. -/
def readStars (reading : Reading) (before : Option Char) (cs : List Char) : Reading × List Char :=
  let twice := ((reading.push .many).push .many, cs)
  let inBraces := !reading.pending.isEmpty
  match reading.current with
  | [] =>
    match cs with
    | [] => (reading.push .leading, [])
    | '/' :: rest => (reading.push .leading, rest)
    | _ => twice
  | last :: earlier =>
    let replace := fun (token : GlobToken) =>
      match last with
      | .leading => reading
      | .trailing => reading
      | _ => { reading with current := token :: earlier }
    if before != some '/' then twice
    else
      match cs with
      | [] => (replace .trailing, [])
      | '/' :: rest => (replace .between, rest)
      | c :: _ => if inBraces && (c == ',' || c == '\x7d') then (replace .trailing, cs) else twice

/-- The tokens of a text, `before` being the character in front of it. Each step consumes a character,
so the length of the text is enough fuel. A bracket that is not closed is literal if `lenient`. -/
def readTokens (lenient : Bool) : (fuel : Nat) → Reading → (before : Option Char) → List Char →
    Except GlobFault (List GlobToken)
  | 0, reading, _, _ => .ok reading.current.reverse
  | _, reading, _, [] => if reading.pending.isEmpty then .ok reading.current.reverse else .error .unclosedBraces
  | fuel + 1, reading, before, c :: cs =>
    match c, cs with
    | '?', _ => readTokens lenient fuel (reading.push .any) (some c) cs
    | '*', '*' :: rest =>
      let (after, left) := readStars reading before rest
      readTokens lenient fuel after (if left.length < rest.length then some '/' else some '*') left
    | '*', _ => readTokens lenient fuel (reading.push .many) (some c) cs
    | '[', _ =>
      match readClass cs with
      | .ok (token, rest) => readTokens lenient fuel (reading.push token) (some ']') rest
      | .error fault =>
        if lenient ∧ fault = .unclosedClass then readTokens lenient fuel (reading.push (.literal c)) (some c) cs
        else .error fault
    | '\x7b', _ =>
      readTokens lenient fuel { current := [], pending := ([], reading.current) :: reading.pending } (some c) cs
    | '\x7d', _ =>
      match reading.pending with
      | [] => .error .unopenedBrace
      | (branches, outer) :: pending =>
        let token := GlobToken.either (branches ++ [reading.current.reverse])
        readTokens lenient fuel { current := token :: outer, pending } (some c) cs
    | ',', _ =>
      match reading.pending with
      | [] => readTokens lenient fuel (reading.push (.literal c)) (some c) cs
      | (branches, outer) :: pending =>
        let pending := (branches ++ [reading.current.reverse], outer) :: pending
        readTokens lenient fuel { current := [], pending } (some c) cs
    | '\\', [] => .error .danglingEscape
    | '\\', e :: rest => readTokens lenient fuel (reading.push (.literal e)) (some e) rest
    | _, _ => readTokens lenient fuel (reading.push (.literal c)) (some c) cs

/-- **The glob that a text spells**; a bracket must be closed. -/
def parse (text : String) : Except GlobFault Glob :=
  let cs := text.toList
  (readTokens false (cs.length + 1) {} none cs).map ({ tokens := · })

/-- **The glob that a line of an ignore file spells**: `?` and `*` stop at a slash, and a bracket that is
not closed is literal. -/
def parseLine (text : String) : Except GlobFault Glob :=
  let cs := text.toList
  (readTokens true (cs.length + 1) {} none cs).map ({ tokens := ·, stopsAtSlash := true })

/-! ## Matching -/

/-- The bytes of a text, each as the character of its number. -/
def bytes (text : String) : List Char :=
  text.toUTF8.toList.map fun byte => Char.ofNat byte.toNat

/-- The bytes of a character. -/
def charBytes (c : Char) : List Char :=
  bytes (String.singleton c)

/-- The bytes of a range: those of its ends, and between the last byte of the one and the first of the
other. -/
def rangeSet (range : Char × Char) : CharSet :=
  let ends := (charBytes range.1 ++ charBytes range.2).map fun c => (c, c)
  match (charBytes range.1).getLast?, (charBytes range.2).head? with
  | some first, some last => if range.1 = range.2 then .ofRanges ends else .ofRanges ((first, last) :: ends)
  | _, _ => .empty

/-- The bytes of a class. -/
def classSet (others : Bool) (ranges : List (Char × Char)) : CharSet :=
  let set := (ranges.map rangeSet).foldr CharSet.union .empty
  if others then .other set else set

/-- One byte that `?` or `*` takes. -/
def wild (stopsAtSlash : Bool) : Regex :=
  .one (if stopsAtSlash then .other (.single '/') else .all)

/-- Any bytes. -/
def anything : Regex :=
  .many (.one .all)

mutual

/-- What a token stands for; alternatives that are empty do not count. -/
def tokenRegex (stopsAtSlash : Bool) : GlobToken → Regex
  | .literal c => .literal (charBytes c)
  | .any => wild stopsAtSlash
  | .many => .many (wild stopsAtSlash)
  | .leading => .either (.perhaps (.char '/')) (.seq anything (.char '/'))
  | .trailing => .seq (.char '/') anything
  | .between => .either (.char '/') (.seq (.char '/') (.seq anything (.char '/')))
  | .oneOf others ranges => .one (classSet others ranges)
  | .either branches =>
    match branchRegexes stopsAtSlash branches with
    | [] => .empty
    | parts => .choice parts

/-- What tokens stand for, one after another; nothing at all for tokens that stand for nothing. -/
def tokensRegex? (stopsAtSlash : Bool) : List GlobToken → Option Regex
  | [] => none
  | token :: rest =>
    let isVoid := match token with
      | .either branches => (branchRegexes stopsAtSlash branches).isEmpty
      | _ => false
    match isVoid, tokensRegex? stopsAtSlash rest with
    | true, after => after
    | false, none => some (tokenRegex stopsAtSlash token)
    | false, some after => some (.seq (tokenRegex stopsAtSlash token) after)

/-- What the alternatives that are not empty stand for. -/
def branchRegexes (stopsAtSlash : Bool) : List (List GlobToken) → List Regex
  | [] => []
  | branch :: rest => (tokensRegex? stopsAtSlash branch).toList ++ branchRegexes stopsAtSlash rest

end

/-- The paths that a glob stands for; `**` alone stands for every path. -/
def regex (glob : Glob) : Regex :=
  match glob.tokens with
  | [.leading] => anything
  | tokens => (tokensRegex? glob.stopsAtSlash tokens).getD .empty

def isLiteral : GlobToken → Bool
  | .literal _ => true
  | _ => false

/-- Whether a glob is decided by the end of a path as a whole: all of it literal, or literal with a slash
or another start than `.` behind a wildcard. -/
def isPlainSuffix (glob : Glob) : Bool :=
  match glob.tokens with
  | .leading :: .many :: rest => !glob.stopsAtSlash && isEnd rest
  | .leading :: rest => rest.all isLiteral && rest.any fun
    | .literal '/' => true
    | _ => false
  | .many :: rest => !glob.stopsAtSlash && isEnd rest
  | tokens => tokens.all isLiteral
where
  isEnd : List GlobToken → Bool
    | [.literal '.'] => false
    | rest => rest.all isLiteral

/-- Whether a glob asks for a file name that ends in a dot: such a name has no extension to go by, and
the glob matches nothing unless the end of the path decides. -/
def asksForFinalDot (glob : Glob) : Bool :=
  (match glob.tokens.getLast? with
   | some (.literal '.') => true
   | _ => false) && !glob.isPlainSuffix

/-- **Whether a glob matches a path.** -/
def isMatch (glob : Glob) (path : String) : Bool :=
  !glob.asksForFinalDot && glob.regex.matchesWhole (bytes path)

end Glob

end WorkflowAtlas
