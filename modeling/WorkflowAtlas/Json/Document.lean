import WorkflowAtlas.Json.Basic
import WorkflowAtlas.Text.Digits

/-!
# JSON text as far as it can be read

`Document.read` turns any text into a **document**: the JSON value it spells, or the part of one
before the place where the text breaks off, with that place marked by a **cut**. A consumer that
walks a document in order therefore meets a value of the wrong shape and a break in the text in the
order in which they are written, and reports the first of the two.

A value that nobody looks at is skipped, and skipping is more lenient than reading: half of a
surrogate pair and a number beyond the range of a double are no faults in a skipped value. A cut
records the fault of both readings, since a number that ends with the text is an early end to a
reader and a malformed number to one who skips it.
-/

namespace WorkflowAtlas

/-- **Why a text or a value is refused.** -/
inductive Fault where
  /-- The text is no JSON at this place. -/
  | malformed
  /-- The text ends too early. -/
  | ended
  /-- The value has not the shape that is asked for. -/
  | mismatch
  deriving DecidableEq, Repr, Inhabited

/-- **A cut**: the place where a text breaks off, with the fault for a reader and for one who skips. -/
structure Cut where
  read : Fault
  skipped : Fault
  deriving DecidableEq, Repr, Inhabited

/-- A cut with one fault for both. -/
def Cut.of (fault : Fault) : Cut :=
  ⟨fault, fault⟩

/-- How a list of items or members ends. -/
inductive Ending where
  | closed
  /-- The text breaks off before a comma or a closing bracket. -/
  | cut (place : Cut)
  /-- The text breaks off after a comma. -/
  | cutAfterComma (place : Cut)
  deriving DecidableEq, Repr, Inhabited

/-- **A JSON document as far as it can be read.** -/
inductive Document where
  | null
  | bool (value : Bool)
  /-- An integer without fraction or exponent that fits 64 bits. -/
  | int (value : Int)
  /-- Any other number in the range of a double. -/
  | real
  /-- A number beyond the range of a double. -/
  | vast
  | str (value : String)
  /-- A closed string that holds half of a surrogate pair, hence no text. -/
  | halfStr
  | arr (items : List Document) (ending : Ending)
  /-- Members in order; a key that is no text is `none`. -/
  | obj (members : List (Option String × Document)) (ending : Ending)
  | cut (place : Cut)
  deriving Inhabited, Repr

namespace Document

open Text (isDigit ofDigits hexValue? isVast bound64)

/-! ## Strings -/

/-- The value of four hexadecimal digits. -/
def hexQuad? (a b c d : Char) : Option Nat := do
  let a ← hexValue? a
  let b ← hexValue? b
  let c ← hexValue? c
  let d ← hexValue? d
  return ((a * 16 + b) * 16 + c) * 16 + d

/-- Whether fewer than four bytes of text are left. -/
def fewerThanFourBytes (cs : List Char) : Bool :=
  ((cs.take 4).foldl (fun n c => n + c.utf8Size) 0) < 4

/-- Why four hexadecimal digits could not be read. -/
def quadFault (cs : List Char) : Fault :=
  if fewerThanFourBytes cs then .ended else .malformed

def isHighHalf (n : Nat) : Bool := 0xD800 ≤ n && n ≤ 0xDBFF

def isLowHalf (n : Nat) : Bool := 0xDC00 ≤ n && n ≤ 0xDFFF

/-- The character of a surrogate pair. -/
def pairChar (high low : Nat) : Char :=
  Char.ofNat (0x10000 + (high - 0xD800) * 0x400 + (low - 0xDC00))

/-- The character of a one letter escape. -/
def escaped? (c : Char) : Option Char :=
  match c with
  | '"' => some '"'
  | '\\' => some '\\'
  | '/' => some '/'
  | 'b' => some (Char.ofNat 8)
  | 'f' => some (Char.ofNat 12)
  | 'n' => some '\n'
  | 'r' => some '\r'
  | 't' => some '\t'
  | _ => none

/-- The fault for a reader who met a high half that no low half follows in `rest`. -/
def halfFault : List Char → Fault
  | [] => .ended
  | ['\\'] => .ended
  | '\\' :: 'u' :: rest => quadFault rest
  | _ => .malformed

/-- The first fault for a reader once it is clear that no low half follows a pending high one. -/
def settle (half : Option Fault) (pending : Option Nat) (rest : List Char) : Option Fault :=
  match pending with
  | none => half
  | some _ => half.or (some (halfFault rest))

/-- The text that a string spells after its opening quote, its reversed beginning in `text`. `half` is
the fault of a reader at the first half of a surrogate pair that stands alone, and `pending` a high
half just read; a string with a fault is read on for those who skip it. The result has what follows
the closing quote. -/
def stringFrom (text : List Char) (half : Option Fault) (pending : Option Nat) :
    List Char → Document × Option (List Char)
  | [] => (.cut ⟨(settle half pending []).getD .ended, .ended⟩, none)
  | '"' :: rest =>
    match settle half pending ('"' :: rest) with
    | none => (.str (String.ofList text.reverse), some rest)
    | some _ => (.halfStr, some rest)
  | '\\' :: 'u' :: a :: b :: c :: d :: rest =>
    let settled := settle half pending ('\\' :: 'u' :: a :: b :: c :: d :: rest)
    match hexQuad? a b c d, pending with
    | none, _ =>
      let fault := quadFault (a :: b :: c :: d :: rest)
      (.cut ⟨settled.getD fault, fault⟩, none)
    | some n, some high =>
      if isLowHalf n then stringFrom (pairChar high n :: text) half none rest
      else if isHighHalf n then stringFrom text settled (some n) rest
      else stringFrom (Char.ofNat n :: text) settled none rest
    | some n, none =>
      if isLowHalf n then stringFrom text (half.or (some .malformed)) none rest
      else if isHighHalf n then stringFrom text half (some n) rest
      else stringFrom (Char.ofNat n :: text) half none rest
  | '\\' :: 'u' :: rest =>
    let fault := quadFault rest
    (.cut ⟨(settle half pending ('\\' :: 'u' :: rest)).getD fault, fault⟩, none)
  | ['\\'] => (.cut ⟨(settle half pending ['\\']).getD .ended, .ended⟩, none)
  | '\\' :: c :: rest =>
    let settled := settle half pending ('\\' :: c :: rest)
    match escaped? c with
    | some e => stringFrom (e :: text) settled none rest
    | none => (.cut ⟨settled.getD .malformed, .malformed⟩, none)
  | c :: rest =>
    let settled := settle half pending (c :: rest)
    if c.toNat < 32 then (.cut ⟨settled.getD .malformed, .malformed⟩, none)
    else stringFrom (c :: text) settled none rest

/-! ## Numbers -/

/-- A number from its parts. -/
def ofParts (negative : Bool) (whole : List Char) (fraction : Option (List Char)) (exponent : Option (Bool × List Char)) :
    Document :=
  match fraction, exponent with
  | none, none =>
    let n := ofDigits whole
    if negative then
      if n = 0 then .real
      else if n ≤ bound64 / 2 then .int (-(n : Int))
      else if isVast n 0 0 then .vast else .real
    else if n < bound64 then .int n
    else if isVast n 0 0 then .vast else .real
  | _, _ =>
    let tail := fraction.getD []
    let digits := ofDigits (whole ++ tail)
    let (up, down) :=
      match exponent with
      | none => (0, tail.length)
      | some (true, e) => (ofDigits e, tail.length)
      | some (false, e) => (0, tail.length + ofDigits e)
    if isVast digits up down then .vast else .real

/-- A number whose digits are missing in front of `rest`. -/
def numberCut (rest : List Char) : Document × Option (List Char) :=
  match rest with
  | [] => (.cut ⟨.ended, .malformed⟩, none)
  | _ => (.cut (.of .malformed), none)

/-- The exponent of a number after its mark, then the number. -/
def exponentFrom (negative : Bool) (whole : List Char) (fraction : Option (List Char)) (rest : List Char) :
    Document × Option (List Char) :=
  let (positive, rest) :=
    match rest with
    | '+' :: r => (true, r)
    | '-' :: r => (false, r)
    | r => (true, r)
  match rest.span isDigit with
  | ([], r) => numberCut r
  | (e, r) => (ofParts negative whole fraction (some (positive, e)), some r)

/-- What follows the whole part of a number, then the number. -/
def fractionFrom (negative : Bool) (whole : List Char) (rest : List Char) : Document × Option (List Char) :=
  match rest with
  | '.' :: r =>
    match r.span isDigit with
    | ([], r) => numberCut r
    | (fraction, 'e' :: r) => exponentFrom negative whole (some fraction) r
    | (fraction, 'E' :: r) => exponentFrom negative whole (some fraction) r
    | (fraction, r) => (ofParts negative whole (some fraction) none, some r)
  | 'e' :: r => exponentFrom negative whole none r
  | 'E' :: r => exponentFrom negative whole none r
  | r => (ofParts negative whole none none, some r)

/-- A number after its sign: a single `0`, or digits that do not start with `0`. -/
def numberFrom (negative : Bool) (cs : List Char) : Document × Option (List Char) :=
  match cs.span isDigit with
  | ([], r) => numberCut r
  | ('0' :: _ :: _, _) => (.cut (.of .malformed), none)
  | (whole, r) => fractionFrom negative whole r

/-! ## Values -/

/-- The blanks of JSON text. -/
def isSpace (c : Char) : Bool :=
  c == ' ' || c == '\n' || c == '\t' || c == '\r'

def skipSpace (cs : List Char) : List Char :=
  cs.dropWhile isSpace

/-- The rest of a word that stands for `value`. -/
def wordFrom (value : Document) : List Char → List Char → Document × Option (List Char)
  | [], rest => (value, some rest)
  | _ :: _, [] => (.cut (.of .ended), none)
  | w :: word, c :: rest => if w = c then wordFrom value word rest else (.cut (.of .malformed), none)

mutual

/-- A value, and what follows it unless the text breaks off. Every call consumes a character, so the
length of the text bounds the depth `fuel`. -/
def valueFrom (fuel : Nat) (cs : List Char) : Document × Option (List Char) :=
  match fuel with
  | 0 => (.cut (.of .malformed), none)
  | fuel + 1 =>
    match skipSpace cs with
    | [] => (.cut (.of .ended), none)
    | 'n' :: rest => wordFrom .null ['u', 'l', 'l'] rest
    | 't' :: rest => wordFrom (.bool true) ['r', 'u', 'e'] rest
    | 'f' :: rest => wordFrom (.bool false) ['a', 'l', 's', 'e'] rest
    | '"' :: rest => stringFrom [] none none rest
    | '[' :: rest =>
      match skipSpace rest with
      | [] => (.arr [] (.cut (.of .ended)), none)
      | ']' :: rest => (.arr [] .closed, some rest)
      | rest => itemsFrom fuel [] rest
    | '\x7b' :: rest =>
      match skipSpace rest with
      | [] => (.obj [] (.cut (.of .ended)), none)
      | '\x7d' :: rest => (.obj [] .closed, some rest)
      | rest => membersFrom fuel [] rest
    | '-' :: rest => numberFrom true rest
    | c :: rest => if isDigit c then numberFrom false (c :: rest) else (.cut (.of .malformed), none)

/-- The items of an array from one item on, the earlier ones reversed in `items`. -/
def itemsFrom (fuel : Nat) (items : List Document) (cs : List Char) : Document × Option (List Char) :=
  match fuel with
  | 0 => (.cut (.of .malformed), none)
  | fuel + 1 =>
    match valueFrom fuel cs with
    | (item, none) => (.arr (item :: items).reverse (.cut (.of .malformed)), none)
    | (item, some rest) =>
      let items := item :: items
      match skipSpace rest with
      | [] => (.arr items.reverse (.cut (.of .ended)), none)
      | ']' :: rest => (.arr items.reverse .closed, some rest)
      | ',' :: rest =>
        match skipSpace rest with
        | [] => (.arr items.reverse (.cutAfterComma (.of .ended)), none)
        | ']' :: _ => (.arr items.reverse (.cutAfterComma (.of .malformed)), none)
        | rest => itemsFrom fuel items rest
      | _ => (.arr items.reverse (.cut (.of .malformed)), none)

/-- The members of an object from one key on, the earlier ones reversed in `members`. -/
def membersFrom (fuel : Nat) (members : List (Option String × Document)) (cs : List Char) :
    Document × Option (List Char) :=
  match fuel with
  | 0 => (.cut (.of .malformed), none)
  | fuel + 1 =>
    match cs with
    | '"' :: rest =>
      match stringFrom [] none none rest with
      | (.cut place, _) => (.obj members.reverse (.cut place), none)
      | (_, none) => (.obj members.reverse (.cut (.of .malformed)), none)
      | (spelled, some rest) =>
        let key := match spelled with
          | .str s => some s
          | _ => none
        match skipSpace rest with
        | [] => (.obj ((key, .cut (.of .ended)) :: members).reverse (.cut (.of .ended)), none)
        | ':' :: rest =>
          match valueFrom fuel rest with
          | (value, none) => (.obj ((key, value) :: members).reverse (.cut (.of .malformed)), none)
          | (value, some rest) =>
            let members := (key, value) :: members
            match skipSpace rest with
            | [] => (.obj members.reverse (.cut (.of .ended)), none)
            | '\x7d' :: rest => (.obj members.reverse .closed, some rest)
            | ',' :: rest =>
              match skipSpace rest with
              | [] => (.obj members.reverse (.cut (.of .ended)), none)
              | rest => membersFrom fuel members rest
            | _ => (.obj members.reverse (.cut (.of .malformed)), none)
        | _ => (.obj ((key, .cut (.of .malformed)) :: members).reverse (.cut (.of .malformed)), none)
    | _ => (.obj members.reverse (.cut (.of .malformed)), none)

end

/-- A document and whether something other than blanks follows it. -/
structure Reading where
  document : Document
  trailing : Bool

/-- **The document that a text spells**, as far as it can be read. -/
def read (text : String) : Reading :=
  let cs := text.toList
  match valueFrom (2 * cs.length + 2) cs with
  | (doc, none) => ⟨doc, false⟩
  | (doc, some rest) => ⟨doc, !(skipSpace rest).isEmpty⟩

/-! ## Faults inside a document -/

/-- The fault at the end of a list for one who skips it. -/
def endingSkipped : Ending → Option Fault
  | .closed => none
  | .cut place => some place.skipped
  | .cutAfterComma place => some place.skipped

/-- The fault at the end of a list for a reader. -/
def endingRead : Ending → Option Fault
  | .closed => none
  | .cut place => some place.read
  | .cutAfterComma place => some place.read

mutual

/-- The first fault that one meets who skips the value. -/
def skipFault? : Document → Option Fault
  | .cut place => some place.skipped
  | .arr items ending => (skipItems? items).or (endingSkipped ending)
  | .obj members ending => (skipMembers? members).or (endingSkipped ending)
  | _ => none

def skipItems? : List Document → Option Fault
  | [] => none
  | item :: rest => (skipFault? item).or (skipItems? rest)

def skipMembers? : List (Option String × Document) → Option Fault
  | [] => none
  | (_, value) :: rest => (skipFault? value).or (skipMembers? rest)

end

/-- Arrays and objects may not be nested deeper than this in a value that is kept whole. -/
def depthBound : Nat := 127

mutual

/-- The first fault that one meets who keeps the whole value, which stands inside `depth` arrays and
objects. -/
def keepFault? (depth : Nat) : Document → Option Fault
  | .cut place => some place.read
  | .halfStr => some .malformed
  | .vast => some .malformed
  | .arr items ending =>
    if depth ≥ depthBound then some .malformed
    else (keepItems? (depth + 1) items).or (endingRead ending)
  | .obj members ending =>
    if depth ≥ depthBound then some .malformed
    else (keepMembers? (depth + 1) members).or (endingRead ending)
  | _ => none

def keepItems? (depth : Nat) : List Document → Option Fault
  | [] => none
  | item :: rest => (keepFault? depth item).or (keepItems? depth rest)

def keepMembers? (depth : Nat) : List (Option String × Document) → Option Fault
  | [] => none
  | (none, _) :: _ => some .malformed
  | (some _, value) :: rest => (keepFault? depth value).or (keepMembers? depth rest)

end

/-! ## Documents and values -/

mutual

/-- The document of a value that is read without a break. -/
def ofJson : Json → Document
  | .null => .null
  | .bool b => .bool b
  | .int n => .int n
  | .str s => .str s
  | .arr items => .arr (ofItems items) .closed
  | .obj members => .obj (ofMembers members) .closed

def ofItems : List Json → List Document
  | [] => []
  | item :: rest => ofJson item :: ofItems rest

def ofMembers : List (String × Json) → List (Option String × Document)
  | [] => []
  | (k, v) :: rest => (some k, ofJson v) :: ofMembers rest

end

mutual

/-- The value of a document without a break whose numbers are integers. -/
def toJson? : Document → Option Json
  | .null => some .null
  | .bool b => some (.bool b)
  | .int n => some (.int n)
  | .str s => some (.str s)
  | .arr items .closed => (toItems? items).map .arr
  | .obj members .closed => (toMembers? members).map .obj
  | _ => none

def toItems? : List Document → Option (List Json)
  | [] => some []
  | item :: rest => do return (← toJson? item) :: (← toItems? rest)

def toMembers? : List (Option String × Document) → Option (List (String × Json))
  | [] => some []
  | (some k, v) :: rest => do return (k, ← toJson? v) :: (← toMembers? rest)
  | (none, _) :: _ => none

end

end Document

end WorkflowAtlas
