/-!
# JSON values and their text

A JSON value as this library writes it: integers are its only numbers and an object keeps its
members in order. `compact` writes a value on one line, `pretty` with two blanks a level. In a
string the two marks `"` and `\` and the control characters are escaped and every other character
stands for itself.
-/

namespace WorkflowAtlas

/-- **A JSON value** to be written. Members keep their order. -/
inductive Json where
  | null
  | bool (value : Bool)
  | int (value : Int)
  | str (value : String)
  | arr (items : List Json)
  | obj (members : List (String × Json))
  deriving Inhabited, Repr

namespace Json

/-- The hexadecimal digit of a number below 16, in lower case. -/
def hexDigit (n : Nat) : Char :=
  if n < 10 then Char.ofNat (n + 48) else Char.ofNat (n + 87)

/-- A character as it is written inside a string. -/
def escape (c : Char) : List Char :=
  if c = '"' then ['\\', '"']
  else if c = '\\' then ['\\', '\\']
  else if c.toNat = 8 then ['\\', 'b']
  else if c.toNat = 9 then ['\\', 't']
  else if c.toNat = 10 then ['\\', 'n']
  else if c.toNat = 12 then ['\\', 'f']
  else if c.toNat = 13 then ['\\', 'r']
  else if c.toNat < 32 then ['\\', 'u', '0', '0', hexDigit (c.toNat / 16), hexDigit (c.toNat % 16)]
  else [c]

/-- A string with its quotes. -/
def quoted (s : String) : List Char :=
  '"' :: (s.toList.flatMap escape ++ ['"'])

/-- The decimal digits of a number. -/
def decimal (n : Int) : List Char :=
  match n with
  | .ofNat k => (Nat.repr k).toList
  | .negSucc k => '-' :: (Nat.repr (k + 1)).toList

mutual

/-- The value on one line, with no blanks. -/
def compactChars : Json → List Char
  | .null => "null".toList
  | .bool true => "true".toList
  | .bool false => "false".toList
  | .int n => decimal n
  | .str s => quoted s
  | .arr items => '[' :: (compactItems items ++ [']'])
  | .obj members => '\x7b' :: (compactMembers members ++ ['\x7d'])

/-- The items of an array with commas between them. -/
def compactItems : List Json → List Char
  | [] => []
  | [v] => compactChars v
  | v :: w :: rest => compactChars v ++ ',' :: compactItems (w :: rest)

/-- The members of an object with commas between them. -/
def compactMembers : List (String × Json) → List Char
  | [] => []
  | [(k, v)] => quoted k ++ ':' :: compactChars v
  | (k, v) :: m :: rest => quoted k ++ ':' :: compactChars v ++ ',' :: compactMembers (m :: rest)

end

/-- A new line with the blanks of `level`. -/
def lineBreak (level : Nat) : List Char :=
  '\n' :: List.replicate (2 * level) ' '

mutual

/-- The value with two blanks a level, `level` being the one it stands on. -/
def prettyChars (level : Nat) : Json → List Char
  | .null => "null".toList
  | .bool true => "true".toList
  | .bool false => "false".toList
  | .int n => decimal n
  | .str s => quoted s
  | .arr [] => ['[', ']']
  | .arr (v :: rest) => '[' :: (prettyItems (level + 1) (v :: rest) ++ lineBreak level ++ [']'])
  | .obj [] => ['\x7b', '\x7d']
  | .obj (m :: rest) => '\x7b' :: (prettyMembers (level + 1) (m :: rest) ++ lineBreak level ++ ['\x7d'])

/-- The items of an array, one a line. -/
def prettyItems (level : Nat) : List Json → List Char
  | [] => []
  | [v] => lineBreak level ++ prettyChars level v
  | v :: w :: rest => lineBreak level ++ prettyChars level v ++ ',' :: prettyItems level (w :: rest)

/-- The members of an object, one a line. -/
def prettyMembers (level : Nat) : List (String × Json) → List Char
  | [] => []
  | [(k, v)] => lineBreak level ++ quoted k ++ ':' :: ' ' :: prettyChars level v
  | (k, v) :: m :: rest =>
    lineBreak level ++ quoted k ++ ':' :: ' ' :: prettyChars level v ++ ',' :: prettyMembers level (m :: rest)

end

/-- **The value on one line.** -/
def compact (v : Json) : String :=
  String.ofList v.compactChars

/-- **The value over several lines**, two blanks a level. -/
def pretty (v : Json) : String :=
  String.ofList (v.prettyChars 0)

/-- An array of strings. -/
def strings (items : List String) : Json :=
  .arr (items.map .str)

/-- A natural number. -/
def nat (n : Nat) : Json :=
  .int n

/-- The value of a present option, `null` for an absent one. -/
def option {α : Type} (write : α → Json) : Option α → Json
  | some a => write a
  | none => .null

/-- A member that is written only when the option is present. -/
def present {α : Type} (name : String) (write : α → Json) : Option α → List (String × Json)
  | some a => [(name, write a)]
  | none => []

/-- A member that is written only when it is true. -/
def flag (name : String) (value : Bool) : List (String × Json) :=
  if value then [(name, .bool true)] else []

/-- A list member that is written only when it has items. -/
def nonEmpty {α : Type} (name : String) (write : α → Json) (items : List α) : List (String × Json) :=
  if items.isEmpty then [] else [(name, .arr (items.map write))]

end Json

end WorkflowAtlas
