/-!
# TOML values

A TOML document is a sequence of **statements**: headers, which say where the following keys belong,
and keys with values. The statements build one table. A table remembers how it came about, since that
decides whether later statements may add to it: a table under its own header is complete when the next
header comes, a table that only stands in the path of a header may still get a header, and a table
that dotted keys made takes more dotted keys and no header.
-/

namespace WorkflowAtlas

/-- How a table came about. -/
inductive TomlOrigin where
  /-- It has a header, or is the document itself. -/
  | headed
  /-- It stands in the path of a header. -/
  | passed
  /-- It stands in a dotted key. -/
  | dotted
  /-- It is written as a value. -/
  | inline
  deriving DecidableEq, Repr, Inhabited

/-- **A TOML value.** Of a float and of a date nothing but the kind is kept. -/
inductive Toml where
  | string (text : String)
  | integer (number : Int)
  | float
  | boolean (value : Bool)
  | date
  | array (items : List Toml)
  | table (origin : TomlOrigin) (members : List (String × Toml))
  /-- The tables under headers in double brackets. -/
  | tables (items : List Toml)
  deriving Repr, Inhabited

/-- **A statement of a document**; the last key of its path is given apart from those before it. -/
inductive TomlStatement where
  | header (path : List String) (key : String)
  | itemHeader (path : List String) (key : String)
  | assign (path : List String) (key : String) (value : Toml)
  deriving Repr, Inhabited

namespace Toml

/-- The members with another value for a key, at its place or at the end. -/
def setMember (key : String) (value : Toml) : List (String × Toml) → List (String × Toml)
  | [] => [(key, value)]
  | (k, v) :: rest => if k = key then (k, value) :: rest else (k, v) :: setMember key value rest

/-- Changes the table at the end of a path. Missing tables on the way are made with origin `origin`, and
of several tables under one name the last is meant. A dotted key does not enter a table with a header
of its own, and nothing enters a value. -/
def changeAt? (origin : TomlOrigin) (change : TomlOrigin → List (String × Toml) → Option Toml) :
    List String → Toml → Option Toml
  | [], .table own members => change own members
  | key :: path, .table own members =>
    match members.lookup key with
    | none => do
      let child ← changeAt? origin change path (.table origin [])
      some (.table own (members ++ [(key, child)]))
    | some (.tables items) =>
      match items.reverse with
      | [] => none
      | last :: earlier => do
        let child ← changeAt? origin change path last
        some (.table own (setMember key (.tables (earlier.reverse ++ [child])) members))
    | some (.table inner innerMembers) =>
      if inner = .inline ∨ (origin = .dotted ∧ inner = .headed) then none
      else do
        let child ← changeAt? origin change path (.table inner innerMembers)
        some (.table own (setMember key child members))
    | some _ => none
  | _, _ => none

/-- **Gives a new key a value.** A dotted key ends in a table that dotted keys made, and a plain key does
not. -/
def assign? (path : List String) (key : String) (value : Toml) (table : Toml) : Option Toml :=
  changeAt? .dotted (fun own members =>
    if (own == .dotted) == path.isEmpty then none
    else if (members.lookup key).isSome then none
    else some (.table own (members ++ [(key, value)]))) path table

/-- **Opens the table of a header**, which must be new or passed by so far. -/
def openTable? (path : List String) (key : String) (document : Toml) : Option Toml :=
  changeAt? .passed (fun own members =>
    match members.lookup key with
    | none => some (.table own (members ++ [(key, .table .headed [])]))
    | some (.table .passed inner) => some (.table own (setMember key (.table .headed inner) members))
    | some _ => none) path document

/-- **Opens one more table** under a header in double brackets. -/
def openItem? (path : List String) (key : String) (document : Toml) : Option Toml :=
  changeAt? .passed (fun own members =>
    match members.lookup key with
    | none => some (.table own (members ++ [(key, .tables [.table .headed []])]))
    | some (.tables items) => some (.table own (setMember key (.tables (items ++ [.table .headed []])) members))
    | some _ => none) path document

/-- The document after a statement, with the path of the open table. -/
def afterStatement? : List String × Toml → TomlStatement → Option (List String × Toml)
  | (_, document), .header path key => (openTable? path key document).map (path ++ [key], ·)
  | (_, document), .itemHeader path key => (openItem? path key document).map (path ++ [key], ·)
  | (current, document), .assign path key value =>
    (changeAt? .passed (fun own members => assign? path key value (.table own members)) current document).map
      (current, ·)

/-- **The table that statements build**, if none of them contradicts an earlier one. -/
def ofStatements? (statements : List TomlStatement) : Option Toml :=
  (statements.foldlM afterStatement? ([], .table .headed [])).map (·.2)

end Toml

end WorkflowAtlas
