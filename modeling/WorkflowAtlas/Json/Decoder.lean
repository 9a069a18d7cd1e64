import WorkflowAtlas.Json.Document

/-!
# Reading typed values off a document

A **decoder** reads a value off a document or gives the first fault in the order of the text. A
**record** is a decoder for a value with named fields: it reads them off an object, whose members
may come in any order, each once, among members of other names that are skipped; or off an array of
the fields in the order they are declared. Whether a member is accepted is decided in the order of
the text, and the value is built from the members by name, so that an accepted object's value does
not depend on the order of its members.
-/

namespace WorkflowAtlas

/-- **A decoder**: the value of a document, or the first fault. -/
abbrev Decoder (α : Type) := Document → Except Fault α

namespace Decoder

/-- The fault of a document that is not of the shape that is asked for. -/
def refusal : Document → Fault
  | .cut place => place.read
  | .halfStr => .malformed
  | .vast => .malformed
  | _ => .mismatch

def string : Decoder String
  | .str s => .ok s
  | doc => .error (refusal doc)

def bool : Decoder Bool
  | .bool b => .ok b
  | doc => .error (refusal doc)

/-- A natural number below a bound. -/
def natBelow (bound : Nat) : Decoder Nat
  | .int n => if 0 ≤ n ∧ n < bound then .ok n.toNat else .error .mismatch
  | doc => .error (refusal doc)

/-- A line number or a version: below 2^32. -/
def nat32 : Decoder Nat := natBelow Text.bound32

/-- A size or an index: below 2^64. -/
def nat64 : Decoder Nat := natBelow Text.bound64

/-- `null`, or a value. -/
def nullable {α : Type} (item : Decoder α) : Decoder (Option α)
  | .null => .ok none
  | doc => (item doc).map some

/-- The fault at the end of a list, if it has one. -/
def endingOf {α : Type} (value : α) (ending : Ending) : Except Fault α :=
  match Document.endingRead ending with
  | none => .ok value
  | some fault => .error fault

/-- An array of values. -/
def list {α : Type} (item : Decoder α) : Decoder (List α)
  | .arr items ending => do endingOf (← items.mapM item) ending
  | doc => .error (refusal doc)

/-- The members of an object in order, a later one of the same key included. -/
def entries {α : Type} (value : Decoder α) : Decoder (List (String × α))
  | .obj members ending => do
    let read ← members.mapM fun
      | (none, _) => .error .malformed
      | (some k, v) => do return (k, ← value v)
    endingOf read ending
  | doc => .error (refusal doc)

/-- An array of exactly two values. -/
def pair {α β : Type} (first : Decoder α) (second : Decoder β) : Decoder (α × β)
  | .arr [a, b] ending => do endingOf (← first a, ← second b) ending
  | doc => .error (refusal doc)

/-- One of several words: the word itself, or an object whose one member is the word with `null`. -/
def word {α : Type} (ofName? : String → Option α) (doc : Document) : Except Fault α := do
  let text ← match doc with
    | .obj [(some key, .null)] .closed => .ok key
    | doc => string doc
  match ofName? text with
  | some a => .ok a
  | none => .error .mismatch

end Decoder

/-! ## Records -/

/-- **A field** of a record as far as accepting it goes: its name, the first fault in its value, and
whether an array may end before it. -/
structure Field where
  name : String
  fault? : Document → Option Fault
  mayEndBefore : Bool

/-- **A record**: its fields in the order they are declared, and its value from the documents of the
fields by name. -/
structure Record (α : Type) where
  fields : List Field
  build : (String → Option Document) → Except Fault α

namespace Record

/-- The fault of a decoder on a document. -/
def faultOf {α : Type} (decode : Decoder α) (doc : Document) : Option Fault :=
  match decode doc with
  | .ok _ => none
  | .error fault => some fault

/-- A field that must be there. -/
def required {α : Type} (name : String) (decode : Decoder α) : Record α where
  fields := [⟨name, faultOf decode, false⟩]
  build get := match get name with
    | some doc => decode doc
    | none => .error .mismatch

/-- A field that has a value of its own when it is missing. -/
def defaulted {α : Type} (name : String) (decode : Decoder α) (value : α) : Record α where
  fields := [⟨name, faultOf decode, true⟩]
  build get := match get name with
    | some doc => decode doc
    | none => .ok value

/-- A field that may be missing or `null`. -/
def optional {α : Type} (name : String) (decode : Decoder α) : Record (Option α) :=
  defaulted name (Decoder.nullable decode) none

/-- A field that may be missing in an object or `null`, and that an array must have. -/
def placed {α : Type} (name : String) (decode : Decoder α) : Record (Option α) where
  fields := [⟨name, faultOf (Decoder.nullable decode), false⟩]
  build := (optional name decode).build

instance : Functor Record where
  map f r := ⟨r.fields, fun get => (r.build get).map f⟩

instance : Seq Record where
  seq f r :=
    let rest := r ()
    ⟨f.fields ++ rest.fields, fun get => do
      let g ← f.build get
      let a ← rest.build get
      return g a⟩

/-- The first fault of the members in their order: a key that is no text, a field that is written
twice, a fault in a field's value, or what `other?` finds in a member of another name. -/
def membersFault? (fields : List Field) (other? : Document → Option Fault) (seen : List String) :
    List (Option String × Document) → Option Fault
  | [] => none
  | (none, _) :: _ => some .malformed
  | (some key, value) :: rest =>
    match fields.find? (·.name == key) with
    | some field =>
      if key ∈ seen then some .mismatch
      else (field.fault? value).or (membersFault? fields other? (key :: seen) rest)
    | none => (other? value).or (membersFault? fields other? seen rest)

/-- The value of the member with a key. -/
def member? (members : List (Option String × Document)) (key : String) : Option Document :=
  (members.find? (·.1 == some key)).map (·.2)

/-- A record off the members of an object. -/
def ofMembers {α : Type} (record : Record α) (other? : Document → Option Fault)
    (members : List (Option String × Document)) (ending : Ending) : Except Fault α :=
  match (membersFault? record.fields other? [] members).or (Document.endingRead ending) with
  | some fault => .error fault
  | none => record.build (member? members)

/-- The first fault of the items of an array that is read as the fields in their order. -/
def itemsFault? (ending : Ending) : List Field → List Document → Option Fault
  | field :: fields, item :: items => (field.fault? item).or (itemsFault? ending fields items)
  | field :: fields, [] =>
    match Document.endingRead ending with
    | some fault => some fault
    | none => if field.mayEndBefore then itemsFault? ending fields [] else some .mismatch
  | [], _ :: _ => some .malformed
  | [], [] =>
    match ending with
    | .closed => none
    | .cut place => some place.read
    | .cutAfterComma _ => some .malformed

/-- A record off an array of its fields. -/
def ofItems {α : Type} (record : Record α) (items : List Document) (ending : Ending) : Except Fault α :=
  match itemsFault? ending record.fields items with
  | some fault => .error fault
  | none =>
    let named := (record.fields.map (some ·.name)).zip items
    record.build (member? named)

/-- **The decoder of a record**, from an object or from an array of its fields. -/
def decoder {α : Type} (record : Record α) : Decoder α
  | .obj members ending => record.ofMembers Document.skipFault? members ending
  | .arr items ending => record.ofItems items ending
  | doc => .error (Decoder.refusal doc)

end Record

/-- **The value that a text spells**, read by a decoder; nothing may follow it. -/
def Decoder.run {α : Type} (decode : Decoder α) (text : String) : Except Fault α := do
  let reading := Document.read text
  let value ← decode reading.document
  if reading.trailing then .error .malformed else .ok value

end WorkflowAtlas
