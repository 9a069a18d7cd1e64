import WorkflowAtlas.CallTable.Basic
import WorkflowAtlas.CallTable.SipHash

/-!
# The structural hash of a call table

A table is **encoded** as bytes: for each function in order its name, the number of its distinct
callees, and these in order. A text ends in a byte that no text has and a number takes eight bytes, so
the encoding can be read back. Its hash does not change when lines move or calls are repeated.
-/

namespace WorkflowAtlas.CallTable

/-- The bytes of a text and a byte that ends it. -/
def encodeText (text : String) : List UInt8 :=
  text.toUTF8.toList ++ [0xff]

/-- Eight bytes of a number, the lowest first. -/
def encodeNat (n : Nat) : List UInt8 :=
  (List.range 8).map fun i => (n / Nat.pow 256 i).toUInt8

/-- The bytes of one function and its callees. -/
def encodeEntry (name : String) (callees : List String) : List UInt8 :=
  let callees := sortedTexts callees
  encodeText name ++ encodeNat callees.length ++ callees.flatMap encodeText

/-- **The bytes of a table.** -/
def encode (table : CallTable) : List UInt8 :=
  table.entries.flatMap fun (name, callees) => encodeEntry name callees

/-- A number in sixteen hexadecimal digits. -/
def hex16 (n : Nat) : String :=
  String.ofList ((List.range 16).reverse.map fun i => Json.hexDigit (n / Nat.pow 16 i % 16))

/-- **The structural hash** of a table. -/
def structuralHash (table : CallTable) : String :=
  hex16 (SipHash.hash table.encode).toNat

end WorkflowAtlas.CallTable
