import Mathlib.Data.List.Perm.Subperm
import WorkflowAtlas.Proofs.CallComparison
import WorkflowAtlas.Proofs.JsonText

/-!
# The bytes of a call table tell its structure

The structural hash of a table is a hash of bytes, and the bytes say nothing of how many functions follow or
how long a text is. They can be read all the same. A text ends at the first byte `0xff`, which is in no text;
the eight bytes behind a name are a number, also where `0xff` is among them; and the number says how many
texts belong to the name before the next name begins.

Each part is **self-delimiting**: what it stands for, and where it ends, can be told whatever bytes follow.
Parts put behind one another are so too, and from there it is an induction over both tables in step.

**The law** (`encode_unambiguous`): two tables have the same bytes exactly where they have the same
structure. So tables of different structure with one hash are two inputs on which the hash function itself
collides; that this does not happen is not claimed.
-/

namespace WorkflowAtlas

/-! ## Digits -/

/-- A number below a power of the base is determined by its digits. -/
theorem eq_of_digits (base count : Nat) {m n : Nat} (smallM : m < base ^ count) (smallN : n < base ^ count)
    (digits : ∀ i < count, m / base ^ i % base = n / base ^ i % base) : m = n := by
  induction count generalizing m n with
  | zero =>
    rw [Nat.pow_zero, Nat.lt_one_iff] at smallM smallN
    rw [smallM, smallN]
  | succ count ih =>
    rw [Nat.pow_succ'] at smallM smallN
    have lowest : m % base = n % base := by simpa using digits 0 (Nat.succ_pos count)
    have rest : m / base = n / base := by
      apply ih (Nat.div_lt_of_lt_mul smallM) (Nat.div_lt_of_lt_mul smallN)
      intro i inRange
      rw [Nat.div_div_eq_div_mul, Nat.div_div_eq_div_mul, ← Nat.pow_succ']
      exact digits (i + 1) (Nat.succ_lt_succ inRange)
    rw [← Nat.div_add_mod m base, rest, lowest, Nat.div_add_mod]

/-! ## Bytes of texts -/

/-- Listing the bytes of an array goes on from those that are listed to all of them. -/
theorem toList_loop_of_take (bytes : ByteArray) (i : Nat) (done : List UInt8)
    (listed : done.reverse = bytes.data.toList.take i) : ByteArray.toList.loop bytes i done = bytes.data.toList := by
  fun_induction ByteArray.toList.loop bytes i done with
  | case1 i done more ih =>
    have inRange : i < bytes.data.toList.length := by simpa using more
    apply ih
    rw [List.reverse_cons, listed, List.take_succ_eq_append_getElem inRange]
    simp [ByteArray.get!, more]
  | case2 i done ended =>
    rw [listed, List.take_of_length_le]
    simpa using Nat.le_of_not_lt ended

theorem toList_toUTF8 (text : String) : text.toUTF8.toList = text.toList.flatMap String.utf8EncodeChar := by
  have bytes : text.toUTF8 = (text.toList.flatMap String.utf8EncodeChar).toByteArray :=
    String.utf8Encode_toList.symm
  rw [ByteArray.toList, toList_loop_of_take _ _ _ rfl, bytes, List.toList_data_toByteArray]

/-- Texts with the same bytes are the same. -/
theorem toList_toUTF8_inj {a b : String} (same : a.toUTF8.toList = b.toUTF8.toList) : a = b := by
  rw [toList_toUTF8, toList_toUTF8] at same
  apply String.toByteArray_inj.mp
  rw [← String.utf8Encode_toList, ← String.utf8Encode_toList, List.utf8Encode, List.utf8Encode, same]

/-- The byte `0xff` is in no character. -/
theorem notMem_utf8EncodeChar (c : Char) : 0xff ∉ String.utf8EncodeChar c := by
  have below : ∀ {n : Nat} {rest : List UInt8}, n < 0xff → 0xff ∉ rest → 0xff ∉ UInt8.ofNat n :: rest := by
    intro n rest small absent
    refine List.not_mem_cons_of_ne_of_not_mem ?_ absent
    intro same
    have value : 0xff = (UInt8.ofNat n).toNat := congrArg UInt8.toNat same
    rw [UInt8.toNat_ofNat'] at value
    omega
  have ended : (0xff : UInt8) ∉ [] := List.not_mem_nil
  unfold String.utf8EncodeChar
  dsimp only
  split
  · exact below (by omega) ended
  · split
    · exact below (by omega) (below (by omega) ended)
    · split
      · exact below (by omega) (below (by omega) (below (by omega) ended))
      · exact below (by omega) (below (by omega) (below (by omega) (below (by omega) ended)))

theorem notMem_toUTF8 (text : String) : 0xff ∉ text.toUTF8.toList := by
  rw [toList_toUTF8, List.mem_flatMap]
  rintro ⟨c, _, member⟩
  exact notMem_utf8EncodeChar c member

/-! ## Parts that end by themselves -/

/-- **A self-delimiting encoding** of some values: whatever follows, the bytes tell the value and where it
ends. -/
def SelfDelimiting {α : Type} (among : α → Prop) (encode : α → List UInt8) : Prop :=
  ∀ ⦃a b : α⦄ ⦃rest rest' : List UInt8⦄, among a → among b → encode a ++ rest = encode b ++ rest' →
    a = b ∧ rest = rest'

namespace SelfDelimiting

variable {α : Type} {among : α → Prop} {encode : α → List UInt8}

/-- As many values behind one another as are expected end by themselves. -/
theorem flatMap_append_inj (delimited : SelfDelimiting among encode) {as bs : List α} {rest rest' : List UInt8}
    (amongAs : ∀ a ∈ as, among a) (amongBs : ∀ b ∈ bs, among b) (equallyMany : as.length = bs.length)
    (same : as.flatMap encode ++ rest = bs.flatMap encode ++ rest') : as = bs ∧ rest = rest' := by
  induction as generalizing bs with
  | nil =>
    obtain rfl := List.length_eq_zero_iff.mp equallyMany.symm
    exact ⟨rfl, same⟩
  | cons a as ih =>
    cases bs with
    | nil => cases equallyMany
    | cons b bs =>
      simp only [List.flatMap_cons, List.append_assoc] at same
      obtain ⟨rfl, tails⟩ := delimited (amongAs a List.mem_cons_self) (amongBs b List.mem_cons_self) same
      obtain ⟨rfl, rests⟩ := ih (fun x member => amongAs x (List.mem_cons_of_mem _ member))
        (fun x member => amongBs x (List.mem_cons_of_mem _ member)) (Nat.succ.inj equallyMany) tails
      exact ⟨rfl, rests⟩

/-- **All values up to the end of the bytes can be told**, where none is encoded as no bytes. -/
theorem flatMap_inj (delimited : SelfDelimiting among encode) (visible : ∀ a, encode a ≠ []) {as bs : List α}
    (amongAs : ∀ a ∈ as, among a) (amongBs : ∀ b ∈ bs, among b) (same : as.flatMap encode = bs.flatMap encode) :
    as = bs := by
  induction as generalizing bs with
  | nil =>
    cases bs with
    | nil => rfl
    | cons b bs => exact absurd (List.append_eq_nil_iff.mp same.symm).1 (visible b)
  | cons a as ih =>
    cases bs with
    | nil => exact absurd (List.append_eq_nil_iff.mp same).1 (visible a)
    | cons b bs =>
      obtain ⟨rfl, tails⟩ := delimited (amongAs a List.mem_cons_self) (amongBs b List.mem_cons_self) same
      rw [ih (fun x member => amongAs x (List.mem_cons_of_mem _ member))
        (fun x member => amongBs x (List.mem_cons_of_mem _ member)) tails]

end SelfDelimiting

namespace CallTable

theorem selfDelimiting_encodeText : SelfDelimiting (fun _ => True) encodeText := by
  intro a b rest rest' _ _ same
  simp only [encodeText, List.append_assoc, List.singleton_append] at same
  obtain ⟨bytes, rests⟩ := append_cons_inj_of_notMem_left (notMem_toUTF8 a) (notMem_toUTF8 b) same
  exact ⟨toList_toUTF8_inj bytes, rests⟩

theorem selfDelimiting_encodeNat : SelfDelimiting (· < 2 ^ 64) encodeNat := by
  intro m n rest rest' smallM smallN same
  obtain ⟨bytes, rests⟩ := List.append_inj same (by simp [encodeNat])
  refine ⟨eq_of_digits 256 8 (by simpa using smallM) (by simpa using smallN) ?_, rests⟩
  intro i inRange
  have byte := congrArg UInt8.toNat (List.map_inj_left.mp bytes i (List.mem_range.mpr inRange))
  simpa using byte

/-- The bytes of some texts behind their number. -/
theorem selfDelimiting_counted : SelfDelimiting (fun texts => texts.length < 2 ^ 64)
    fun texts : List String => encodeNat texts.length ++ texts.flatMap encodeText := by
  intro texts others rest rest' small small' same
  simp only [List.append_assoc] at same
  obtain ⟨equallyMany, tails⟩ := selfDelimiting_encodeNat small small' same
  exact selfDelimiting_encodeText.flatMap_append_inj (fun _ _ => trivial) (fun _ _ => trivial) equallyMany tails

/-- The bytes of a function and its callees, as they stand in an outline. -/
def outlineBytes (entry : String × List String) : List UInt8 :=
  encodeText entry.1 ++ (encodeNat entry.2.length ++ entry.2.flatMap encodeText)

theorem selfDelimiting_outlineBytes : SelfDelimiting (fun entry => entry.2.length < 2 ^ 64) outlineBytes := by
  rintro ⟨name, callees⟩ ⟨name', callees'⟩ rest rest' small small' same
  simp only [outlineBytes, List.append_assoc] at same
  obtain ⟨rfl, tails⟩ := selfDelimiting_encodeText trivial trivial same
  simp only [← List.append_assoc] at tails
  obtain ⟨rfl, rests⟩ := selfDelimiting_counted small small' tails
  exact ⟨rfl, rests⟩

/-! ## Tables -/

/-- A table in which no function has too many callees to be counted in eight bytes. -/
def IsCountable (table : CallTable) : Prop :=
  ∀ entry ∈ table.entries, entry.2.length < 2 ^ 64

instance (table : CallTable) : Decidable table.IsCountable :=
  inferInstanceAs (Decidable (∀ entry ∈ table.entries, _))

theorem length_sortedTexts_le (texts : List String) : (sortedTexts texts).length ≤ texts.length :=
  ((nodup_sortedTexts texts).subperm fun _ member => mem_sortedTexts.mp member).length_le

theorem IsCountable.outline {table : CallTable} (countable : table.IsCountable) :
    ∀ entry ∈ table.outline.entries, entry.2.length < 2 ^ 64 := by
  intro entry member
  obtain ⟨listed, isEntry, rfl⟩ := List.mem_map.mp member
  exact Nat.lt_of_le_of_lt (length_sortedTexts_le listed.2) (countable listed isEntry)

/-- **Tables have the same bytes exactly where they have the same structure.** -/
theorem encode_eq_iff {a b : CallTable} (countableA : a.IsCountable) (countableB : b.IsCountable) :
    a.encode = b.encode ↔ SameStructure a b := by
  have bytes : ∀ table : CallTable, table.encode = table.outline.entries.flatMap outlineBytes := by
    intro table
    rw [encode_eq]
    simp only [List.append_assoc]
    rfl
  rw [← outline_eq_iff, bytes, bytes]
  constructor
  · intro same
    have visible : ∀ entry, outlineBytes entry ≠ [] := by simp [outlineBytes, encodeText]
    exact selfDelimiting_outlineBytes.flatMap_inj visible countableA.outline countableB.outline same
  · intro same
    rw [same]

theorem hex16_inj {m n : Nat} (smallM : m < 2 ^ 64) (smallN : n < 2 ^ 64) (same : hex16 m = hex16 n) : m = n := by
  apply eq_of_digits 16 16 (by simpa using smallM) (by simpa using smallN)
  intro i inRange
  have digits := List.map_inj_left.mp (String.ofList_injective same) i (by simpa using inRange)
  have values := congrArg Text.hexValue? digits
  have base : 0 < 16 := by decide
  rw [Document.hexValue?_hexDigit (Nat.mod_lt _ base), Document.hexValue?_hexDigit (Nat.mod_lt _ base)] at values
  exact Option.some.inj values

/-- Writing a hash down loses nothing of it. -/
theorem structuralHash_eq_iff {a b : CallTable} :
    a.structuralHash = b.structuralHash ↔ SipHash.hash a.encode = SipHash.hash b.encode := by
  constructor
  · intro same
    exact UInt64.toNat_inj.mp (hex16_inj (UInt64.toNat_lt _) (UInt64.toNat_lt _) same)
  · intro same
    rw [structuralHash, structuralHash, same]

/-- **The bytes of a table are unambiguous**: they are equal exactly for tables of the same structure, and
tables have one hash exactly where the hash function has one value for their bytes. So tables of different
structure have one hash only where it collides. -/
theorem encode_unambiguous (a b : CallTable) (countableA : a.IsCountable) (countableB : b.IsCountable) :
    (a.encode = b.encode ↔ SameStructure a b) ∧
    (a.structuralHash = b.structuralHash ↔ SipHash.hash a.encode = SipHash.hash b.encode) :=
  ⟨encode_eq_iff countableA countableB, structuralHash_eq_iff⟩

/-- A function with a callee. -/
def oneCall : CallTable :=
  .ofList [("a", ["b"])]

/-- The same two names, as functions without callees. -/
def noCall : CallTable :=
  .ofList [("a", []), ("b", [])]

theorem encode_unambiguous_oneCall : oneCall.IsCountable ∧ noCall.IsCountable ∧ oneCall.encode ≠ noCall.encode := by
  have countable : oneCall.IsCountable := by decide +kernel
  have countable' : noCall.IsCountable := by decide +kernel
  have differ : ¬ SameStructure oneCall noCall := by
    intro same
    have named : "b" ∈ noCall.keys → "b" ∈ oneCall.keys := (same.names "b").mpr
    revert named
    decide +kernel
  refine ⟨countable, countable', ?_⟩
  exact mt (encode_unambiguous oneCall noCall countable countable').1.mp differ

end CallTable

end WorkflowAtlas
