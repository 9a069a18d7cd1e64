import Mathlib.Data.List.DropRight
import Mathlib.Data.List.TakeDrop
import Mathlib.Tactic.IntervalCases
import WorkflowAtlas.Json.Document

/-!
# Reading back what was written

**The law** (`read_pretty`): the text of a value over several lines spells the document of that value,
and nothing follows it. It holds of every value whose integers fit 64 bits, since a larger number is read
as a double.

Each part is read with an unknown rest behind it, which is left over: a string ends with its quote, and a
number where something follows that does not go on with it (`EndsNumber`). The lists of items and members
carry what came before them in reverse, so their lemmas have it too. All three readers go down by one
with every call, and the proofs are by induction on that bound, for which the length of the text is
always enough.
-/

namespace WorkflowAtlas

namespace Json

/-- The integers that 64 bits hold, with or without a sign. -/
def Fits64 (n : Int) : Prop :=
  -9223372036854775808 ≤ n ∧ n < 18446744073709551616

mutual

/-- **A value that can be read back**: each of its integers fits 64 bits. -/
def Readable : Json → Prop
  | .int n => Fits64 n
  | .arr items => ReadableItems items
  | .obj members => ReadableMembers members
  | _ => True

def ReadableItems : List Json → Prop
  | [] => True
  | v :: rest => v.Readable ∧ ReadableItems rest

def ReadableMembers : List (String × Json) → Prop
  | [] => True
  | (_, v) :: rest => v.Readable ∧ ReadableMembers rest

end

theorem readableItems_iff {items : List Json} : ReadableItems items ↔ ∀ v ∈ items, v.Readable := by
  induction items with
  | nil => simp [ReadableItems]
  | cons v rest ih => simp [ReadableItems, ih]

theorem readableMembers_iff {members : List (String × Json)} :
    ReadableMembers members ↔ ∀ member ∈ members, member.2.Readable := by
  induction members with
  | nil => simp [ReadableMembers]
  | cons member rest ih => simp [ReadableMembers, ih]

end Json

namespace Document

open Json
open Text (isDigit ofDigits hexValue?)

/-! ## Strings -/

theorem hexValue?_hexDigit {n : Nat} (small : n < 16) : hexValue? (hexDigit n) = some n := by
  interval_cases n <;> decide

theorem stringFrom_letter {letter c : Char} (isEscaped : escaped? letter = some c) (text : List Char)
    (half : Option Fault) (pending : Option Nat) (rest : List Char) :
    stringFrom text half pending ('\\' :: letter :: rest) =
      stringFrom (c :: text) (settle half pending ('\\' :: letter :: rest)) none rest := by
  unfold escaped? at isEscaped
  split at isEscaped <;> cases isEscaped <;> rfl

theorem stringFrom_control {c : Char} (control : c.toNat < 32) (text rest : List Char) :
    stringFrom text none none
        ('\\' :: 'u' :: '0' :: '0' :: hexDigit (c.toNat / 16) :: hexDigit (c.toNat % 16) :: rest) =
      stringFrom (c :: text) none none rest := by
  have spelled : hexQuad? '0' '0' (hexDigit (c.toNat / 16)) (hexDigit (c.toNat % 16)) = some c.toNat := by
    rw [hexQuad?, hexValue?_hexDigit (by omega), hexValue?_hexDigit (by omega)]
    simp [hexValue?]
    omega
  have notHalf : isLowHalf c.toNat = false ∧ isHighHalf c.toNat = false := by
    simp [isLowHalf, isHighHalf]
    omega
  rw [stringFrom.eq_def]
  simp [spelled, notHalf, Char.ofNat_toNat]

theorem stringFrom_plain {c : Char} (isPlain : c ≠ '"' ∧ c ≠ '\\' ∧ ¬ c.toNat < 32) (text : List Char)
    (half : Option Fault) (pending : Option Nat) (rest : List Char) :
    stringFrom text half pending (c :: rest) = stringFrom (c :: text) (settle half pending (c :: rest)) none rest := by
  rw [stringFrom.eq_def]
  split <;> simp_all

/-- **A character is read back from its escape**, whichever of the forms it is written in. -/
theorem stringFrom_escape (text : List Char) (c : Char) (rest : List Char) :
    stringFrom text none none (escape c ++ rest) = stringFrom (c :: text) none none rest := by
  have ofCode {n : Nat} (code : c.toNat = n) : c = Char.ofNat n := by rw [← code, Char.ofNat_toNat]
  -- The splits follow the branches of `escape`: two marks, five letters, the other controls, the rest.
  unfold escape
  split
  · next isQuote =>
    subst isQuote
    exact stringFrom_letter rfl text none none rest
  split
  · next isMark =>
    subst isMark
    exact stringFrom_letter rfl text none none rest
  iterate 5
    split
    · next code => exact stringFrom_letter (ofCode code ▸ rfl) text none none rest
  split
  · next control => exact stringFrom_control control text rest
  · next notQuote notMark _ _ _ _ _ notControl =>
    exact stringFrom_plain ⟨notQuote, notMark, notControl⟩ text none none rest

theorem stringFrom_flatMap_escape (text cs rest : List Char) :
    stringFrom text none none (cs.flatMap escape ++ '"' :: rest) =
      (.str (String.ofList (text.reverse ++ cs)), some rest) := by
  induction cs generalizing text with
  | nil => simp [stringFrom, settle]
  | cons c cs ih =>
    rw [List.flatMap_cons, List.append_assoc, stringFrom_escape, ih]
    simp

theorem quoted_append (s : String) (rest : List Char) :
    quoted s ++ rest = '"' :: (s.toList.flatMap escape ++ '"' :: rest) := by
  simp [quoted]

/-- **A string is read back**, up to its closing quote. -/
theorem stringFrom_quoted (s : String) (rest : List Char) :
    stringFrom [] none none (s.toList.flatMap escape ++ '"' :: rest) = (.str s, some rest) := by
  rw [stringFrom_flatMap_escape, List.reverse_nil, List.nil_append, String.ofList_toList]

/-- What a string gives: its text, or without one half of a surrogate pair. -/
def quotation : Option String → Document
  | some text => .str text
  | none => .halfStr

theorem stringFrom_key (key : String) (rest : List Char) :
    stringFrom [] none none (key.toList.flatMap escape ++ '"' :: rest) = (quotation (some key), some rest) :=
  stringFrom_quoted key rest

/-! ## Numbers -/

/-- A text that does not go on with a number in front of it. -/
def EndsNumber (rest : List Char) : Prop :=
  ∀ c ∈ rest.head?, isDigit c = false ∧ c ≠ '.' ∧ c ≠ 'e' ∧ c ≠ 'E'

theorem endsNumber_nil : EndsNumber [] := by
  simp [EndsNumber]

theorem endsNumber_comma (cs : List Char) : EndsNumber (',' :: cs) := by
  intro c isFirst
  cases isFirst
  decide

theorem endsNumber_lineBreak (level : Nat) (cs : List Char) : EndsNumber (lineBreak level ++ cs) := by
  intro c isFirst
  cases isFirst
  decide

/-- A text that does not start with a digit. -/
def NoDigit (cs : List Char) : Prop :=
  ∀ c ∈ cs.head?, isDigit c = false

theorem EndsNumber.noDigit {cs : List Char} (ends : EndsNumber cs) : NoDigit cs :=
  fun c isFirst => (ends c isFirst).1

theorem span_digits {digits rest : List Char} (each : ∀ c ∈ digits, isDigit c = true) (stops : NoDigit rest) :
    (digits ++ rest).span isDigit = (digits, rest) := by
  have kept : rest.takeWhile isDigit = [] ∧ rest.dropWhile isDigit = rest := by
    cases rest with
    | nil => exact ⟨rfl, rfl⟩
    | cons c rest => simp [stops c rfl]
  rw [List.span_eq_takeWhile_dropWhile, List.takeWhile_append_of_pos each, List.dropWhile_append_of_pos each,
    kept.1, kept.2, List.append_nil]

theorem isDigit_of_mem_toDigits {n : Nat} {c : Char} (isThere : c ∈ Nat.toDigits 10 n) : isDigit c = true := by
  have digit := Nat.isDigit_of_mem_toDigits (b := 10) (by decide) (by decide) isThere
  simpa [Char.isDigit, isDigit, Char.le_def] using digit

theorem head_toDigits {n : Nat} (positive : 0 < n) : (Nat.toDigits 10 n).head? ≠ some '0' := by
  induction n using Nat.strongRecOn with
  | ind n ih =>
    rw [Nat.toDigits_eq_if (by decide)]
    split
    · simpa using (Nat.digitChar_eq_zero (n := n)).not.mpr positive.ne'
    · rw [List.head?_append_of_ne_nil _ Nat.toDigits_ne_nil]
      exact ih _ (by omega) (by omega)

theorem ofDigits_toDigits (n : Nat) : ofDigits (Nat.toDigits 10 n) = n := by
  rw [ofDigits]
  simp only [Nat.mul_comm _ 10]
  exact Nat.ofDigitChars_ten_toDigits

theorem span_toDigits {rest : List Char} (ends : EndsNumber rest) (n : Nat) :
    (Nat.toDigits 10 n ++ rest).span isDigit = (Nat.toDigits 10 n, rest) :=
  span_digits (fun _ => isDigit_of_mem_toDigits) ends.noDigit

theorem numberFrom_toDigits {rest : List Char} (ends : EndsNumber rest) (negative : Bool) (n : Nat) :
    numberFrom negative (Nat.toDigits 10 n ++ rest) = (ofParts negative (Nat.toDigits 10 n) none none, some rest) := by
  have whole : fractionFrom negative (Nat.toDigits 10 n) rest =
      (ofParts negative (Nat.toDigits 10 n) none none, some rest) := by
    unfold fractionFrom
    split <;> simp_all [EndsNumber]
  rw [numberFrom, span_toDigits ends, ← whole]
  split
  · next empty => exact absurd (congrArg Prod.fst empty) Nat.toDigits_ne_nil
  · next _ digit digits _ leading =>
    -- Only zero starts with a zero, and it has no other digit.
    have spelled : Nat.toDigits 10 n = '0' :: digit :: digits := congrArg Prod.fst leading
    obtain rfl | positive := Nat.eq_zero_or_pos n
    · exact absurd (congrArg List.length spelled) (by simp)
    · exact absurd (by rw [spelled]; rfl) (head_toDigits positive)
  · next same =>
    cases same
    rfl

theorem decimal_head (n : Int) : ∃ c cs, decimal n = c :: cs ∧ (c = '-' ∨ isDigit c = true) := by
  cases n with
  | ofNat n =>
    rw [decimal, Nat.toList_repr]
    obtain ⟨c, digits, spelled⟩ := List.exists_cons_of_ne_nil (Nat.toDigits_ne_nil (n := n) (b := 10))
    exact ⟨c, digits, spelled, .inr (isDigit_of_mem_toDigits (spelled ▸ List.mem_cons_self))⟩
  | negSucc n => exact ⟨'-', _, rfl, .inl rfl⟩

/-! ## Blanks -/

theorem skipSpace_of_head {c : Char} (isText : isSpace c = false) (cs : List Char) : skipSpace (c :: cs) = c :: cs := by
  simp [skipSpace, isText]

theorem skipSpace_lineBreak (level : Nat) (cs : List Char) : skipSpace (lineBreak level ++ cs) = skipSpace cs := by
  refine List.dropWhile_append_of_pos fun c isBlank => ?_
  rcases List.mem_cons.mp isBlank with rfl | blank
  · rfl
  · rw [List.eq_of_mem_replicate blank]
    rfl

theorem valueFrom_skipSpace (fuel : Nat) (cs : List Char) : valueFrom fuel (skipSpace cs) = valueFrom fuel cs := by
  cases fuel with
  | zero => rw [valueFrom, valueFrom]
  | succ fuel =>
    have again : skipSpace (skipSpace cs) = skipSpace cs := List.dropWhile_idempotent _ _
    rw [valueFrom, valueFrom, again]

theorem valueFrom_blank (fuel : Nat) (cs : List Char) : valueFrom fuel (' ' :: cs) = valueFrom fuel cs := by
  have dropped : skipSpace (' ' :: cs) = skipSpace cs := rfl
  rw [← valueFrom_skipSpace, dropped, valueFrom_skipSpace]

/-- A text that starts, after blanks, with something other than a closing mark. -/
def Opens (cs : List Char) : Prop :=
  ∃ c more, skipSpace cs = c :: more ∧ c ≠ ']' ∧ c ≠ '\x7d'

/-- The text of a value starts with no blank and no closing mark. -/
theorem prettyChars_head (v : Json) (level : Nat) :
    ∃ c cs, prettyChars level v = c :: cs ∧ isSpace c = false ∧ c ≠ ']' ∧ c ≠ '\x7d' := by
  match v with
  | .null | .bool true | .bool false | .str _ | .arr [] | .obj [] | .arr (_ :: _) | .obj (_ :: _) =>
    exact ⟨_, _, rfl, by decide⟩
  | .int n =>
    obtain ⟨c, cs, spelled, isHead⟩ := decimal_head n
    have noHead : ∀ mark ∈ [' ', '\n', '\t', '\r', ']', '\x7d'], ¬ (mark = '-' ∨ isDigit mark = true) := by
      simp [isDigit]
    have isOther : ∀ mark ∈ [' ', '\n', '\t', '\r', ']', '\x7d'], c ≠ mark := by
      rintro mark isMark rfl
      exact noHead _ isMark isHead
    simp only [List.forall_mem_cons] at isOther
    exact ⟨c, cs, spelled, by simp [isSpace, isOther], by simp [isOther], by simp [isOther]⟩

theorem opens_pretty (v : Json) (level : Nat) (rest : List Char) :
    Opens (lineBreak level ++ prettyChars level v ++ rest) := by
  obtain ⟨c, cs, spelled, isText, notClose⟩ := prettyChars_head v level
  refine ⟨c, cs ++ rest, ?_, notClose⟩
  rw [List.append_assoc, skipSpace_lineBreak, spelled, List.cons_append, skipSpace_of_head isText]

theorem opens_prettyItems (v : Json) (items : List Json) (level : Nat) (rest : List Char) :
    Opens (prettyItems level (v :: items) ++ rest) := by
  cases items with
  | nil => exact opens_pretty v level rest
  | cons w items =>
    rw [prettyItems, List.append_assoc]
    exact opens_pretty v level _

theorem opens_prettyMembers (member : String × Json) (members : List (String × Json)) (level : Nat) (rest : List Char) :
    Opens (prettyMembers level (member :: members) ++ rest) := by
  refine ⟨'"', ?_⟩
  cases members <;> simp [prettyMembers, skipSpace_lineBreak, quoted, skipSpace_of_head (c := '"') rfl]

/-! ## One step of a reader -/

theorem valueFrom_digit {c : Char} (digit : isDigit c = true) (fuel : Nat) (cs : List Char) :
    valueFrom (fuel + 1) (c :: cs) = numberFrom false (c :: cs) := by
  have noDigit : ∀ mark ∈ [' ', '\n', '\t', '\r', 'n', 't', 'f', '"', '[', '\x7b', '-'], isDigit mark = false := by
    simp [isDigit]
  have isOther : ∀ mark ∈ [' ', '\n', '\t', '\r', 'n', 't', 'f', '"', '[', '\x7b', '-'], c ≠ mark := by
    rintro mark isMark rfl
    exact absurd digit (by simp [noDigit _ isMark])
  simp only [List.forall_mem_cons] at isOther
  rw [valueFrom, skipSpace_of_head (by simp [isSpace, isOther])]
  split <;> simp_all

theorem valueFrom_bracket {cs : List Char} (opens : Opens cs) (fuel : Nat) :
    valueFrom (fuel + 1) ('[' :: cs) = itemsFrom fuel [] (skipSpace cs) := by
  obtain ⟨c, more, isText, notClose, _⟩ := opens
  rw [valueFrom, skipSpace_of_head (by decide)]
  simp [isText, notClose]

theorem valueFrom_brace {cs : List Char} (opens : Opens cs) (fuel : Nat) :
    valueFrom (fuel + 1) ('\x7b' :: cs) = membersFrom fuel [] (skipSpace cs) := by
  obtain ⟨c, more, isText, _, notClose⟩ := opens
  rw [valueFrom, skipSpace_of_head (by decide)]
  simp [isText, notClose]

section Step

variable {fuel : Nat} {cs rest more : List Char} {item : Document}

theorem itemsFrom_close (read : valueFrom fuel cs = (item, some rest)) (closes : skipSpace rest = ']' :: more)
    (items : List Document) : itemsFrom (fuel + 1) items cs = (.arr (item :: items).reverse .closed, some more) := by
  rw [itemsFrom, read]
  simp only [closes]

theorem itemsFrom_comma (read : valueFrom fuel cs = (item, some rest)) (comma : skipSpace rest = ',' :: more)
    (opens : Opens more) (items : List Document) :
    itemsFrom (fuel + 1) items cs = itemsFrom fuel (item :: items) (skipSpace more) := by
  obtain ⟨c, _, isText, notClose, _⟩ := opens
  rw [itemsFrom, read]
  simp [comma, isText, notClose]

variable {key : Option String} {spelled behind : List Char}
  (isKey : stringFrom [] none none spelled = (quotation key, some behind)) (colon : skipSpace behind = ':' :: cs)

include isKey colon

theorem membersFrom_close (read : valueFrom fuel cs = (item, some rest)) (closes : skipSpace rest = '\x7d' :: more)
    (members : List (Option String × Document)) :
    membersFrom (fuel + 1) members ('"' :: spelled) = (.obj ((key, item) :: members).reverse .closed, some more) := by
  rw [membersFrom, isKey]
  cases key <;> simp only [quotation, colon, read, closes]

theorem membersFrom_comma (read : valueFrom fuel cs = (item, some rest)) (comma : skipSpace rest = ',' :: more)
    (opens : Opens more) (members : List (Option String × Document)) :
    membersFrom (fuel + 1) members ('"' :: spelled) = membersFrom fuel ((key, item) :: members) (skipSpace more) := by
  obtain ⟨c, _, isText, _⟩ := opens
  rw [membersFrom, isKey]
  cases key <;> simp [quotation, colon, read, comma, isText]

end Step

/-! ## Values -/

theorem valueFrom_decimal {n : Int} (fits : Fits64 n) {rest : List Char} (ends : EndsNumber rest) (fuel : Nat) :
    valueFrom (fuel + 1) (decimal n ++ rest) = (.int n, some rest) := by
  cases n with
  | ofNat n =>
    have small : n < Text.bound64 := Int.ofNat_lt.mp fits.2
    have asParts : ofParts false (Nat.toDigits 10 n) none none = .int n := by
      simp [ofParts, ofDigits_toDigits, small]
    rw [decimal, Nat.toList_repr]
    obtain ⟨c, digits, spelled⟩ := List.exists_cons_of_ne_nil (Nat.toDigits_ne_nil (n := n) (b := 10))
    have isFirst : c ∈ Nat.toDigits 10 n := spelled ▸ List.mem_cons_self
    rw [spelled, List.cons_append, valueFrom_digit (isDigit_of_mem_toDigits isFirst), ← List.cons_append, ← spelled,
      numberFrom_toDigits ends, asParts]
    rfl
  | negSucc n =>
    have small : n + 1 ≤ Text.bound64 / 2 := by
      have least := fits.1
      simp only [Text.bound64]
      omega
    have asParts : ofParts true (Nat.toDigits 10 (n + 1)) none none = .int (.negSucc n) := by
      simp only [ofParts, ofDigits_toDigits, if_true, Nat.succ_ne_zero, if_false, if_pos small]
      rfl
    rw [decimal, Nat.toList_repr, List.cons_append, valueFrom, skipSpace_of_head (by decide)]
    exact (numberFrom_toDigits ends true (n + 1)).trans (by rw [asParts])

mutual

/-- **A value is read back from its text**, and the rest is left. -/
theorem valueFrom_pretty (v : Json) (readable : v.Readable) (level : Nat) {fuel : Nat}
    (enough : (prettyChars level v).length ≤ fuel) {rest : List Char} (ends : EndsNumber rest) :
    valueFrom fuel (prettyChars level v ++ rest) = (ofJson v, some rest) := by
  match fuel, v with
  | 0, v =>
    obtain ⟨c, cs, spelled, _⟩ := prettyChars_head v level
    rw [spelled] at enough
    exact absurd enough (by simp)
  | fuel + 1, .null => rfl
  | fuel + 1, .bool true => rfl
  | fuel + 1, .bool false => rfl
  | fuel + 1, .int n => exact valueFrom_decimal readable ends fuel
  | fuel + 1, .str s =>
    rw [prettyChars, quoted_append, valueFrom, skipSpace_of_head (by decide)]
    exact stringFrom_quoted s rest
  | fuel + 1, .arr [] => rfl
  | fuel + 1, .obj [] => rfl
  | fuel + 1, .arr (v :: items) =>
    have opens := opens_prettyItems v items (level + 1) (lineBreak level ++ ']' :: rest)
    have enough : (prettyItems (level + 1) (v :: items)).length ≤ fuel := by
      simp only [prettyChars, List.length_cons, List.length_append] at enough
      omega
    rw [prettyChars]
    simp only [List.cons_append, List.append_assoc, List.nil_append]
    rw [valueFrom_bracket opens, itemsFrom_pretty v items readable (level + 1) level enough]
    rfl
  | fuel + 1, .obj (member :: members) =>
    have opens := opens_prettyMembers member members (level + 1) (lineBreak level ++ '\x7d' :: rest)
    have enough : (prettyMembers (level + 1) (member :: members)).length ≤ fuel := by
      simp only [prettyChars, List.length_cons, List.length_append] at enough
      omega
    rw [prettyChars]
    simp only [List.cons_append, List.append_assoc, List.nil_append]
    rw [valueFrom_brace opens, membersFrom_pretty member members readable (level + 1) level enough]
    rfl
termination_by structural fuel

/-- The items of an array are read back from the first of them on. -/
theorem itemsFrom_pretty (v : Json) (items : List Json) (readable : ReadableItems (v :: items)) (level outer : Nat)
    {fuel : Nat} (enough : (prettyItems level (v :: items)).length ≤ fuel) {rest : List Char} {earlier : List Document} :
    itemsFrom fuel earlier (skipSpace (prettyItems level (v :: items) ++ (lineBreak outer ++ ']' :: rest))) =
      (.arr (earlier.reverse ++ ofItems (v :: items)) .closed, some rest) := by
  match fuel, items with
  | 0, [] => simp [prettyItems, lineBreak] at enough
  | 0, _ :: _ => simp [prettyItems, lineBreak] at enough
  | fuel + 1, [] =>
    have enough : (prettyChars level v).length ≤ fuel := by
      simp only [prettyItems, lineBreak, List.length_cons, List.length_append] at enough
      omega
    have read := valueFrom_pretty v readable.1 level enough (endsNumber_lineBreak outer (']' :: rest))
    have closes : skipSpace (lineBreak outer ++ ']' :: rest) = ']' :: rest := skipSpace_lineBreak outer _
    rw [prettyItems, List.append_assoc, skipSpace_lineBreak]
    rw [← valueFrom_skipSpace] at read
    rw [itemsFrom_close read closes, List.reverse_cons]
    rfl
  | fuel + 1, w :: items =>
    have enough : (prettyChars level v).length ≤ fuel ∧ (prettyItems level (w :: items)).length ≤ fuel := by
      simp only [prettyItems, lineBreak, List.length_cons, List.length_append] at enough
      omega
    have read := valueFrom_pretty v readable.1 level enough.1
      (endsNumber_comma (prettyItems level (w :: items) ++ (lineBreak outer ++ ']' :: rest)))
    rw [prettyItems, List.append_assoc, List.append_assoc, skipSpace_lineBreak, List.cons_append]
    rw [← valueFrom_skipSpace] at read
    rw [itemsFrom_comma read (skipSpace_of_head rfl _) (opens_prettyItems w items level _),
      itemsFrom_pretty w items readable.2 level outer enough.2, List.reverse_cons, List.append_assoc]
    rfl
termination_by structural fuel

/-- The members of an object are read back from the first of them on. -/
theorem membersFrom_pretty (member : String × Json) (members : List (String × Json))
    (readable : ReadableMembers (member :: members)) (level outer : Nat) {fuel : Nat}
    (enough : (prettyMembers level (member :: members)).length ≤ fuel) {rest : List Char}
    {earlier : List (Option String × Document)} :
    membersFrom fuel earlier
        (skipSpace (prettyMembers level (member :: members) ++ (lineBreak outer ++ '\x7d' :: rest))) =
      (.obj (earlier.reverse ++ ofMembers (member :: members)) .closed, some rest) := by
  match fuel, member, members with
  | 0, _, [] => simp [prettyMembers, lineBreak] at enough
  | 0, _, _ :: _ => simp [prettyMembers, lineBreak] at enough
  | fuel + 1, (key, v), [] =>
    have enough : (prettyChars level v).length ≤ fuel := by
      simp only [prettyMembers, lineBreak, List.length_cons, List.length_append] at enough
      omega
    have read := valueFrom_pretty v readable.1 level enough (endsNumber_lineBreak outer ('\x7d' :: rest))
    have closes : skipSpace (lineBreak outer ++ '\x7d' :: rest) = '\x7d' :: rest := skipSpace_lineBreak outer _
    rw [prettyMembers, List.append_assoc, List.append_assoc, skipSpace_lineBreak, quoted_append, skipSpace_of_head rfl,
      List.cons_append, List.cons_append]
    rw [← valueFrom_blank] at read
    rw [membersFrom_close (stringFrom_key key _) (skipSpace_of_head rfl _) read closes, List.reverse_cons]
    rfl
  | fuel + 1, (key, v), second :: members =>
    have enough : (prettyChars level v).length ≤ fuel ∧ (prettyMembers level (second :: members)).length ≤ fuel := by
      simp only [prettyMembers, lineBreak, List.length_cons, List.length_append] at enough
      omega
    have read := valueFrom_pretty v readable.1 level enough.1
      (endsNumber_comma (prettyMembers level (second :: members) ++ (lineBreak outer ++ '\x7d' :: rest)))
    rw [prettyMembers]
    simp only [List.append_assoc, List.cons_append]
    rw [skipSpace_lineBreak, quoted_append, skipSpace_of_head rfl]
    rw [← valueFrom_blank] at read
    rw [membersFrom_comma (stringFrom_key key _) (skipSpace_of_head rfl _) read (skipSpace_of_head rfl _)
      (opens_prettyMembers second members level _), membersFrom_pretty second members readable.2 level outer enough.2,
      List.reverse_cons, List.append_assoc]
    rfl
termination_by structural fuel

end

/-- **The text of a value spells its document**, with nothing behind it. -/
theorem read_pretty {v : Json} (readable : v.Readable) : read v.pretty = ⟨ofJson v, false⟩ := by
  have value : valueFrom (2 * (prettyChars 0 v).length + 2) (prettyChars 0 v ++ []) = (ofJson v, some []) :=
    valueFrom_pretty v readable 0 (by omega) endsNumber_nil
  rw [List.append_nil] at value
  simp [read, pretty, value, skipSpace]

end Document

end WorkflowAtlas
