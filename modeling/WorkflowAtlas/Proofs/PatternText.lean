import WorkflowAtlas.Proofs.RegexMatching
import WorkflowAtlas.Regex.Reader

/-!
# Patterns that are written

A text that is escaped is a pattern of itself: whatever characters it has, the reader takes each of them as it
is. `Spells` says what the reader makes of a part of a pattern, whatever was read before and comes behind, so that
the parts of a pattern can be read one by one (`Spells.append`).

**The law** (`parse?_of_spells`): a text that spells expressions is the pattern of their sequence.
-/

namespace WorkflowAtlas.Regex

variable {text other : List Char} {items more : List Regex}

/-- **A part of a pattern spells expressions**: the reader adds them to what it has read, in no more steps than the
part has characters. A `?` behind a repetition would belong to it, so no part starts with one. -/
structure Spells (text : List Char) (items : List Regex) : Prop where
  noMark : text.head? ≠ some '?'
  reads : ∃ steps ≤ text.length, ∀ (fuel : Nat) (read : List (Option Regex)) (rest : List Char), rest.head? ≠ some '?' →
    alternatives? (fuel + steps) {} [] [] read (text ++ rest) =
      alternatives? fuel {} [] [] ((items.map some).reverse ++ read) rest

theorem Spells.nil : Spells [] [] :=
  ⟨by simp, 0, Nat.le_refl 0, fun _ _ _ _ => rfl⟩

theorem Spells.append (first : Spells text items) (second : Spells other more) :
    Spells (text ++ other) (items ++ more) := by
  obtain ⟨noMark, steps, few, reads⟩ := first
  obtain ⟨noMark', steps', few', reads'⟩ := second
  have noMarkBehind : ∀ {rest : List Char}, rest.head? ≠ some '?' → (other ++ rest).head? ≠ some '?' := by
    intro rest noMark
    cases other with
    | nil => exact noMark
    | cons c other => exact noMark'
  refine ⟨?_, steps' + steps, ?_, fun fuel read rest noMark => ?_⟩
  · cases text with
    | nil => exact noMark'
    | cons c text => exact noMark
  · rw [List.length_append]
    omega
  · rw [← Nat.add_assoc, List.append_assoc, reads _ _ _ (noMarkBehind noMark), reads' _ _ _ noMark]
    simp

/-- One step of the reader over a part of a pattern. -/
theorem Spells.step {item : Regex} (nonempty : text ≠ []) (noMark : text.head? ≠ some '?')
    (reads : ∀ (fuel : Nat) (read : List (Option Regex)) (rest : List Char),
      alternatives? (fuel + 1) {} [] [] read (text ++ rest) = alternatives? fuel {} [] [] (some item :: read) rest) :
    Spells text [item] :=
  ⟨noMark, 1, List.length_pos_iff.mpr nonempty, fun fuel read rest _ => reads fuel read rest⟩

/-! ## Characters as they are -/

/-- **A character without a meaning** is read as it is: it is none of those that the reader looks for. -/
theorem spells_plain {c : Char} (plain : hasMeaning c = false) : Spells [c] [.char c] := by
  have differs : ∀ special, hasMeaning special = true → c ≠ special := by
    rintro special hasOne rfl
    rw [plain] at hasOne
    cases hasOne
  refine .step (List.cons_ne_nil c []) (by simpa using differs '?' rfl) fun fuel read rest => ?_
  have isText : skipSpaced {} (c :: rest).length (c :: rest) = c :: rest := rfl
  rw [List.singleton_append, alternatives?.eq_2, isText]
  split
  case h_1 => contradiction
  case h_14 d tail _ _ _ _ _ _ _ _ _ _ _ _ isSplit =>
    obtain ⟨rfl, rfl⟩ := List.cons.inj isSplit
    rfl
  all_goals
    next tail isSplit => exact absurd (List.cons.inj isSplit).1 (differs _ rfl)

/-- **A character with a meaning** loses it behind a backslash. -/
theorem spells_escaped {c : Char} (special : hasMeaning c = true) : Spells ['\\', c] [.char c] := by
  refine .step (List.cons_ne_nil _ _) (by simp) fun fuel read rest => ?_
  simp only [hasMeaning, List.mem_cons, List.not_mem_nil, or_false, decide_eq_true_eq] at special
  rcases special with rfl | rfl | rfl | rfl | rfl | rfl | rfl | rfl | rfl | rfl | rfl | rfl | rfl | rfl | rfl | rfl |
    rfl | rfl
  all_goals rfl

/-- **An escaped text spells itself**, character by character. -/
theorem spells_escape (cs : List Char) : Spells (escape cs) (cs.map char) := by
  induction cs with
  | nil => exact .nil
  | cons c cs ih =>
    have first : Spells (escapeChar c) [.char c] := by
      unfold escapeChar
      split
      · next special => exact spells_escaped special
      · next plain => exact spells_plain (Bool.eq_false_iff.mpr plain)
    exact first.append ih

/-! ## Whole patterns -/

theorem sequenceOf_reverse (items : List Regex) : sequenceOf (items.map some).reverse = sequence items := by
  simp [sequenceOf]

/-- **A text that spells expressions is the pattern of their sequence.** -/
theorem parse?_of_spells (spells : Spells text items) : parse? (String.ofList text) = some (sequence items) := by
  obtain ⟨steps, few, reads⟩ := spells.reads
  obtain ⟨left, isLength⟩ := Nat.exists_eq_add_of_le few
  have isFuel : text.length + 1 = left + 1 + steps := by omega
  have whole : alternatives? (text.length + 1) {} [] [] [] text = some (sequence items, [], []) := by
    have read := reads (left + 1) [] [] (by simp)
    rw [List.append_nil, List.append_nil] at read
    rw [isFuel, read, ← sequenceOf_reverse]
    rfl
  simp only [parse?, String.toList_ofList, whole]

end WorkflowAtlas.Regex
