import WorkflowAtlas.Regex.Basic

/-!
# What an expression matches

`Matches` says which texts an expression matches between two characters, without residuals: a sequence splits
its text, a repetition splits it any number of times, and a condition looks at the characters next to its
place. Where a text is split, the part in front is what stands before the part behind.

**The law** (`isFoundIn_iff`): a search finds an expression in a text exactly where it matches a part of it. The
empty text is matched where the expression is nullable (`matches_nil`), and a longer one where what is left after
its first character matches the rest (`matches_cons`); both are one case for each constructor. A search is then
an induction on the text.
-/

namespace WorkflowAtlas.Regex

/-- **What an expression matches** behind the character `before` and in front of `after`. -/
inductive Matches : Option Char → Option Char → Regex → List Char → Prop
  | empty {before after : Option Char} : Matches before after .empty []
  | one {before after : Option Char} {set : CharSet} {c : Char} (isMember : set.contains c = true) :
      Matches before after (.one set) [c]
  | look {before after : Option Char} {condition : Look} (holds : condition.holds before after = true) :
      Matches before after (.look condition) []
  | seq {before after : Option Char} {a b : Regex} {front back : List Char}
      (first : Matches before (back.head?.or after) a front) (second : Matches (front.getLast?.or before) after b back) :
      Matches before after (.seq a b) (front ++ back)
  | left {before after : Option Char} {a b : Regex} {text : List Char} (isLeft : Matches before after a text) :
      Matches before after (.either a b) text
  | right {before after : Option Char} {a b : Regex} {text : List Char} (isRight : Matches before after b text) :
      Matches before after (.either a b) text
  | stop {before after : Option Char} {a : Regex} : Matches before after (.many a) []
  | more {before after : Option Char} {a : Regex} {front back : List Char}
      (first : Matches before (back.head?.or after) a front)
      (others : Matches (front.getLast?.or before) after (.many a) back) :
      Matches before after (.many a) (front ++ back)

variable {before after : Option Char} {a b r : Regex} {c : Char} {text : List Char}

/-! ## One constructor at a time -/

@[simp] theorem matches_empty : Matches before after .empty text ↔ text = [] :=
  ⟨fun isMatch => by cases isMatch; rfl, fun isEmpty => isEmpty ▸ .empty⟩

@[simp] theorem matches_one {set : CharSet} :
    Matches before after (.one set) text ↔ ∃ c, set.contains c = true ∧ text = [c] := by
  constructor
  · intro isMatch
    cases isMatch with
    | one isMember => exact ⟨_, isMember, rfl⟩
  · rintro ⟨c, isMember, rfl⟩
    exact .one isMember

@[simp] theorem matches_look {condition : Look} :
    Matches before after (.look condition) text ↔ condition.holds before after = true ∧ text = [] := by
  constructor
  · intro isMatch
    cases isMatch with
    | look holds => exact ⟨holds, rfl⟩
  · rintro ⟨holds, rfl⟩
    exact .look holds

theorem matches_seq : Matches before after (.seq a b) text ↔
    ∃ front back, text = front ++ back ∧ Matches before (back.head?.or after) a front ∧
      Matches (front.getLast?.or before) after b back := by
  constructor
  · intro isMatch
    cases isMatch with
    | seq first second => exact ⟨_, _, rfl, first, second⟩
  · rintro ⟨front, back, rfl, first, second⟩
    exact .seq first second

@[simp] theorem matches_either :
    Matches before after (.either a b) text ↔ Matches before after a text ∨ Matches before after b text := by
  constructor
  · intro isMatch
    cases isMatch with
    | left isLeft => exact .inl isLeft
    | right isRight => exact .inr isRight
  · rintro (isLeft | isRight)
    · exact .left isLeft
    · exact .right isRight

theorem getLast?_cons_or (c : Char) (text : List Char) (before : Option Char) :
    (c :: text).getLast?.or before = text.getLast?.or (some c) := by
  rw [List.getLast?_cons]
  cases text.getLast? <;> rfl

/-- A repetition that matches something matches at least once, and something then. -/
theorem matches_many_cons : Matches before after (.many a) (c :: text) ↔
    ∃ front back, text = front ++ back ∧ Matches before (back.head?.or after) a (c :: front) ∧
      Matches (front.getLast?.or (some c)) after (.many a) back := by
  constructor
  · intro isMatch
    generalize isMany : Regex.many a = r at isMatch
    generalize isText : c :: text = whole at isMatch
    -- on how the match is made: a round that matches nothing leaves it to the next
    induction isMatch with
    | empty | one | look | seq | left | right => cases isMany
    | stop => cases isText
    | @more before after _ front back first others _ ih =>
      obtain rfl := Regex.many.inj isMany
      cases front with
      | nil => exact ih rfl isText
      | cons d front =>
        obtain ⟨rfl, rfl⟩ := List.cons.inj isText
        exact ⟨front, back, rfl, first, getLast?_cons_or c front before ▸ others⟩
  · rintro ⟨front, back, rfl, first, others⟩
    exact .more first (getLast?_cons_or c front before ▸ others)

/-! ## Nothing, and one character more -/

/-- **The empty text** is matched where the expression is nullable. -/
theorem matches_nil (r : Regex) : Matches before after r [] ↔ r.nullable before after = true := by
  induction r generalizing before after with
  | empty => simp [nullable]
  | one set => simp [nullable]
  | look condition => simp [nullable]
  | seq a b matchesA matchesB =>
    rw [nullable, Bool.and_eq_true, ← matchesA, ← matchesB, matches_seq]
    constructor
    · rintro ⟨front, back, isSplit, first, second⟩
      obtain ⟨rfl, rfl⟩ := List.append_eq_nil_iff.mp isSplit.symm
      exact ⟨first, second⟩
    · rintro ⟨first, second⟩
      exact ⟨[], [], rfl, first, second⟩
  | either a b matchesA matchesB => simp [nullable, matchesA, matchesB]
  | many a => exact iff_of_true .stop rfl

theorem matches_andThen : Matches before after (a.andThen b) text ↔ Matches before after (.seq a b) text := by
  cases a with
  | empty =>
    rw [matches_seq]
    constructor
    · intro isMatch
      exact ⟨[], text, rfl, .empty, isMatch⟩
    · rintro ⟨front, back, rfl, isEmpty, isMatch⟩
      obtain rfl := matches_empty.mp isEmpty
      exact isMatch
  | _ => exact Iff.rfl

/-- What is left after a character of the first of two expressions is left in front of the second. -/
theorem exists_andThen {residual : List Regex} :
    (∃ s ∈ residual.map (andThen · b), Matches (some c) after s text) ↔
      ∃ front back, text = front ++ back ∧ (∃ s ∈ residual, Matches (some c) (back.head?.or after) s front) ∧
        Matches (front.getLast?.or (some c)) after b back := by
  constructor
  · rintro ⟨_, isLeft, isMatch⟩
    obtain ⟨s, isResidual, rfl⟩ := List.mem_map.mp isLeft
    obtain ⟨front, back, isSplit, first, second⟩ := matches_seq.mp (matches_andThen.mp isMatch)
    exact ⟨front, back, isSplit, ⟨s, isResidual, first⟩, second⟩
  · rintro ⟨front, back, isSplit, ⟨s, isResidual, first⟩, second⟩
    exact ⟨s.andThen b, List.mem_map_of_mem isResidual,
      matches_andThen.mpr (matches_seq.mpr ⟨front, back, isSplit, first, second⟩)⟩

/-- A sequence matches one character more through its first part, or through its second where the first
matches nothing. -/
theorem matches_seq_cons : Matches before after (.seq a b) (c :: text) ↔
    (∃ front back, text = front ++ back ∧ Matches before (back.head?.or after) a (c :: front) ∧
        Matches (front.getLast?.or (some c)) after b back) ∨
      a.nullable before (some c) = true ∧ Matches before after b (c :: text) := by
  rw [matches_seq]
  constructor
  · rintro ⟨front, back, isSplit, first, second⟩
    cases front with
    | nil =>
      obtain rfl : c :: text = back := isSplit
      exact .inr ⟨(matches_nil a).mp first, second⟩
    | cons d front =>
      obtain ⟨rfl, rfl⟩ := List.cons.inj isSplit
      exact .inl ⟨front, back, rfl, first, getLast?_cons_or c front before ▸ second⟩
  · rintro (⟨front, back, rfl, first, second⟩ | ⟨isNullable, second⟩)
    · exact ⟨c :: front, back, rfl, first, (getLast?_cons_or c front before).symm ▸ second⟩
    · exact ⟨[], c :: text, rfl, (matches_nil a).mpr isNullable, second⟩

/-- **One character more** is matched where something is left of the expression that matches the rest. -/
theorem matches_cons (r : Regex) (text : List Char) : Matches before after r (c :: text) ↔
    ∃ s ∈ r.residuals before c, Matches (some c) after s text := by
  induction r generalizing before after text with
  | empty => simp [residuals]
  | one set =>
    rw [matches_one, residuals]
    constructor
    · rintro ⟨d, isMember, isText⟩
      obtain ⟨rfl, rfl⟩ := List.cons.inj isText
      exact ⟨.empty, by simp [isMember], .empty⟩
    · rintro ⟨s, isResidual, isMatch⟩
      split at isResidual
      · next isMember =>
        rw [List.mem_singleton.mp isResidual, matches_empty] at isMatch
        exact ⟨c, isMember, by rw [isMatch]⟩
      · cases isResidual
  | look condition => simp [residuals]
  | seq a b matchesA matchesB =>
    rw [matches_seq_cons, residuals]
    simp only [matchesA, matchesB, ← exists_andThen]
    cases a.nullable before (some c) with
    | true => simp only [if_true, true_and, List.mem_append, or_and_right, exists_or]
    | false => simp only [Bool.false_eq_true, if_false, false_and, or_false]
  | either a b matchesA matchesB =>
    simp only [matches_either, matchesA, matchesB, residuals, List.mem_append, or_and_right, exists_or]
  | many a matchesA =>
    rw [residuals, exists_andThen, matches_many_cons]
    simp only [matchesA]

/-! ## Expressions that are built -/

theorem matches_sequence_cons {items : List Regex} : Matches before after (sequence (r :: items)) text ↔
    ∃ front back, text = front ++ back ∧ Matches before (back.head?.or after) r front ∧
      Matches (front.getLast?.or before) after (sequence items) back := by
  cases items with
  | nil =>
    constructor
    · intro isMatch
      exact ⟨text, [], (List.append_nil text).symm, isMatch, .empty⟩
    · rintro ⟨front, back, rfl, isMatch, isEmpty⟩
      obtain rfl := matches_empty.mp isEmpty
      rw [List.append_nil]
      exact isMatch
  | cons second items => exact matches_seq

/-- **A sequence of two lists** matches what the one and then the other match. -/
theorem matches_sequence_append {items others : List Regex} : Matches before after (sequence (items ++ others)) text ↔
    ∃ front back, text = front ++ back ∧ Matches before (back.head?.or after) (sequence items) front ∧
      Matches (front.getLast?.or before) after (sequence others) back := by
  induction items generalizing before text with
  | nil =>
    constructor
    · intro isMatch
      exact ⟨[], text, rfl, .empty, isMatch⟩
    · rintro ⟨front, back, rfl, isEmpty, isMatch⟩
      obtain rfl := matches_empty.mp isEmpty
      exact isMatch
  | cons r items ih =>
    rw [List.cons_append, matches_sequence_cons]
    constructor
    · rintro ⟨front, _, rfl, first, second⟩
      obtain ⟨middle, back, rfl, second, third⟩ := ih.mp second
      rw [List.head?_append, Option.or_assoc] at first
      rw [← Option.or_assoc, ← List.getLast?_append] at third
      exact ⟨front ++ middle, back, (List.append_assoc ..).symm,
        matches_sequence_cons.mpr ⟨front, middle, rfl, first, second⟩, third⟩
    · rintro ⟨_, back, rfl, first, third⟩
      obtain ⟨front, middle, rfl, first, second⟩ := matches_sequence_cons.mp first
      rw [← Option.or_assoc, ← List.head?_append] at first
      rw [List.getLast?_append, Option.or_assoc] at third
      exact ⟨front, middle ++ back, List.append_assoc .., first, ih.mpr ⟨middle, back, rfl, second, third⟩⟩

@[simp] theorem contains_single {d : Char} : (CharSet.single c).contains d = true ↔ d = c := by
  simp only [CharSet.single, CharSet.contains, Bool.and_eq_true, decide_eq_true_eq]
  constructor
  · rintro ⟨least, most⟩
    exact Char.le_antisymm most least
  · rintro rfl
    exact ⟨Char.le_refl d, Char.le_refl d⟩

@[simp] theorem matches_char : Matches before after (.char c) text ↔ text = [c] := by
  simp [char]

/-- **A text** is matched by itself only. -/
theorem matches_literal {cs : List Char} : Matches before after (literal cs) text ↔ text = cs := by
  unfold literal
  induction cs generalizing before text with
  | nil => exact matches_empty
  | cons c cs ih =>
    simp only [List.map_cons, matches_sequence_cons, matches_char, ih]
    constructor
    · rintro ⟨_, _, rfl, rfl, rfl⟩
      rfl
    · rintro rfl
      exact ⟨[c], cs, rfl, rfl, rfl⟩

theorem matches_many_one {set : CharSet} :
    Matches before after (.many (.one set)) text ↔ ∀ c ∈ text, set.contains c = true := by
  induction text generalizing before with
  | nil => exact iff_of_true .stop (by simp)
  | cons c text ih =>
    rw [matches_many_cons, List.forall_mem_cons]
    constructor
    · rintro ⟨front, back, rfl, first, others⟩
      obtain ⟨d, isMember, isOne⟩ := matches_one.mp first
      obtain ⟨rfl, rfl⟩ := List.cons.inj isOne
      exact ⟨isMember, ih.mp others⟩
    · rintro ⟨isMember, others⟩
      exact ⟨[], text, rfl, .one isMember, ih.mpr others⟩

/-- **A character of a set once or more.** -/
theorem matches_oneOrMore_one {set : CharSet} :
    Matches before after (oneOrMore (.one set)) text ↔ text ≠ [] ∧ ∀ c ∈ text, set.contains c = true := by
  rw [oneOrMore, matches_seq]
  simp only [matches_many_one, matches_one]
  constructor
  · rintro ⟨_, back, rfl, ⟨c, isMember, rfl⟩, others⟩
    exact ⟨List.cons_ne_nil c back, List.forall_mem_cons.mpr ⟨isMember, others⟩⟩
  · rintro ⟨nonempty, all⟩
    obtain ⟨c, back, rfl⟩ := List.exists_cons_of_ne_nil nonempty
    exact ⟨[c], back, rfl, ⟨c, all c List.mem_cons_self, rfl⟩, (List.forall_mem_cons.mp all).2⟩

/-! ## Searches -/

theorem mem_advance {active : List Regex} : r ∈ advance before c active ↔ ∃ s ∈ active, r ∈ s.residuals before c := by
  rw [advance, List.mem_eraseDups, List.mem_flatMap]

/-- A match that has begun goes on to the front of what follows. -/
def Continues (before : Option Char) (active : List Regex) (text : List Char) : Prop :=
  ∃ r ∈ active, ∃ part rest, text = part ++ rest ∧ Matches before rest.head? r part

/-- A match begins somewhere in a text. -/
def Begins (r : Regex) (before : Option Char) (text : List Char) : Prop :=
  ∃ front part rest, text = front ++ (part ++ rest) ∧ Matches (front.getLast?.or before) rest.head? r part

theorem continues_nil {active : List Regex} :
    Continues before active [] ↔ active.any (nullable before none) = true := by
  simp only [Continues, List.any_eq_true, ← matches_nil]
  constructor
  · rintro ⟨r, isActive, part, rest, isSplit, isMatch⟩
    obtain ⟨rfl, rfl⟩ := List.append_eq_nil_iff.mp isSplit.symm
    exact ⟨r, isActive, isMatch⟩
  · rintro ⟨r, isActive, isMatch⟩
    exact ⟨r, isActive, [], [], rfl, isMatch⟩

/-- A match ends here, or goes on behind the next character with what is left. -/
theorem continues_cons {active : List Regex} : Continues before active (c :: text) ↔
    active.any (nullable before (some c)) = true ∨ Continues (some c) (advance before c active) text := by
  simp only [Continues, List.any_eq_true, ← matches_nil]
  constructor
  · rintro ⟨r, isActive, part, rest, isSplit, isMatch⟩
    cases part with
    | nil =>
      obtain rfl : c :: text = rest := isSplit
      exact .inl ⟨r, isActive, isMatch⟩
    | cons d part =>
      obtain ⟨rfl, rfl⟩ := List.cons.inj isSplit
      obtain ⟨s, isResidual, isMatch⟩ := (matches_cons r part).mp isMatch
      exact .inr ⟨s, mem_advance.mpr ⟨r, isActive, isResidual⟩, part, rest, rfl, isMatch⟩
  · rintro (⟨r, isActive, isMatch⟩ | ⟨s, isLeft, part, rest, rfl, isMatch⟩)
    · exact ⟨r, isActive, [], c :: text, rfl, isMatch⟩
    · obtain ⟨r, isActive, isResidual⟩ := mem_advance.mp isLeft
      exact ⟨r, isActive, c :: part, rest, rfl, (matches_cons r part).mpr ⟨s, isResidual, isMatch⟩⟩

/-- A match begins here or behind the next character. -/
theorem begins_cons : Begins r before (c :: text) ↔ Continues before [r] (c :: text) ∨ Begins r (some c) text := by
  constructor
  · rintro ⟨front, part, rest, isSplit, isMatch⟩
    cases front with
    | nil => exact .inl ⟨r, List.mem_singleton_self r, part, rest, isSplit, isMatch⟩
    | cons d front =>
      obtain ⟨rfl, rfl⟩ := List.cons.inj isSplit
      exact .inr ⟨front, part, rest, rfl, getLast?_cons_or c front before ▸ isMatch⟩
  · rintro (⟨s, isExpression, part, rest, isSplit, isMatch⟩ | ⟨front, part, rest, rfl, isMatch⟩)
    · rw [List.mem_singleton.mp isExpression] at isMatch
      exact ⟨[], part, rest, isSplit, isMatch⟩
    · exact ⟨c :: front, part, rest, rfl, (getLast?_cons_or c front before).symm ▸ isMatch⟩

theorem begins_nil : Begins r before [] ↔ Continues before [r] [] := by
  constructor
  · rintro ⟨front, part, rest, isSplit, isMatch⟩
    obtain ⟨rfl, isRest⟩ := List.append_eq_nil_iff.mp isSplit.symm
    exact ⟨r, List.mem_singleton_self r, part, rest, isRest.symm, isMatch⟩
  · rintro ⟨s, isExpression, part, rest, isSplit, isMatch⟩
    rw [List.mem_singleton.mp isExpression] at isMatch
    exact ⟨[], part, rest, isSplit, isMatch⟩

theorem continues_with {active : List Regex} :
    Continues before (r :: active) text ↔ Continues before active text ∨ Continues before [r] text := by
  simp only [Continues, List.mem_cons, List.not_mem_nil, or_false, or_and_right, exists_or]
  exact or_comm

/-- **A search** finds what has begun and what begins later. -/
theorem searchFrom_iff (r : Regex) (before : Option Char) (active : List Regex) (text : List Char) :
    searchFrom r before active text = true ↔ Continues before active text ∨ Begins r before text := by
  induction text generalizing before active with
  | nil => rw [searchFrom, ← continues_nil, begins_nil, continues_with]
  | cons c text ih =>
    rw [searchFrom, Bool.or_eq_true, ih, ← or_assoc, ← continues_cons, begins_cons, ← or_assoc, continues_with]

/-- **An expression is found in a text** where it matches a part of it. -/
theorem isFoundIn_iff (r : Regex) (text : String) : r.isFoundIn text = true ↔
    ∃ front part rest, text.toList = front ++ (part ++ rest) ∧ Matches front.getLast? rest.head? r part := by
  rw [isFoundIn, searchFrom_iff]
  simp [Continues, Begins]

/-- **Between the two ends of a text** a pattern is found when it matches the whole text. -/
theorem isFoundIn_whole {items : List Regex} :
    (sequence (.look .textStart :: (items ++ [.look .textEnd]))).isFoundIn (String.ofList text) = true ↔
      Matches none none (sequence items) text := by
  rw [isFoundIn_iff, String.toList_ofList]
  constructor
  · rintro ⟨front, part, rest, rfl, found⟩
    obtain ⟨start, part, rfl, atStart, found⟩ := matches_sequence_cons.mp found
    obtain ⟨isStart, rfl⟩ := matches_look.mp atStart
    obtain ⟨part, ending, rfl, found, atEnd⟩ := matches_sequence_append.mp found
    obtain ⟨isEnd, rfl⟩ := matches_look.mp atEnd
    obtain rfl : front = [] := by simpa [Look.holds] using isStart
    obtain rfl : rest = [] := by simpa [Look.holds] using isEnd
    simpa using found
  · intro found
    refine ⟨[], text, [], by simp, matches_sequence_cons.mpr ⟨[], text, rfl, .look rfl, ?_⟩⟩
    exact matches_sequence_append.mpr ⟨text, [], by simp, found, .look rfl⟩

end WorkflowAtlas.Regex
