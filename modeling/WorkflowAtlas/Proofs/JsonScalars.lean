import WorkflowAtlas.Proofs.JsonText

/-!
# Strings and numbers by themselves

What the reader takes for a string or a number **does not depend on what follows it**: nothing behind the closing
quote changes what a string gives (`stringFrom_alone`), and nothing behind a number that does not go on with it
(`numberFrom_leavesRest`). A string that holds half of a surrogate pair is a string too; which fault its reader met
first is all that the text behind it decides, and a string that is closed does not show that.
-/

namespace WorkflowAtlas

namespace Document

open Text (isDigit)

/-! ## Strings alone -/

theorem isSome_settle (half : Option Fault) (pending : Option Nat) (rest : List Char) :
    (settle half pending rest).isSome = (half.isSome || pending.isSome) := by
  cases half <;> cases pending <;> rfl

/-- **A reading of a string that depends on the string alone**: it ends at a quote, and nothing behind that makes a
difference, nor which fault was met first. -/
def ReadsAlone (text : List Char) (half : Option Fault) (pending : Option Nat) (cs : List Char) (doc : Document)
    (rest : List Char) : Prop :=
  ∃ body spelled, doc = quotation spelled ∧ cs = body ++ '"' :: rest ∧
    ∀ (half' : Option Fault) (more : List Char), half'.isSome = half.isSome →
      stringFrom text half' pending (body ++ '"' :: more) = (doc, some more)

section Alone

variable {text later : List Char} {half met : Option Fault} {pending next : Option Nat} {cs rest : List Char}
  {doc : Document}

/-- A part in front that is read without a look at what follows. -/
theorem ReadsAlone.behind (part : List Char)
    (step : ∀ (half' : Option Fault) (tail : List Char), half'.isSome = half.isSome →
      ∃ met', met'.isSome = met.isSome ∧ stringFrom text half' pending (part ++ tail) = stringFrom later met' next tail)
    (alone : ReadsAlone later met next cs doc rest) : ReadsAlone text half pending (part ++ cs) doc rest := by
  obtain ⟨body, spelled, isDoc, rfl, reads⟩ := alone
  refine ⟨part ++ body, spelled, isDoc, (List.append_assoc _ _ _).symm, fun half' more same => ?_⟩
  obtain ⟨met', sameMet, step⟩ := step half' (body ++ '"' :: more) same
  rw [List.append_assoc, step, reads met' more sameMet]

theorem stringFrom_quote (text : List Char) (half : Option Fault) (pending : Option Nat) (rest : List Char) :
    stringFrom text half pending ('"' :: rest) =
      (quotation (if half.isSome || pending.isSome then none else some (String.ofList text.reverse)), some rest) := by
  rw [stringFrom, ← isSome_settle half pending ('"' :: rest)]
  cases settle half pending ('"' :: rest) <;> rfl

theorem readsAlone_quote (read : stringFrom text half pending ('"' :: cs) = (doc, some rest)) :
    ReadsAlone text half pending ('"' :: cs) doc rest := by
  rw [stringFrom_quote] at read
  obtain ⟨rfl, isRest⟩ := Prod.mk.inj read
  cases isRest
  refine ⟨[], _, rfl, rfl, fun half' more same => ?_⟩
  rw [List.nil_append, stringFrom_quote, same]

theorem stringFrom_quad {a b c d : Char} {n : Nat} (isQuad : hexQuad? a b c d = some n) (half : Option Fault)
    (tail : List Char) : stringFrom text half pending ('\\' :: 'u' :: a :: b :: c :: d :: tail) =
      match pending with
      | some high =>
        if isLowHalf n then stringFrom (pairChar high n :: text) half none tail
        else
          let settled := settle half (some high) ('\\' :: 'u' :: a :: b :: c :: d :: tail)
          if isHighHalf n then stringFrom text settled (some n) tail
          else stringFrom (Char.ofNat n :: text) settled none tail
      | none =>
        if isLowHalf n then stringFrom text (half.or (some .malformed)) none tail
        else if isHighHalf n then stringFrom text half (some n) tail
        else stringFrom (Char.ofNat n :: text) half none tail := by
  rw [stringFrom.eq_def]
  cases pending <;> simp only [isQuad]

end Alone

/-- **A string is read alone.** -/
theorem stringFrom_alone {text : List Char} {half : Option Fault} {pending : Option Nat} {cs : List Char}
    {doc : Document} {rest : List Char} (read : stringFrom text half pending cs = (doc, some rest)) :
    ReadsAlone text half pending cs doc rest := by
  -- Along the calls of the reader: the quote, an escape by number in front of each kind of state, an escape by
  -- letter, a plain character.
  fun_induction stringFrom text half pending cs
  case case2 noHalf => exact readsAlone_quote (by rw [stringFrom, noHalf]; exact read)
  case case3 isHalf => exact readsAlone_quote (by rw [stringFrom, isHalf]; exact read)
  case case5 isQuad isLow ih =>
    exact (ih read).behind ['\\', 'u', _, _, _, _] fun half' tail same => ⟨half', same,
      (stringFrom_quad isQuad half' tail).trans (by simp only [isLow, if_true])⟩
  case case6 isQuad notLow isHigh settled ih =>
    refine (ih read).behind ['\\', 'u', _, _, _, _] fun half' tail same => ⟨settle half' (some _) _, ?_,
      (stringFrom_quad isQuad half' tail).trans (by simp only [notLow, isHigh, if_true]; rfl)⟩
    simp only [settled, isSome_settle, same]
  case case7 isQuad notLow notHigh settled ih =>
    refine (ih read).behind ['\\', 'u', _, _, _, _] fun half' tail same => ⟨settle half' (some _) _, ?_,
      (stringFrom_quad isQuad half' tail).trans (by simp only [notLow, notHigh]; rfl)⟩
    simp only [settled, isSome_settle, same]
  case case8 isQuad isLow ih =>
    refine (ih read).behind ['\\', 'u', _, _, _, _] fun half' tail same => ⟨half'.or (some .malformed), ?_,
      (stringFrom_quad isQuad half' tail).trans (by simp only [isLow, if_true])⟩
    simp only [Option.isSome_or, same]
  case case9 isQuad notLow isHigh ih =>
    exact (ih read).behind ['\\', 'u', _, _, _, _] fun half' tail same => ⟨half', same,
      (stringFrom_quad isQuad half' tail).trans (by simp only [notLow, isHigh, if_true]; rfl)⟩
  case case10 isQuad notLow notHigh ih =>
    exact (ih read).behind ['\\', 'u', _, _, _, _] fun half' tail same => ⟨half', same,
      (stringFrom_quad isQuad half' tail).trans (by simp only [notLow, notHigh]; rfl)⟩
  case case13 settled _ isEscaped ih =>
    refine (ih read).behind ['\\', _] fun half' tail same => ⟨settle half' _ _, ?_,
      stringFrom_letter isEscaped _ half' _ tail⟩
    simp only [settled, isSome_settle, same]
  case case16 c cs notQuote _ _ notLone notEscape settled notControl ih =>
    have notSlash : c ≠ '\\' := by
      rintro rfl
      cases cs with
      | nil => exact notLone rfl rfl
      | cons d ds => exact notEscape d ds rfl rfl
    refine (ih read).behind [_] fun half' tail same => ⟨settle half' _ _, ?_,
      stringFrom_plain ⟨notQuote, notSlash, notControl⟩ _ half' _ tail⟩
    simp only [settled, isSome_settle, same]
  -- The other calls are cut, with nothing behind them.
  all_goals cases read

/-- What stands between two quotes spells a text, or without one half of a surrogate pair. -/
def Quotes (body : List Char) (spelled : Option String) : Prop :=
  ∀ rest, stringFrom [] none none (body ++ '"' :: rest) = (quotation spelled, some rest)

theorem quotes_of_stringFrom {cs rest : List Char} {doc : Document}
    (read : stringFrom [] none none cs = (doc, some rest)) :
    ∃ body spelled, doc = quotation spelled ∧ cs = body ++ '"' :: rest ∧ Quotes body spelled := by
  obtain ⟨body, spelled, rfl, isText, alone⟩ := stringFrom_alone read
  exact ⟨body, spelled, rfl, isText, fun rest => alone none rest rfl⟩

/-! ## Numbers alone -/

/-- The digits in front of a text, and the text behind them. -/
theorem span_isDigit {cs ds rest : List Char} (split : cs.span isDigit = (ds, rest)) :
    cs = ds ++ rest ∧ (∀ c ∈ ds, isDigit c = true) ∧ NoDigit rest := by
  rw [List.span_eq_takeWhile_dropWhile] at split
  obtain ⟨rfl, rfl⟩ := Prod.mk.inj split
  refine ⟨List.takeWhile_append_dropWhile.symm, fun c => List.mem_takeWhile_imp, fun c isFirst => ?_⟩
  have noDigit := List.head?_dropWhile_not isDigit cs
  rw [isFirst] at noDigit
  simpa using noDigit

/-- **A reading that leaves the rest**: what it takes, it takes before any text that does not go on with a number. -/
def LeavesRest (read : List Char → Document × Option (List Char)) (cs : List Char) (doc : Document)
    (rest : List Char) : Prop :=
  ∃ taken, cs = taken ++ rest ∧ ∀ more, EndsNumber more → read (taken ++ more) = (doc, some more)

section Number

variable {negative : Bool} {whole : List Char} {fraction : Option (List Char)} {cs rest : List Char} {doc : Document}

/-- A part in front, behind which the reading goes on if what follows starts well. -/
theorem LeavesRest.behind {read later : List Char → Document × Option (List Char)} (part : List Char)
    (good : Char → Prop) (fine : ∀ c, isDigit c = false → c ≠ '.' → good c) (starts : ∀ c ∈ cs.head?, good c)
    (step : ∀ tail, (∀ c ∈ tail.head?, good c) → read (part ++ tail) = later tail)
    (leaves : LeavesRest later cs doc rest) : LeavesRest read (part ++ cs) doc rest := by
  obtain ⟨taken, rfl, alone⟩ := leaves
  refine ⟨part ++ taken, (List.append_assoc _ _ _).symm, fun more ends => ?_⟩
  -- What follows the part starts as before, or with the end of the number where nothing was taken.
  have starts : ∀ c ∈ (taken ++ more).head?, good c := by
    cases taken with
    | nil => exact fun c isFirst => fine c (ends c isFirst).1 (ends c isFirst).2.1
    | cons d taken => exact fun c isFirst => starts c isFirst
  rw [List.append_assoc, step _ starts, alone more ends]

theorem LeavesRest.cons {read later : List Char → Document × Option (List Char)} (c : Char)
    (step : ∀ tail, read (c :: tail) = later tail) (leaves : LeavesRest later cs doc rest) :
    LeavesRest read (c :: cs) doc rest :=
  leaves.behind [c] (fun _ => True) (fun _ _ _ => trivial) (fun _ _ => trivial) fun tail _ => step tail

theorem numberCut_ne (cs : List Char) : numberCut cs ≠ (doc, some rest) := by
  unfold numberCut
  split <;> simp

/-- What follows the sign of an exponent, then the number. -/
def exponentDigits (negative : Bool) (whole : List Char) (fraction : Option (List Char)) (positive : Bool)
    (cs : List Char) : Document × Option (List Char) :=
  match cs.span isDigit with
  | ([], r) => numberCut r
  | (e, r) => (ofParts negative whole fraction (some (positive, e)), some r)

theorem exponentDigits_some {positive : Bool}
    (read : exponentDigits negative whole fraction positive cs = (doc, some rest)) :
    ∃ d ds, cs = d :: (ds ++ rest) ∧ isDigit d = true ∧ ∀ more, EndsNumber more →
      exponentDigits negative whole fraction positive (d :: (ds ++ more)) = (doc, some more) := by
  unfold exponentDigits at read
  split at read
  · exact absurd read (numberCut_ne _)
  · next ds _ notNil split =>
    obtain ⟨rfl, digits, -⟩ := span_isDigit split
    obtain ⟨rfl, isRest⟩ := Prod.mk.inj read
    cases isRest
    obtain ⟨d, ds, rfl⟩ := List.exists_cons_of_ne_nil (fun isNil => notNil isNil)
    refine ⟨d, ds, rfl, digits d List.mem_cons_self, fun more ends => ?_⟩
    rw [exponentDigits, ← List.cons_append, span_digits digits ends.noDigit]

theorem exponentFrom_unsigned {c : Char} (digit : isDigit c = true) (cs : List Char) :
    exponentFrom negative whole fraction (c :: cs) = exponentDigits negative whole fraction true (c :: cs) := by
  have noSign : c ≠ '+' ∧ c ≠ '-' := by
    constructor <;> rintro rfl <;> exact absurd digit (by decide)
  rw [exponentFrom.eq_def]
  split
  next signed =>
  split at signed
  · simp_all
  · simp_all
  · cases signed
    rfl

theorem exponentFrom_leavesRest (read : exponentFrom negative whole fraction cs = (doc, some rest)) :
    LeavesRest (exponentFrom negative whole fraction) cs doc rest := by
  -- A sign is taken with the digits, and without one the first digit tells that there is none.
  rw [exponentFrom.eq_def] at read
  split at read
  next positive r signed =>
  change exponentDigits negative whole fraction positive r = (doc, some rest) at read
  obtain ⟨d, ds, rfl, digit, alone⟩ := exponentDigits_some read
  split at signed <;> cases signed
  · exact ⟨'+' :: d :: ds, rfl, alone⟩
  · exact ⟨'-' :: d :: ds, rfl, alone⟩
  · exact ⟨d :: ds, rfl, fun more ends => (exponentFrom_unsigned digit _).trans (alone more ends)⟩

/-- What follows the digits of a number, an exponent or nothing, then the number. -/
def markedFrom (negative : Bool) (whole : List Char) (fraction : Option (List Char)) :
    List Char → Document × Option (List Char)
  | 'e' :: r => exponentFrom negative whole fraction r
  | 'E' :: r => exponentFrom negative whole fraction r
  | r => (ofParts negative whole fraction none, some r)

theorem markedFrom_end {more : List Char} (ends : EndsNumber more) :
    markedFrom negative whole fraction more = (ofParts negative whole fraction none, some more) := by
  unfold markedFrom
  split <;> simp_all [EndsNumber]

theorem markedFrom_leavesRest (read : markedFrom negative whole fraction cs = (doc, some rest)) :
    LeavesRest (markedFrom negative whole fraction) cs doc rest := by
  unfold markedFrom at read
  split at read
  · exact (exponentFrom_leavesRest read).cons 'e' fun tail => rfl
  · exact (exponentFrom_leavesRest read).cons 'E' fun tail => rfl
  · cases read
    exact ⟨[], rfl, fun more ends => markedFrom_end ends⟩

theorem fractionFrom_point {ds r : List Char} (split : cs.span isDigit = (ds, r)) (notNil : ds ≠ []) :
    fractionFrom negative whole ('.' :: cs) = markedFrom negative whole (some ds) r := by
  obtain ⟨d, ds, rfl⟩ := List.exists_cons_of_ne_nil notNil
  rw [fractionFrom, split]
  unfold markedFrom
  split <;> simp_all

theorem fractionFrom_of_head (noPoint : ∀ c ∈ cs.head?, c ≠ '.') :
    fractionFrom negative whole cs = markedFrom negative whole none cs := by
  unfold fractionFrom markedFrom
  split <;> simp_all

theorem fractionFrom_leavesRest (read : fractionFrom negative whole cs = (doc, some rest)) :
    LeavesRest (fractionFrom negative whole) cs doc rest := by
  by_cases point : ∃ r, cs = '.' :: r
  · obtain ⟨r, rfl⟩ := point
    obtain ⟨ds, tail, split⟩ : ∃ ds tail, r.span isDigit = (ds, tail) := ⟨_, _, rfl⟩
    by_cases isNil : ds = []
    · rw [fractionFrom, split, isNil] at read
      exact absurd read (numberCut_ne _)
    · rw [fractionFrom_point split isNil] at read
      obtain ⟨rfl, digits, stops⟩ := span_isDigit split
      exact (markedFrom_leavesRest read).behind ('.' :: ds) (isDigit · = false) (fun _ noDigit _ => noDigit) stops
        fun tail stops => fractionFrom_point (span_digits digits stops) isNil
  · have noPoint : ∀ c ∈ cs.head?, c ≠ '.' := by
      rintro c isFirst rfl
      exact point ⟨cs.tail, List.eq_cons_of_mem_head? isFirst⟩
    rw [fractionFrom_of_head noPoint] at read
    exact (markedFrom_leavesRest read).behind [] (· ≠ '.') (fun _ _ noPoint => noPoint) noPoint
      fun tail noPoint => fractionFrom_of_head noPoint

theorem numberFrom_digits {ds r : List Char} (split : cs.span isDigit = (ds, r)) (notNil : ds ≠ [])
    (noZero : ∀ d more, ds ≠ '0' :: d :: more) : numberFrom negative cs = fractionFrom negative ds r := by
  rw [numberFrom, split]
  split <;> simp_all

/-- **A number is read alone** where nothing follows that goes on with it, and it starts with a digit. -/
theorem numberFrom_leavesRest (read : numberFrom negative cs = (doc, some rest)) :
    LeavesRest (numberFrom negative) cs doc rest ∧ ∃ c ∈ cs.head?, isDigit c = true := by
  rw [numberFrom] at read
  split at read
  · exact absurd read (numberCut_ne _)
  · cases read
  · next ds r notNil noZero split =>
    have notNil : ds ≠ [] := fun isNil => notNil isNil
    obtain ⟨rfl, digits, stops⟩ := span_isDigit split
    refine ⟨(fractionFrom_leavesRest read).behind ds (isDigit · = false) (fun _ noDigit _ => noDigit) stops
      fun tail stops => numberFrom_digits (span_digits digits stops) notNil noZero, ?_⟩
    obtain ⟨d, ds, rfl⟩ := List.exists_cons_of_ne_nil notNil
    exact ⟨d, rfl, digits d List.mem_cons_self⟩

end Number

/-- A text behind a sign that is read as a number. -/
def Numbers (negative : Bool) (cs : List Char) (doc : Document) : Prop :=
  ∀ rest, EndsNumber rest → numberFrom negative (cs ++ rest) = (doc, some rest)

theorem Numbers.head {negative : Bool} {cs : List Char} {doc : Document} (isNumber : Numbers negative cs doc) :
    ∃ c more, cs = c :: more ∧ isDigit c = true := by
  have read := isNumber [] endsNumber_nil
  rw [List.append_nil] at read
  obtain ⟨-, c, isFirst, digit⟩ := numberFrom_leavesRest read
  exact ⟨c, cs.tail, List.eq_cons_of_mem_head? isFirst, digit⟩

end Document

end WorkflowAtlas
