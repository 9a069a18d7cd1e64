import Mathlib.Data.List.Infix
import Mathlib.Data.List.TakeDrop
import WorkflowAtlas.Text.Cut

/-!
# Cut text

What the cuts of a text have in common: the parts and the marks between them make up the text again. The pieces
of a text are those of its parts where a mark stands between these (`pieces_append_mark`), and a cut at a mark
gives what stands on its two sides.

- `suffix_pieces_iff`: the last pieces of a text are those of a part that is the whole text or stands behind a mark.
- `cutAt_eq_some_iff`: a text is cut where the mark first stands in it, and nowhere else.
-/

namespace WorkflowAtlas.Text

variable {p : Char → Bool} {a b : Char} {sub cs : List Char}

/-! ## Pieces between marks -/

theorem pieces_ne_nil : ∀ cs : List Char, pieces p cs ≠ []
  | [] => by simp [pieces]
  | c :: cs => by
    rw [pieces]
    split
    · simp
    · split <;> simp

/-- A mark ends a piece. -/
theorem pieces_append_mark {mark : Char} (isMark : p mark = true) (front back : List Char) :
    pieces p (front ++ mark :: back) = pieces p front ++ pieces p back := by
  induction front with
  | nil => simp [pieces, isMark]
  | cons c cs ih =>
    by_cases ends : p c
    · simp [pieces, ends, ih]
    · obtain ⟨piece, others, split⟩ := List.exists_cons_of_ne_nil (pieces_ne_nil (p := p) cs)
      simp [pieces, ends, ih, split]

theorem pieces_of_unmarked {cs : List Char} (unmarked : ∀ c ∈ cs, p c = false) : pieces p cs = [cs] := by
  induction cs with
  | nil => rfl
  | cons c cs ih =>
    rw [pieces, ih fun other isOther => unmarked other (List.mem_cons_of_mem c isOther)]
    simp [unmarked c List.mem_cons_self]

theorem unmarked_of_mem_pieces {cs piece : List Char} (isPiece : piece ∈ pieces p cs) : ∀ c ∈ piece, p c = false := by
  induction cs generalizing piece with
  | nil => simp_all [pieces]
  | cons c cs ih =>
    obtain ⟨first, others, split⟩ := List.exists_cons_of_ne_nil (pieces_ne_nil (p := p) cs)
    by_cases ends : p c
    · rcases List.mem_cons.mp (by simpa [pieces, ends] using isPiece) with rfl | later
      · simp
      · exact ih later
    · rw [pieces, split, if_neg ends] at isPiece
      rcases List.mem_cons.mp isPiece with rfl | later
      · intro other isOther
        rcases List.mem_cons.mp isOther with rfl | isOther
        · exact Bool.eq_false_iff.mpr ends
        · exact ih (split ▸ List.mem_cons_self) other isOther
      · exact ih (split ▸ List.mem_cons_of_mem first later)

/-- The first of several pieces ends at a mark, behind which the others start. -/
theorem exists_of_pieces_eq {piece second : List Char} {others : List (List Char)}
    (split : pieces p cs = piece :: second :: others) :
    ∃ mark rest, p mark = true ∧ cs = piece ++ mark :: rest ∧ pieces p rest = second :: others := by
  induction cs generalizing piece with
  | nil => simp [pieces] at split
  | cons c cs ih =>
    rw [pieces] at split
    split at split
    · next ends =>
      obtain ⟨isEmpty, splitRest⟩ := List.cons.inj split
      exact ⟨c, cs, ends, by rw [← isEmpty, List.nil_append], splitRest⟩
    · split at split
      · cases split
      · next first more splitRest =>
        obtain ⟨rfl, rfl⟩ := List.cons.inj split
        obtain ⟨mark, rest, isMark, rfl, splitAfter⟩ := ih splitRest
        exact ⟨mark, rest, isMark, rfl, splitAfter⟩

/-- A single piece is the whole text. -/
theorem eq_of_pieces_eq {piece : List Char} (split : pieces p cs = [piece]) : cs = piece := by
  induction cs generalizing piece with
  | nil => exact (List.cons.inj split).1
  | cons c cs ih =>
    rw [pieces] at split
    split at split
    · exact absurd (List.cons.inj split).2 (pieces_ne_nil cs)
    · split at split
      · next isEmpty => exact absurd isEmpty (pieces_ne_nil cs)
      · next first more splitRest =>
        obtain ⟨rfl, rfl⟩ := List.cons.inj split
        rw [ih splitRest]

/-- Pieces tell the text, where one mark stands between them. -/
theorem pieces_injective {mark : Char} {first second : List Char}
    (same : pieces (· == mark) first = pieces (· == mark) second) : first = second := by
  generalize isSplit : pieces (· == mark) first = split at same
  induction split generalizing first second with
  | nil => exact absurd isSplit (pieces_ne_nil first)
  | cons piece others ih =>
    cases others with
    | nil => rw [eq_of_pieces_eq isSplit, eq_of_pieces_eq same.symm]
    | cons next more =>
      obtain ⟨markFirst, restFirst, isMarkFirst, rfl, splitFirst⟩ := exists_of_pieces_eq isSplit
      obtain ⟨markSecond, restSecond, isMarkSecond, rfl, splitSecond⟩ := exists_of_pieces_eq same.symm
      rw [beq_iff_eq.mp isMarkFirst, beq_iff_eq.mp isMarkSecond, ih splitFirst splitSecond.symm]

/-- **The last pieces of a text are those of its end behind a mark**, or all of them. -/
theorem suffix_pieces_iff {mark : Char} {back text : List Char} :
    pieces (· == mark) back <:+ pieces (· == mark) text ↔ back = text ∨ mark :: back <:+ text := by
  constructor
  · rintro ⟨front, isSplit⟩
    induction front generalizing text with
    | nil => exact .inl (pieces_injective isSplit)
    | cons piece others ih =>
      right
      obtain ⟨next, more, isRest⟩ := List.exists_cons_of_ne_nil (List.append_ne_nil_of_right_ne_nil others
        (pieces_ne_nil (p := (· == mark)) back))
      have isSplit : pieces (· == mark) text = piece :: next :: more := by rw [← isSplit, List.cons_append, isRest]
      obtain ⟨found, rest, isMark, rfl, splitRest⟩ := exists_of_pieces_eq isSplit
      obtain rfl : found = mark := beq_iff_eq.mp isMark
      have atRest : found :: back <:+ found :: rest := by
        rcases ih (isRest.trans splitRest.symm) with rfl | behind
        · exact List.suffix_refl _
        · exact behind.trans (List.suffix_cons _ _)
      exact atRest.trans (List.suffix_append _ _)
  · rintro (rfl | ⟨front, rfl⟩)
    · exact List.suffix_refl _
    · rw [pieces_append_mark (p := (· == mark)) (beq_self_eq_true mark)]
      exact List.suffix_append _ _

/-- The last piece is behind the last mark. -/
theorem getLast?_pieces (cs : List Char) : (pieces p cs).getLast? = some (lastPiece p cs) := by
  have whole : cs = (cs.reverse.dropWhile fun c => !p c).reverse ++ lastPiece p cs := by
    rw [lastPiece, ← List.reverse_append, List.takeWhile_append_dropWhile, List.reverse_reverse]
  have unmarked : ∀ c ∈ lastPiece p cs, p c = false := by
    intro c isLast
    simpa using List.all_eq_true.mp List.all_takeWhile c (List.mem_reverse.mp isLast)
  have marked := List.head?_dropWhile_not (fun c => !p c) cs.reverse
  generalize lastPiece p cs = piece at whole unmarked ⊢
  generalize (cs.reverse.dropWhile fun c => !p c) = front at whole marked
  subst whole
  cases front with
  | nil => rw [List.reverse_nil, List.nil_append, pieces_of_unmarked unmarked, List.getLast?_singleton]
  | cons mark rest =>
    have isMark : p mark = true := by simpa using marked
    rw [List.reverse_cons, List.append_assoc, List.singleton_append, pieces_append_mark isMark,
      pieces_of_unmarked unmarked, List.getLast?_concat]

theorem joinWith_cons (mark piece : List Char) {rest : List (List Char)} (nonEmpty : rest ≠ []) :
    joinWith mark (piece :: rest) = piece ++ mark ++ joinWith mark rest := by
  obtain ⟨second, others, rfl⟩ := List.exists_cons_of_ne_nil nonEmpty
  rfl

theorem joinWith_append (mark : List Char) {front back : List (List Char)} (nonEmpty : front ≠ [])
    (backNonEmpty : back ≠ []) : joinWith mark (front ++ back) = joinWith mark front ++ mark ++ joinWith mark back := by
  induction front with
  | nil => exact absurd rfl nonEmpty
  | cons piece rest ih =>
    by_cases isLast : rest = []
    · subst isLast
      exact joinWith_cons mark piece backNonEmpty
    · rw [List.cons_append, joinWith_cons mark piece (by simp [isLast]), ih isLast, joinWith_cons mark piece isLast]
      simp only [List.append_assoc]

/-! ## One cut -/

/-- **A cut at the first place of a mark.** -/
structure IsFirstCut (mark cs head tail : List Char) : Prop where
  text : head ++ mark ++ tail = cs
  first : ∀ front back, front ++ mark ++ back = cs → head.length ≤ front.length

theorem IsFirstCut.unique {mark cs head tail head' tail' : List Char} (isCut : IsFirstCut mark cs head tail)
    (isCut' : IsFirstCut mark cs head' tail') : head = head' ∧ tail = tail' := by
  have lengths := Nat.le_antisymm (isCut.first _ _ isCut'.text) (isCut'.first _ _ isCut.text)
  have same := isCut.text.trans isCut'.text.symm
  rw [List.append_assoc, List.append_assoc] at same
  obtain ⟨heads, rests⟩ := List.append_inj same lengths
  exact ⟨heads, List.append_cancel_left rests⟩

theorem append_ne_of_after? {mark cs : List Char} (notHere : after? mark cs = none) (back : List Char) :
    mark ++ back ≠ cs := by
  intro isText
  have isAfter : after? mark cs = some back := List.isPrefixOf?_eq_some_iff_append_eq.mpr isText
  rw [isAfter] at notHere
  cases notHere

theorem isFirstCut_of_cutAt {mark cs head tail : List Char} (isCut : cutAt mark cs = some (head, tail)) :
    IsFirstCut mark cs head tail := by
  induction cs generalizing head with
  | nil =>
    obtain ⟨isEmpty, same⟩ := Option.ite_none_right_eq_some.mp isCut
    cases same
    exact ⟨by simpa using isEmpty, by simp⟩
  | cons c cs ih =>
    rw [cutAt] at isCut
    split at isCut
    · next rest isAfter =>
      cases isCut
      exact ⟨List.isPrefixOf?_eq_some_iff_append_eq.mp isAfter, by simp⟩
    · next notHere =>
      obtain ⟨⟨first, last⟩, isCut, isPair⟩ := Option.map_eq_some_iff.mp isCut
      cases isPair
      have later := ih isCut
      refine ⟨by rw [← later.text]; rfl, fun front back isText => ?_⟩
      cases front with
      | nil => exact absurd isText (append_ne_of_after? notHere back)
      | cons d ds => exact Nat.succ_le_succ (later.first ds back (List.cons.inj isText).2)

theorem ne_of_cutAt_eq_none {mark cs : List Char} (uncut : cutAt mark cs = none) (front back : List Char) :
    front ++ mark ++ back ≠ cs := by
  induction cs generalizing front with
  | nil =>
    intro isText
    simp_all [cutAt]
  | cons c cs ih =>
    rw [cutAt] at uncut
    split at uncut
    · cases uncut
    · next notHere =>
      cases front with
      | nil => exact append_ne_of_after? notHere back
      | cons d ds =>
        intro isText
        exact ih (Option.map_eq_none_iff.mp uncut) ds (List.cons.inj isText).2

/-- **A text is cut where a mark first stands.** -/
theorem cutAt_eq_some_iff {mark cs head tail : List Char} :
    cutAt mark cs = some (head, tail) ↔ IsFirstCut mark cs head tail := by
  refine ⟨isFirstCut_of_cutAt, fun isCut => ?_⟩
  cases found : cutAt mark cs with
  | none => exact absurd isCut.text (ne_of_cutAt_eq_none found head tail)
  | some cut =>
    obtain ⟨rfl, rfl⟩ := isCut.unique (isFirstCut_of_cutAt found)
    rfl

/-- What stands behind a mark is the end of the text. -/
theorem suffix_of_cutAt {mark cs head tail : List Char} (isCut : cutAt mark cs = some (head, tail)) : tail <:+ cs :=
  ⟨head ++ mark, (cutAt_eq_some_iff.mp isCut).text⟩

/-- What stands behind a mark is the last piece of a text when no character of the mark is in it. -/
theorem afterLastMark_append {mark tail : List Char} (front : List Char) (nonEmpty : mark ≠ [])
    (unmarked : ∀ c ∈ mark, c ∉ tail) : afterLastMark mark (front ++ mark ++ tail) = tail := by
  have isCut : IsFirstCut mark.reverse (front ++ mark ++ tail).reverse tail.reverse front.reverse := by
    refine ⟨by simp, fun first back isText => ?_⟩
    simp only [List.reverse_append, List.append_assoc] at isText
    rcases List.append_eq_append_iff.mp isText with ⟨between, same, rest⟩ | ⟨between, same, rest⟩
    · -- the mark would start inside of the tail
      cases between with
      | nil => simp [same]
      | cons c others =>
        obtain ⟨d, ds, isMark⟩ := List.exists_cons_of_ne_nil (List.reverse_ne_nil_iff.mpr nonEmpty)
        rw [isMark] at rest
        have isFirst : d = c := (List.cons.inj rest).1
        have inMark : c ∈ mark := List.mem_reverse.mp (isMark ▸ isFirst ▸ List.mem_cons_self)
        have inTail : c ∈ tail := List.mem_reverse.mp (same ▸ List.mem_append_right _ List.mem_cons_self)
        exact absurd inTail (unmarked c inMark)
    · simp [same]
  rw [afterLastMark, cutAt_eq_some_iff.mpr isCut]
  exact List.reverse_reverse tail

theorem afterLastMark_of_notMem {mark cs : List Char} {c : Char} (inMark : c ∈ mark) (absent : c ∉ cs) :
    afterLastMark mark cs = cs := by
  unfold afterLastMark
  split
  · next tail rest isCut =>
    have isText := (cutAt_eq_some_iff.mp isCut).text
    have isThere : c ∈ cs.reverse := by
      rw [← isText]
      simp [inMark]
    exact absurd (List.mem_reverse.mp isThere) absent
  · rfl

theorem cutAtLast_eq_some {head tail : List Char} (cut : cutAtLast p cs = some (head, tail)) :
    ∃ mark, p mark = true ∧ cs = head ++ mark :: tail := by
  unfold cutAtLast at cut
  rw [List.span_eq_takeWhile_dropWhile] at cut
  split at cut
  · cases cut
  · next before mark after isSplit =>
    obtain ⟨isTail, isRest⟩ := Prod.mk.inj isSplit
    cases cut
    refine ⟨mark, ?_, ?_⟩
    · have first := List.head?_dropWhile_not (fun c => !p c) cs.reverse
      simpa [isRest] using first
    · have whole := List.takeWhile_append_dropWhile (p := fun c => !p c) (l := cs.reverse)
      rw [isTail, isRest] at whole
      simpa using (congrArg List.reverse whole).symm

/-! ## Pairs that give way -/

theorem replacePair_cons_of_ne {c : Char} (differs : c ≠ a) (cs : List Char) :
    replacePair a b sub (c :: cs) = c :: replacePair a b sub cs := by
  cases cs with
  | nil => rfl
  | cons d ds => rw [replacePair, if_neg fun isPair => differs isPair.1]

theorem replacePair_cons_of_next {c d : Char} (differs : d ≠ b) (cs : List Char) :
    replacePair a b sub (c :: d :: cs) = c :: replacePair a b sub (d :: cs) := by
  rw [replacePair, if_neg fun isPair => differs isPair.2]

theorem replacePair_of_notMem (absent : a ∉ cs) : replacePair a b sub cs = cs := by
  induction cs with
  | nil => rfl
  | cons c cs ih =>
    obtain ⟨differs, absent⟩ := List.ne_and_not_mem_of_not_mem_cons absent
    rw [replacePair_cons_of_ne differs.symm, ih absent]

/-- A text without the second character of a pair has no place for it either. -/
theorem replacePair_of_notMem_next (absent : b ∉ cs) : replacePair a b sub cs = cs := by
  induction cs with
  | nil => rfl
  | cons c cs ih =>
    have others := ih fun member => absent (List.mem_cons_of_mem c member)
    cases cs with
    | nil => rfl
    | cons d ds =>
      have differs : d ≠ b := fun same => absent (by simp [same])
      rw [replacePair_cons_of_next differs, others]

/-- The first place of a pair gives way, and reading goes on behind it. -/
theorem replacePair_append {front : List Char} (absent : a ∉ front) (back : List Char) :
    replacePair a b sub (front ++ a :: b :: back) = front ++ sub ++ replacePair a b sub back := by
  induction front with
  | nil => simp [replacePair]
  | cons c cs ih =>
    obtain ⟨differs, absent⟩ := List.ne_and_not_mem_of_not_mem_cons absent
    rw [List.cons_append, replacePair_cons_of_ne differs.symm, ih absent]
    rfl

/-- What is put in and what the text had are all that is left. -/
theorem mem_of_mem_replacePair {c : Char} (member : c ∈ replacePair a b sub cs) : c ∈ sub ∨ c ∈ cs := by
  fun_induction replacePair a b sub cs with
  | case1 x y rest isPair ih =>
    rcases List.mem_append.mp member with put | later
    · exact .inl put
    · exact (ih later).imp_right fun isRest => by simp [isRest]
  | case2 x y rest notPair ih =>
    rcases List.mem_cons.mp member with rfl | later
    · exact .inr List.mem_cons_self
    · exact (ih later).imp_right (List.mem_cons_of_mem x)
  | case3 rest _ => exact .inr member

end WorkflowAtlas.Text
