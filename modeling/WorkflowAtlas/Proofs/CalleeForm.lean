import Mathlib.Data.List.DropRight
import WorkflowAtlas.Callee
import WorkflowAtlas.Proofs.TextCuts

/-!
# Normal spellings of callees

The dots of a callee cut it into **segments**. Optional chaining leaves `?` and `!` at the end of a segment, and the
normal spelling is to leave these **marks** out. Each of the two passes takes one mark off the end of every segment that
a dot follows, and no pass is made twice (`linked_foldOnce`): of `a??.b` one mark stays, and so it does of `a?!.b`, since
the pass over `?` is over when the `!` behind it goes.

**The law** (`normalize_folds`): a normal spelling has no blank. It has no mark in front of a dot, is its own normal
spelling, and is the text without its marks, exactly where all marks in front of a dot are taken off by one pass each:
where they are `?`, `!` or `!?`, or none.
-/

namespace WorkflowAtlas.Callee

open WorkflowAtlas.Text

variable {cs w : List Char}

/-! ## Segments -/

/-- **The segments of a text that a dot follows.** -/
def linked (cs : List Char) : List (List Char) :=
  (pieces (· == '.') cs).dropLast

/-- The segment behind the last dot. -/
def lastSegment (cs : List Char) : List Char :=
  lastPiece (· == '.') cs

theorem pieces_eq_linked (cs : List Char) : pieces (· == '.') cs = linked cs ++ [lastSegment cs] :=
  (List.dropLast_append_getLast? _ (getLast?_pieces cs)).symm

/-- A text is told by its segments. -/
theorem eq_of_segments {first second : List Char} (sameLinked : linked first = linked second)
    (sameLast : lastSegment first = lastSegment second) : first = second := by
  have samePieces : pieces (· == '.') first = pieces (· == '.') second := by
    rw [pieces_eq_linked, pieces_eq_linked, sameLinked, sameLast]
  exact pieces_injective samePieces

theorem pieces_of_undotted (undotted : '.' ∉ w) : pieces (· == '.') w = [w] :=
  pieces_of_unmarked fun _ isChar => beq_eq_false_iff_ne.mpr fun isDot => undotted (isDot ▸ isChar)

theorem linked_of_undotted (undotted : '.' ∉ w) : linked w = [] := by
  rw [linked, pieces_of_undotted undotted, List.dropLast_singleton]

/-- A dot ends a segment. -/
theorem linked_append (front back : List Char) :
    linked (front ++ '.' :: back) = pieces (· == '.') front ++ linked back := by
  rw [linked, pieces_append_mark (by rfl), List.dropLast_append_of_ne_nil (pieces_ne_nil back), linked]

theorem linked_segment (undotted : '.' ∉ w) (rest : List Char) : linked (w ++ '.' :: rest) = w :: linked rest := by
  rw [linked_append, pieces_of_undotted undotted, List.singleton_append]

theorem lastSegment_append (front back : List Char) : lastSegment (front ++ '.' :: back) = lastSegment back := by
  apply Option.some.inj
  rw [lastSegment, ← getLast?_pieces, pieces_append_mark (by rfl),
    List.getLast?_append_of_ne_nil _ (pieces_ne_nil back), getLast?_pieces, lastSegment]

/-- Induction over the segments of a text. -/
@[elab_as_elim]
theorem segment_induction {motive : List Char → Prop} (cs : List Char)
    (last : ∀ w, '.' ∉ w → motive w)
    (dot : ∀ w rest, '.' ∉ w → motive rest → motive (w ++ '.' :: rest)) : motive cs := by
  induction isLength : cs.length using Nat.strong_induction_on generalizing cs with
  | _ length ih =>
    by_cases isDotted : '.' ∈ cs
    · obtain ⟨w, rest, rfl, undotted⟩ := List.eq_append_cons_of_mem isDotted
      refine dot w rest undotted (ih rest.length ?_ rest rfl)
      rw [← isLength, List.length_append, List.length_cons]
      omega
    · exact last cs isDotted

theorem infix_of_mem_linked (isLinked : w ∈ linked cs) : w ++ ['.'] <:+: cs := by
  induction cs using segment_induction with
  | last v undotted =>
    rw [linked_of_undotted undotted] at isLinked
    cases isLinked
  | dot v rest undotted ih =>
    rw [linked_segment undotted] at isLinked
    rcases List.mem_cons.mp isLinked with rfl | later
    · exact ⟨[], rest, by simp⟩
    · exact (ih later).trans ⟨v ++ ['.'], [], by simp⟩

/-- **A character stands in front of a dot** where a segment ends in it. -/
theorem infix_dot_iff {q : Char} (notDot : q ≠ '.') : [q, '.'] <:+: cs ↔ ∃ w ∈ linked cs, w.getLast? = some q := by
  constructor
  · rintro ⟨front, back, rfl⟩
    have isText : front ++ [q, '.'] ++ back = (front ++ [q]) ++ '.' :: back := by simp
    refine ⟨lastSegment (front ++ [q]), ?_, by simp [lastSegment, lastPiece, notDot]⟩
    rw [isText, linked_append, pieces_eq_linked]
    simp
  · rintro ⟨w, isLinked, ends⟩
    obtain ⟨stem, rfl⟩ := List.getLast?_eq_some_iff.mp ends
    have isInside : [q, '.'] <:+: (stem ++ [q]) ++ ['.'] := ⟨stem, [], by simp⟩
    exact isInside.trans (infix_of_mem_linked isLinked)

/-! ## One pass -/

/-- A segment without one mark `q` at its end. -/
def dropMark (q : Char) (w : List Char) : List Char :=
  if w.getLast? = some q then w.dropLast else w

theorem dropMark_concat (q c : Char) (w : List Char) :
    dropMark q (w ++ [c]) = if c = q then w else w ++ [c] := by
  simp [dropMark]

theorem dropMark_cons_cons (q c d : Char) (w : List Char) : dropMark q (c :: d :: w) = c :: dropMark q (d :: w) := by
  simp only [dropMark, List.getLast?_cons_cons, List.dropLast_cons_cons]
  split <;> rfl

theorem dropMark_isPrefix (q : Char) (w : List Char) : dropMark q w <+: w := by
  unfold dropMark
  split
  · exact List.dropLast_prefix w
  · exact List.prefix_refl w

variable {q : Char}

/-- A pass takes one mark off a segment in front of a dot, and goes on behind the dot. -/
theorem replacePair_segment (notDot : q ≠ '.') (undotted : '.' ∉ w) (rest : List Char) :
    replacePair q '.' ['.'] (w ++ '.' :: rest) = dropMark q w ++ '.' :: replacePair q '.' ['.'] rest := by
  induction w with
  | nil => exact replacePair_cons_of_ne notDot.symm rest
  | cons c w ih =>
    have others := ih fun isDot => undotted (List.mem_cons_of_mem c isDot)
    cases w with
    | nil =>
      by_cases isMark : c = q
      · subst isMark
        simp [replacePair, dropMark]
      · rw [List.cons_append, replacePair_cons_of_ne isMark, others]
        simp [dropMark, isMark]
    | cons d ds =>
      have differs : d ≠ '.' := fun isDot => undotted (by simp [isDot])
      rw [List.cons_append, List.cons_append, replacePair_cons_of_next differs, dropMark_cons_cons, List.cons_append]
      exact congrArg (c :: ·) others

/-- **A pass takes one mark off every linked segment.** -/
theorem linked_replacePair (notDot : q ≠ '.') (cs : List Char) :
    linked (replacePair q '.' ['.'] cs) = (linked cs).map (dropMark q) := by
  induction cs using segment_induction with
  | last w undotted => rw [replacePair_of_notMem_next undotted, linked_of_undotted undotted, List.map_nil]
  | dot w rest undotted ih =>
    have stillUndotted : '.' ∉ dropMark q w := fun isDot => undotted ((dropMark_isPrefix q w).subset isDot)
    rw [replacePair_segment notDot undotted, linked_segment stillUndotted, linked_segment undotted, ih, List.map_cons]

/-- No pass changes the segment behind the last dot. -/
theorem lastSegment_replacePair (notDot : q ≠ '.') (cs : List Char) :
    lastSegment (replacePair q '.' ['.'] cs) = lastSegment cs := by
  induction cs using segment_induction with
  | last w undotted => rw [replacePair_of_notMem_next undotted]
  | dot w rest undotted ih => rw [replacePair_segment notDot undotted, lastSegment_append, lastSegment_append, ih]

/-! ## Marks -/

/-- A mark of optional chaining: `?`, or the `!` of a chain that asserts. -/
def isMark (c : Char) : Bool :=
  c == '?' || c == '!'

/-- The marks at the end of a segment. -/
def marks (w : List Char) : List Char :=
  w.rtakeWhile isMark

/-- What the two passes leave of a segment that a dot follows. -/
def peel (w : List Char) : List Char :=
  dropMark '!' (dropMark '?' w)

theorem marks_concat (w : List Char) (c : Char) : marks (w ++ [c]) = if isMark c then marks w ++ [c] else [] :=
  List.rtakeWhile_concat ..

theorem marks_eq_nil_iff : marks w = [] ↔ w.getLast? ≠ some '?' ∧ w.getLast? ≠ some '!' := by
  rcases w.eq_nil_or_concat' with rfl | ⟨v, c, rfl⟩
  · decide
  · simp [marks_concat, isMark]

theorem peel_concat_question (w : List Char) : peel (w ++ ['?']) = dropMark '!' w := by
  rw [peel, dropMark_concat, if_pos rfl]

theorem peel_concat_of_ne {c : Char} (notQuestion : c ≠ '?') (w : List Char) :
    peel (w ++ [c]) = if c = '!' then w else w ++ [c] := by
  rw [peel, dropMark_concat, if_neg notQuestion, dropMark_concat]

/-- The marks at the end of a segment that one pass each takes off. -/
def foldable : List (List Char) :=
  [[], ['?'], ['!'], ['!', '?']]

theorem concat_question_mem_foldable {front : List Char} : front ++ ['?'] ∈ foldable ↔ front = [] ∨ front = ['!'] := by
  rcases front with _ | ⟨c, _ | ⟨d, rest⟩⟩ <;> simp [foldable]

theorem concat_asserting_mem_foldable {front : List Char} : front ++ ['!'] ∈ foldable ↔ front = [] := by
  rcases front with _ | ⟨c, _ | ⟨d, rest⟩⟩ <;> simp [foldable]

/-- **The marks that two passes take off**: at most one `?`, and at most one `!` in front of it. -/
theorem marks_peel_eq_nil_iff (w : List Char) : marks (peel w) = [] ↔ marks w ∈ foldable := by
  rcases w.eq_nil_or_concat' with rfl | ⟨v, c, rfl⟩
  · decide
  · by_cases isQuestion : c = '?'
    · subst isQuestion
      rw [peel_concat_question, marks_concat, if_pos (by rfl), concat_question_mem_foldable]
      rcases v.eq_nil_or_concat' with rfl | ⟨u, d, rfl⟩
      · decide
      · -- the pass over `?` is over, so that of the marks in front only a `!` still goes
        rw [dropMark_concat]
        by_cases isAsserting : d = '!'
        · simp [isAsserting, marks_concat, isMark]
        · have notAsserting : marks (u ++ [d]) ≠ ['!'] := by
            rw [marks_concat]
            split
            · exact fun same => isAsserting (by simpa using congrArg List.getLast? same)
            · simp
          rw [if_neg isAsserting, or_iff_left notAsserting]
    · rw [peel_concat_of_ne isQuestion]
      by_cases isAsserting : c = '!'
      · subst isAsserting
        rw [if_pos rfl, marks_concat, if_pos (by rfl), concat_asserting_mem_foldable]
      · simp [isAsserting, isQuestion, marks_concat, isMark, foldable]

/-- Two passes leave a segment as it is where it ends in no mark. -/
theorem peel_eq_self_iff (w : List Char) : peel w = w ↔ marks w = [] := by
  rcases w.eq_nil_or_concat' with rfl | ⟨v, c, rfl⟩
  · decide
  · by_cases isQuestion : c = '?'
    · subst isQuestion
      have shorter : peel (v ++ ['?']) ≠ v ++ ['?'] := by
        rw [peel_concat_question]
        intro same
        have atMost := (dropMark_isPrefix '!' v).length_le
        rw [same, List.length_append, List.length_singleton] at atMost
        omega
      simp [shorter, marks_concat, isMark]
    · rw [peel_concat_of_ne isQuestion]
      by_cases isAsserting : c = '!' <;> simp [isAsserting, isQuestion, marks_concat, isMark]

theorem dropEndWhile_dropMark {q : Char} (marked : isMark q = true) (w : List Char) :
    dropEndWhile isMark (dropMark q w) = dropEndWhile isMark w := by
  unfold dropMark
  split
  · next ends =>
    obtain ⟨stem, rfl⟩ := List.getLast?_eq_some_iff.mp ends
    rw [List.dropLast_concat]
    exact (List.rdropWhile_concat_pos isMark stem q marked).symm
  · rfl

theorem dropEndWhile_peel (w : List Char) : dropEndWhile isMark (peel w) = dropEndWhile isMark w := by
  rw [peel, dropEndWhile_dropMark rfl, dropEndWhile_dropMark rfl]

theorem dropEndWhile_eq_self_iff (w : List Char) : dropEndWhile isMark w = w ↔ marks w = [] :=
  List.rdropWhile_eq_self_iff.trans List.rtakeWhile_eq_nil_iff.symm

/-- Two passes leave out all marks at the end of a segment where none is left. -/
theorem peel_eq_stem_iff (w : List Char) : peel w = dropEndWhile isMark w ↔ marks (peel w) = [] := by
  rw [← dropEndWhile_eq_self_iff, dropEndWhile_peel]
  exact eq_comm

/-! ## Normal spellings -/

/-- A text without its blanks. -/
def bare (text : String) : List Char :=
  text.toList.filter fun c => !isBlank c

/-- Both passes over a text. -/
def foldOnce (cs : List Char) : List Char :=
  replacePair '!' '.' ['.'] (replacePair '?' '.' ['.'] cs)

theorem toList_normalize (text : String) : (normalize text).toList = foldOnce (bare text) :=
  String.toList_ofList

theorem linked_foldOnce (cs : List Char) : linked (foldOnce cs) = (linked cs).map peel := by
  rw [foldOnce, linked_replacePair (by decide), linked_replacePair (by decide), List.map_map]
  rfl

theorem lastSegment_foldOnce (cs : List Char) : lastSegment (foldOnce cs) = lastSegment cs := by
  rw [foldOnce, lastSegment_replacePair (by decide), lastSegment_replacePair (by decide)]

theorem mem_of_mem_foldOnce {c : Char} (member : c ∈ foldOnce cs) : c = '.' ∨ c ∈ cs := by
  rcases mem_of_mem_replacePair member with put | before
  · exact .inl (List.mem_singleton.mp put)
  · exact (mem_of_mem_replacePair before).imp_left List.mem_singleton.mp

/-- A normal spelling has no blank. -/
theorem isBlank_of_mem_normalize {text : String} {c : Char} (member : c ∈ (normalize text).toList) :
    isBlank c = false := by
  rw [toList_normalize] at member
  rcases mem_of_mem_foldOnce member with rfl | isBare
  · decide
  · simpa using (List.mem_filter.mp isBare).2

theorem bare_normalize (text : String) : bare (normalize text) = (normalize text).toList :=
  List.filter_eq_self.mpr fun _ member => by rw [isBlank_of_mem_normalize member, Bool.not_false]

/-- Both passes leave a text as it is where no linked segment ends in a mark. -/
theorem foldOnce_eq_self_iff (cs : List Char) : foldOnce cs = cs ↔ ∀ w ∈ linked cs, marks w = [] := by
  have keeps : foldOnce cs = cs ↔ (linked cs).map peel = (linked cs).map id := by
    rw [← linked_foldOnce, List.map_id]
    exact ⟨congrArg linked, fun same => eq_of_segments same (lastSegment_foldOnce cs)⟩
  rw [keeps, List.map_inj_left]
  simp only [id_eq, peel_eq_self_iff]

/-- **A folded text**: no mark of optional chaining stands in front of a dot. -/
structure IsFolded (cs : List Char) : Prop where
  noQuestion : ¬ ['?', '.'] <:+: cs
  noAsserting : ¬ ['!', '.'] <:+: cs

instance (cs : List Char) : Decidable (IsFolded cs) :=
  decidable_of_iff (¬ ['?', '.'] <:+: cs ∧ ¬ ['!', '.'] <:+: cs)
    ⟨fun ⟨noQuestion, noAsserting⟩ => ⟨noQuestion, noAsserting⟩,
      fun isFolded => ⟨isFolded.noQuestion, isFolded.noAsserting⟩⟩

theorem isFolded_iff (cs : List Char) : IsFolded cs ↔ ∀ w ∈ linked cs, marks w = [] := by
  constructor
  · intro isFolded w isLinked
    rw [marks_eq_nil_iff]
    exact ⟨fun ends => isFolded.noQuestion ((infix_dot_iff (by decide)).mpr ⟨w, isLinked, ends⟩),
      fun ends => isFolded.noAsserting ((infix_dot_iff (by decide)).mpr ⟨w, isLinked, ends⟩)⟩
  · intro unmarked
    constructor
    · intro isInside
      obtain ⟨w, isLinked, ends⟩ := (infix_dot_iff (by decide)).mp isInside
      exact (marks_eq_nil_iff.mp (unmarked w isLinked)).1 ends
    · intro isInside
      obtain ⟨w, isLinked, ends⟩ := (infix_dot_iff (by decide)).mp isInside
      exact (marks_eq_nil_iff.mp (unmarked w isLinked)).2 ends

/-- **A text without the marks in front of its dots**, and else as it was. -/
structure LeavesOutMarks (cs left : List Char) : Prop where
  linked : linked left = (linked cs).map (dropEndWhile isMark)
  last : lastSegment left = lastSegment cs

theorem leavesOutMarks_foldOnce_iff (cs : List Char) :
    LeavesOutMarks cs (foldOnce cs) ↔ ∀ w ∈ linked cs, marks (peel w) = [] := by
  simp only [← peel_eq_stem_iff, ← List.map_inj_left, ← linked_foldOnce]
  exact ⟨LeavesOutMarks.linked, fun isLinked => ⟨isLinked, lastSegment_foldOnce cs⟩⟩

/-- **The marks in front of every dot of a callee are folded by one pass each.** -/
def IsFoldable (text : String) : Prop :=
  ∀ w ∈ linked (bare text), marks w ∈ foldable

instance (text : String) : Decidable (IsFoldable text) :=
  inferInstanceAs (Decidable (∀ w ∈ linked (bare text), marks w ∈ foldable))

theorem unmarked_peel_iff (text : String) : (∀ w ∈ linked (bare text), marks (peel w) = []) ↔ IsFoldable text := by
  simp only [marks_peel_eq_nil_iff, IsFoldable]

theorem unmarked_normalize_iff (text : String) :
    (∀ w ∈ linked (normalize text).toList, marks w = []) ↔ IsFoldable text := by
  rw [toList_normalize, linked_foldOnce, List.forall_mem_map, unmarked_peel_iff]

/-- **Normal spellings of callees** never have a blank. They have no mark in front of a dot, are their own normal
spelling, and are the text without its marks, in each case exactly where one pass each folds these. -/
theorem normalize_folds (text : String) :
    (∀ c ∈ (normalize text).toList, isBlank c = false) ∧
    (IsFolded (normalize text).toList ↔ IsFoldable text) ∧
    (normalize (normalize text) = normalize text ↔ IsFoldable text) ∧
    (LeavesOutMarks (bare text) (normalize text).toList ↔ IsFoldable text) := by
  refine ⟨fun _ => isBlank_of_mem_normalize, ?_, ?_, ?_⟩
  · rw [isFolded_iff, unmarked_normalize_iff]
  · rw [← String.toList_inj, toList_normalize (normalize text), bare_normalize, foldOnce_eq_self_iff,
      unmarked_normalize_iff]
  · rw [toList_normalize, leavesOutMarks_foldOnce_iff, unmarked_peel_iff]

/-- Of two marks in front of a dot one is left: a pass is not made again, nor the first one after the second. -/
theorem marks_left :
    (¬ IsFolded (normalize "task.await??.send").toList ∧
      normalize (normalize "task.await??.send") ≠ normalize "task.await??.send") ∧
    (normalize "client!!.chat" = "client!.chat" ∧ normalize "client!.chat" = "client.chat") ∧
    normalize "client?!.chat" = "client?.chat" ∧ normalize "client?.chat" = "client.chat" := by
  decide +kernel

end WorkflowAtlas.Callee
