/-!
# Cutting text at marks

Operations on `List Char`, the view of a text that the library reasons about: where a mark first
stands, what lies before and after it, the pieces between marks, and the replacement of a two
character mark from left to right. Every operation is structural, so its laws are one induction.
-/

namespace WorkflowAtlas.Text

/-- The pieces between the characters of a class; a text without one is a single piece. -/
def pieces (p : Char → Bool) : List Char → List (List Char)
  | [] => [[]]
  | c :: cs =>
    if p c then [] :: pieces p cs
    else
      match pieces p cs with
      | [] => [[c]]
      | w :: ws => (c :: w) :: ws

/-- The piece after the last character of a class, the whole text when there is none. -/
def lastPiece (p : Char → Bool) (cs : List Char) : List Char :=
  (cs.reverse.takeWhile fun c => !p c).reverse

/-- What follows `mark` at the front of the text, if it stands there. -/
def after? (mark : List Char) (cs : List Char) : Option (List Char) :=
  mark.isPrefixOf? cs

/-- What comes before `mark` at the end of the text, if it stands there. -/
def before? (mark : List Char) (cs : List Char) : Option (List Char) :=
  (mark.reverse.isPrefixOf? cs.reverse).map List.reverse

/-- The texts before and after the first place where `mark` stands. -/
def cutAt (mark : List Char) : List Char → Option (List Char × List Char)
  | [] => if mark.isEmpty then some ([], []) else none
  | c :: cs =>
    match after? mark (c :: cs) with
    | some rest => some ([], rest)
    | none => (cutAt mark cs).map fun (head, tail) => (c :: head, tail)

/-- The texts before and after the last character of a class. -/
def cutAtLast (p : Char → Bool) (cs : List Char) : Option (List Char × List Char) :=
  match cs.reverse.span fun c => !p c with
  | (_, []) => none
  | (tail, _ :: head) => some (head.reverse, tail.reverse)

/-- The text after the last place where `mark` stands, the whole text when it stands nowhere. -/
def afterLastMark (mark cs : List Char) : List Char :=
  match cutAt mark.reverse cs.reverse with
  | some (tail, _) => tail.reverse
  | none => cs

/-- Whether `mark` stands somewhere in the text. -/
def hasMark (mark : List Char) (cs : List Char) : Bool :=
  (cutAt mark cs).isSome

/-- Every place where `a` and then `b` stand gives way to `sub`, read once from left to right: the
text put in is not read again. -/
def replacePair (a b : Char) (sub : List Char) : List Char → List Char
  | x :: y :: r =>
    if x = a ∧ y = b then sub ++ replacePair a b sub r else x :: replacePair a b sub (y :: r)
  | r => r

/-- One text from pieces, with `mark` between them. -/
def joinWith (mark : List Char) : List (List Char) → List Char
  | [] => []
  | [w] => w
  | w :: ws => w ++ mark ++ joinWith mark ws

/-- Whether a text starts with another. -/
def startsWith (s mark : String) : Bool :=
  mark.toList.isPrefixOf s.toList

/-- Whether a text ends with another. -/
def endsWith (s mark : String) : Bool :=
  mark.toList.isSuffixOf s.toList

end WorkflowAtlas.Text
