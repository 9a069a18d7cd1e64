/-!
# Blanks

A **blank** is a character with the Unicode property White_Space: 25 code points, more than the
four or six that ASCII text has. Words are the maximal runs without a blank. Everything that trims,
collapses or drops white space in this library reads it through `isBlank`, so that source text in
any script is cut at the same places.
-/

namespace WorkflowAtlas.Text

/-- **A blank**: a character with the Unicode property White_Space. -/
def isBlank (c : Char) : Bool :=
  let n := c.toNat
  (9 ≤ n && n ≤ 13) || n == 0x20 || n == 0x85 || n == 0xA0 || n == 0x1680 ||
    (0x2000 ≤ n && n ≤ 0x200A) || n == 0x2028 || n == 0x2029 || n == 0x202F || n == 0x205F || n == 0x3000

/-- The text without the characters of a class at its end. -/
def dropEndWhile (p : Char → Bool) (cs : List Char) : List Char :=
  (cs.reverse.dropWhile p).reverse

/-- The text without blanks at its two ends. -/
def trimChars (cs : List Char) : List Char :=
  dropEndWhile isBlank (cs.dropWhile isBlank)

/-- Whether a text holds nothing but blanks. -/
def isAllBlank (s : String) : Bool :=
  s.toList.all isBlank

/-- The words of a text, with `current` the reversed word that the text goes on with. -/
def wordsFrom (current : List Char) : List Char → List (List Char)
  | [] => if current.isEmpty then [] else [current.reverse]
  | c :: cs =>
    if isBlank c then
      if current.isEmpty then wordsFrom [] cs else current.reverse :: wordsFrom [] cs
    else
      wordsFrom (c :: current) cs

/-- The maximal runs without a blank, in order. -/
def words (s : String) : List String :=
  (wordsFrom [] s.toList).map String.ofList

/-- The words of a text with one space between them. -/
def collapse (s : String) : String :=
  " ".intercalate (words s)

end WorkflowAtlas.Text
