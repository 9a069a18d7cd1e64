import WorkflowAtlas.Text.Blank
import WorkflowAtlas.Text.Word
import WorkflowAtlas.Text.Casing

/-!
# Sets of characters

A **character set** is kept as it is written in a pattern, and membership is read off its form. So a
set closed under letter case is tested by the variants of the character, and no set is ever listed.
-/

namespace WorkflowAtlas

/-- **A set of characters.** -/
inductive CharSet where
  | empty
  /-- The characters from `first` to `last`. -/
  | range (first last : Char)
  /-- Word characters of any script. -/
  | word
  /-- Decimal digits of any script. -/
  | digit
  /-- Blanks. -/
  | blank
  | union (a b : CharSet)
  | inter (a b : CharSet)
  | minus (a b : CharSet)
  | other (a : CharSet)
  /-- The case variants of the characters of a set. -/
  | anyCase (a : CharSet)
  deriving DecidableEq, Repr, Inhabited

namespace CharSet

/-- **Membership.** -/
def contains : CharSet → Char → Bool
  | .empty, _ => false
  | .range first last, c => first ≤ c && c ≤ last
  | .word, c => Text.isWordChar c
  | .digit, c => Text.isDecimalDigit c
  | .blank, c => Text.isBlank c
  | .union a b, c => a.contains c || b.contains c
  | .inter a b, c => a.contains c && b.contains c
  | .minus a b, c => a.contains c && !b.contains c
  | .other a, c => !a.contains c
  | .anyCase a, c => (Text.caseVariants c).any a.contains

/-- The set of one character. -/
def single (c : Char) : CharSet :=
  .range c c

/-- The set of the characters in a list of ranges. -/
def ofRanges (ranges : List (Char × Char)) : CharSet :=
  ranges.foldr (fun (first, last) rest => .union (.range first last) rest) .empty

/-- The ASCII letters, digits and `_`. -/
def asciiWord : CharSet :=
  ofRanges [('a', 'z'), ('A', 'Z'), ('0', '9'), ('_', '_')]

def asciiDigit : CharSet :=
  .range '0' '9'

def asciiBlank : CharSet :=
  ofRanges [('\t', '\r'), (' ', ' ')]

/-- Every character. -/
def all : CharSet :=
  .other .empty

end CharSet

end WorkflowAtlas
