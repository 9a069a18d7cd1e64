/-!
# Digits

Numbers as digits spell them, and the largest number that a double holds.
-/

namespace WorkflowAtlas.Text

/-- The number of values of 32 bits. -/
def bound32 : Nat := 4294967296

/-- The number of values of 64 bits. -/
def bound64 : Nat := 18446744073709551616

/-- Whether a character is one of the ten decimal digits of ASCII. -/
def isDigit (c : Char) : Bool := '0' ≤ c && c ≤ '9'

/-- The number that decimal digits spell. -/
def ofDigits (digits : List Char) : Nat :=
  digits.foldl (fun n c => n * 10 + (c.toNat - 48)) 0

/-- The value of a hexadecimal digit. -/
def hexValue? (c : Char) : Option Nat :=
  if '0' ≤ c ∧ c ≤ '9' then some (c.toNat - 48)
  else if 'a' ≤ c ∧ c ≤ 'f' then some (c.toNat - 87)
  else if 'A' ≤ c ∧ c ≤ 'F' then some (c.toNat - 55)
  else none

/-- The value of a digit in a base of at most sixteen. -/
def digitValue? (base : Nat) (c : Char) : Option Nat :=
  (hexValue? c).filter (· < base)

/-- The number that digits of a base spell; none when one of the characters is no digit. -/
def ofBase? (base : Nat) (digits : List Char) : Option Nat :=
  digits.foldlM (fun n c => (digitValue? base c).map (n * base + ·)) 0

/-- The character that hexadecimal digits number; half of a surrogate pair is none. -/
def hexChar? (digits : List Char) : Option Char := do
  let n ← ofBase? 16 digits
  if n.isValidChar then some (Char.ofNat n) else none

/-- The least number that rounds to infinity as a double. -/
def vastBound : Nat := Nat.pow 2 1024 - Nat.pow 2 970

/-- Whether `digits` times ten to the power `up - down` is beyond the range of a double. -/
def isVast (digits : Nat) (up down : Nat) : Bool :=
  if digits = 0 then false
  else if up > down + 400 then true
  else
    let size := (Nat.repr digits).length
    if size + up > down + 400 then true
    else if size + up < down + 300 then false
    else digits * Nat.pow 10 up ≥ vastBound * Nat.pow 10 down

end WorkflowAtlas.Text
