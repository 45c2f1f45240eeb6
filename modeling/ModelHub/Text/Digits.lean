/-!
# Digits

The values of digits and of rows of them, most significant digit first.
-/

namespace ModelHub.Text

def digitValue (digit : Char) : Nat := digit.toNat - 48

def ofDigits (digits : List Char) : Nat :=
  digits.foldl (fun value digit => 10 * value + digitValue digit) 0

def hexValue? (digit : Char) : Option Nat :=
  if digit.isDigit then some (digitValue digit)
  else if 'a' ≤ digit ∧ digit ≤ 'f' then some (digit.toNat - 87)
  else if 'A' ≤ digit ∧ digit ≤ 'F' then some (digit.toNat - 55)
  else none

def digitInBase? (base : Nat) (digit : Char) : Option Nat :=
  (hexValue? digit).filter fun value => decide (value < base)

/-- The number that digits denote in a base, if all of them are digits of it. -/
def numberInBase? (base : Nat) (digits : List Char) : Option Nat :=
  digits.foldl
    (fun value digit => value.bind fun value => (digitInBase? base digit).map (value * base + ·))
    (some 0)

end ModelHub.Text
