import ModelHub.Decimal.Binary64

/-!
# Shortest decimals

The shortest decimal of a number is the one with the fewest digits that reads back as the number,
and of several such the nearest. A grid of decimals is tried for one digit, then two, and so on;
on each grid only the two neighbours of the number can read back.
-/

namespace ModelHub.Decimal

/-- A positive decimal `digits * 10 ^ exponent`. -/
structure Scaled where
  digits : Nat
  exponent : Int
  deriving DecidableEq, Repr

/-- Ten to the power of an integer, as numerator and denominator. -/
def powerOfTen (exponent : Int) : Nat × Nat :=
  if 0 ≤ exponent then (Nat.pow 10 exponent.toNat, 1) else (1, Nat.pow 10 (-exponent).toNat)

/-- The reals that round to a number: four times its mantissa and four times the two bounds, all
in units of a quarter of its last place. The bounds belong to the interval exactly when the
mantissa is even. -/
structure Interval where
  lower : Nat
  value : Nat
  upper : Nat
  closed : Bool

/-- The interval of a positive number. Below a power of two the gap is half as wide. -/
def Interval.of (number : Binary64) : Interval :=
  let narrow :=
    decide (number.mantissa = Binary64.leastFull) &&
      decide (Binary64.leastExponent < number.exponent)
  { lower := 4 * number.mantissa - (if narrow then 1 else 2)
    value := 4 * number.mantissa
    upper := 4 * number.mantissa + 2
    closed := number.mantissa % 2 = 0 }

/-- The two sides of a comparison between a decimal and a count of quarter units, over a common
denominator. -/
def commonScale (decimal : Scaled) (exponent : Int) (quarters : Nat) : Nat × Nat :=
  let ten := powerOfTen decimal.exponent
  let two := Binary64.powerOfTwo (exponent - 2)
  (decimal.digits * ten.1 * two.2, quarters * two.1 * ten.2)

/-- A decimal reads back as the number when it lies in the number's interval. -/
def readsBack (number : Binary64) (decimal : Scaled) : Bool :=
  let interval := Interval.of number
  let low := commonScale decimal number.exponent interval.lower
  let high := commonScale decimal number.exponent interval.upper
  if interval.closed then decide (low.2 ≤ low.1) && decide (high.1 ≤ high.2)
  else decide (low.2 < low.1) && decide (high.1 < high.2)

/-- The distance of a decimal from the number, over the common denominator of its grid. -/
def distance (number : Binary64) (decimal : Scaled) : Nat :=
  let sides := commonScale decimal number.exponent (4 * number.mantissa)
  (sides.1 - sides.2) + (sides.2 - sides.1)

/-- The exponent of ten of a positive quotient: the position of its first digit. It is searched
upwards from an estimate that is never too large. -/
def firstDigitFrom (numerator denominator : Nat) : Nat → Int → Int
  | 0, estimate => estimate
  | fuel + 1, estimate =>
    let next := powerOfTen (estimate + 1)
    if denominator * next.1 ≤ numerator * next.2 then
      firstDigitFrom numerator denominator fuel (estimate + 1)
    else estimate

/-- The position of the first decimal digit of a positive number. -/
def firstDigit (number : Binary64) : Int :=
  let value := number.magnitude
  let bits : Int := (Nat.log2 value.1 : Int) - (Nat.log2 value.2 : Int) - 1
  firstDigitFrom value.1 value.2 8 (bits * 30103 / 100000 - 2)

/-- The neighbours of a number on the grid of decimals with a given last place. -/
def neighbours (number : Binary64) (place : Int) : Scaled × Scaled :=
  let value := number.magnitude
  let ten := powerOfTen place
  let below := value.1 * ten.2 / (value.2 * ten.1)
  (⟨below, place⟩, ⟨below + 1, place⟩)

/-- The shortest decimal of a positive number, tried from a number of digits on. -/
def shortestFrom (number : Binary64) (first : Int) : Nat → Nat → Scaled
  | 0, count => (neighbours number (first + 1 - count)).1
  | fuel + 1, count =>
    let pair := neighbours number (first + 1 - count)
    match readsBack number pair.1, readsBack number pair.2 with
    | true, true =>
      let nearer := decide (distance number pair.1 < distance number pair.2)
      let tie := decide (distance number pair.1 = distance number pair.2)
      if nearer || (tie && pair.1.digits % 2 = 0) then pair.1 else pair.2
    | true, false => pair.1
    | false, true => pair.2
    | false, false => shortestFrom number first fuel (count + 1)

/-- Seventeen digits are always enough. -/
def digitLimit : Nat := 17

def shortest (number : Binary64) : Scaled :=
  shortestFrom number (firstDigit number) digitLimit 1

end ModelHub.Decimal
