/-!
# Binary floating-point numbers

The finite numbers of the 64-bit binary format as exact values `mantissa * 2 ^ exponent`, and the
operations on them that reading a decimal needs. Every operation computes the exact rational
result and rounds it once, to the nearest number and a tie to the even mantissa.
-/

namespace ModelHub

/-- A finite number of the 64-bit format. The mantissa lies below `2 ^ 53`, and below `2 ^ 52`
only at the least exponent. -/
structure Binary64 where
  negative : Bool
  mantissa : Nat
  exponent : Int
  deriving DecidableEq, Repr

namespace Binary64

def leastExponent : Int := -1074

def greatestExponent : Int := 971

def leastFull : Nat := Nat.pow 2 52

def zero (negative : Bool) : Binary64 := ⟨negative, 0, leastExponent⟩

/-- Two to the power of an integer, as numerator and denominator. -/
def powerOfTwo (exponent : Int) : Nat × Nat :=
  if 0 ≤ exponent then (Nat.pow 2 exponent.toNat, 1) else (1, Nat.pow 2 (-exponent).toNat)

/-- The quotient rounded to the nearest natural number, a tie to the even one. -/
def roundQuotient (numerator denominator : Nat) : Nat :=
  let quotient := numerator / denominator
  let twice := 2 * (numerator % denominator)
  if twice < denominator then quotient
  else if denominator < twice then quotient + 1
  else if quotient % 2 = 0 then quotient else quotient + 1

/-- The exponent at which a positive quotient has a 53-bit mantissa, or the least exponent when
that one is larger. -/
def exponentOf (numerator denominator : Nat) : Int :=
  let estimate : Int := (Nat.log2 numerator : Int) - (Nat.log2 denominator : Int) - 52
  let power := powerOfTwo estimate
  let exact :=
    if numerator * power.2 < leastFull * (denominator * power.1) then estimate - 1 else estimate
  max leastExponent exact

/-- The number nearest to a quotient, or none when it is too large for the format. -/
def nearest? (negative : Bool) (numerator denominator : Nat) : Option Binary64 :=
  if numerator = 0 then some (zero negative)
  else
    let exponent := exponentOf numerator denominator
    let power := powerOfTwo exponent
    let mantissa := roundQuotient (numerator * power.2) (denominator * power.1)
    let result : Binary64 :=
      if mantissa = 2 * leastFull then ⟨negative, leastFull, exponent + 1⟩
      else ⟨negative, mantissa, exponent⟩
    if greatestExponent < result.exponent then none else some result

def magnitude (number : Binary64) : Nat × Nat :=
  let power := powerOfTwo number.exponent
  (number.mantissa * power.1, power.2)

def multiply? (left right : Binary64) : Option Binary64 :=
  let leftValue := left.magnitude
  let rightValue := right.magnitude
  nearest? left.negative (leftValue.1 * rightValue.1) (leftValue.2 * rightValue.2)

/-- The quotient of two magnitudes, rounded; the divisor is not zero. -/
def divide? (left right : Binary64) : Option Binary64 :=
  let leftValue := left.magnitude
  let rightValue := right.magnitude
  nearest? left.negative (leftValue.1 * rightValue.2) (leftValue.2 * rightValue.1)

def powerOfTen? (exponent : Nat) : Option Binary64 :=
  nearest? false (Nat.pow 10 exponent) 1

def greatestTen : Nat := 308

/-- Divides a number by the greatest power of ten a given number of times; zero stays as it
is. -/
def scaleDownWhole (number : Binary64) : Nat → Option Binary64
  | 0 => some number
  | count + 1 =>
    if number.mantissa = 0 then some number
    else
      match (powerOfTen? greatestTen).bind number.divide? with
      | none => none
      | some scaled => scaleDownWhole scaled count

/-- Scales a number down by a power of ten, by the greatest one as long as more is left. -/
def scaleDown (number : Binary64) (exponent : Nat) : Option Binary64 :=
  let whole := (exponent - 1) / greatestTen
  match scaleDownWhole number whole with
  | none => none
  | some scaled => (powerOfTen? (exponent - whole * greatestTen)).bind scaled.divide?

/-- The number read from a decimal `significand * 10 ^ exponent`: the significand is rounded first
and then scaled by rounded powers of ten. There is none when the result is too large. -/
def ofDecimal? (negative : Bool) (significand : Nat) (exponent : Int) : Option Binary64 :=
  match nearest? negative significand 1 with
  | none => none
  | some number =>
    if exponent < 0 then scaleDown number (-exponent).toNat
    else if exponent ≤ (greatestTen : Int) then
      (powerOfTen? exponent.toNat).bind number.multiply?
    else if number.mantissa = 0 then some number
    else none

end Binary64

end ModelHub
