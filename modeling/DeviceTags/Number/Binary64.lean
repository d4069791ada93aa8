/-!
# Binary floating point numbers

Double precision numbers as exact dyadic rationals: a sign, a significand below `2 ^ 53` and a binary
exponent. A decimal numeral is read as the nearest such number, a tie going to the even significand,
all in exact integer arithmetic.
-/

namespace DeviceTags.Number

/-- A double precision number: `significand * 2 ^ exponent` with a sign, an infinity, or no number. -/
inductive Binary64 where
  | finite (negative : Bool) (significand : Nat) (exponent : Int)
  | infinite (negative : Bool)
  | nan
  deriving DecidableEq, Repr

/-- The quotient rounded to the nearest integer, a tie going to the even one. -/
def roundQuotient (numerator denominator : Nat) : Nat :=
  let quotient := numerator / denominator
  let twice := 2 * (numerator % denominator)
  if twice < denominator then quotient
  else if denominator < twice then quotient + 1
  else quotient + quotient % 2

namespace Binary64

/-- The significands of normal numbers lie between `hidden` and `2 * hidden`. -/
def hidden : Nat := Nat.pow 2 52

/-- The least binary exponent. -/
def leastExponent : Int := -1074

/-- The greatest binary exponent. -/
def greatestExponent : Int := 971

def zero (negative : Bool) : Binary64 := .finite negative 0 leastExponent

/-- Scales a fraction so that its quotient counts units of `2 ^ exponent`. -/
def scaleFraction (numerator denominator : Nat) (exponent : Int) : Nat × Nat :=
  if exponent < 0 then (numerator * Nat.pow 2 exponent.natAbs, denominator)
  else (numerator, denominator * Nat.pow 2 exponent.natAbs)

/-- The binary exponent at which a positive fraction has a significand of 53 bits, or the least. -/
def exponentFor (numerator denominator : Nat) : Int :=
  let guess : Int := (numerator.log2 : Int) - denominator.log2 - 53
  let scaled := scaleFraction numerator denominator guess
  max leastExponent (if scaled.1 / scaled.2 < 2 * hidden then guess else guess + 1)

/-- The number nearest to a positive fraction. -/
def ofFraction (negative : Bool) (numerator denominator : Nat) : Binary64 :=
  let exponent := exponentFor numerator denominator
  let scaled := scaleFraction numerator denominator exponent
  let significand := roundQuotient scaled.1 scaled.2
  if significand = 2 * hidden then
    if exponent + 1 > greatestExponent then .infinite negative
    else .finite negative hidden (exponent + 1)
  else if exponent > greatestExponent then .infinite negative
  else .finite negative significand exponent

/-- The number nearest to `digits * 10 ^ scale`. Values far outside the range need no arithmetic. -/
def ofDecimal (negative : Bool) (digits : Nat) (scale : Int) : Binary64 :=
  let magnitude : Int := (Nat.toDigits 10 digits).length + scale
  if digits = 0 ∨ magnitude < -330 then zero negative
  else if magnitude > 310 then .infinite negative
  else if scale < 0 then ofFraction negative digits (Nat.pow 10 scale.natAbs)
  else ofFraction negative (digits * Nat.pow 10 scale.natAbs) 1

/-- Whether the number is zero, of either sign. -/
def isZero : Binary64 → Bool
  | .finite _ significand _ => significand = 0
  | _ => false

end Binary64

end DeviceTags.Number
