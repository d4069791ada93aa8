import DeviceTags.Number.Binary64
import DeviceTags.Text.Digits

/-!
# Shortest decimal text

The fewest decimal digits that read back as the same double precision number and, among those, the
nearest to it. The text is positional from `1e-4` up to below `1e16` and exponential outside, with a
fraction or an exponent always present.
-/

namespace DeviceTags.Number.Binary64

/-- The decimals that read back as a positive number: twice or four times their bounds are whole
multiples of `2 ^ exponent`, so the bounds are kept in units of `2 ^ (exponent - 2)`. -/
structure Neighbourhood where
  low : Nat
  centre : Nat
  high : Nat
  closed : Bool
  unit : Int

/-- The neighbourhood of a positive number: half a step to each side, a quarter step down at a power
of two, where the steps below are half as long. The ends belong to it when the significand is even. -/
def neighbourhood (significand : Nat) (exponent : Int) : Neighbourhood where
  low := if significand = hidden ∧ exponent > leastExponent
    then 4 * significand - 1 else 4 * significand - 2
  centre := 4 * significand
  high := 4 * significand + 2
  closed := significand % 2 = 0
  unit := exponent - 2

/-- Compares `digits * 10 ^ power` with `count * 2 ^ unit`, clearing negative powers on both sides. -/
def compareDecimal (digits : Nat) (power : Int) (count : Nat) (unit : Int) : Ordering :=
  let left := digits * (if power < 0 then 1 else Nat.pow 10 power.natAbs) *
    (if unit < 0 then Nat.pow 2 unit.natAbs else 1)
  let right := count * (if unit < 0 then 1 else Nat.pow 2 unit.natAbs) *
    (if power < 0 then Nat.pow 10 power.natAbs else 1)
  compare left right

/-- Whether `digits * 10 ^ power` reads back as the number of the neighbourhood. -/
def Neighbourhood.holds (near : Neighbourhood) (digits : Nat) (power : Int) : Bool :=
  match compareDecimal digits power near.low near.unit,
    compareDecimal digits power near.high near.unit with
  | .gt, .lt => true
  | .eq, _ => near.closed
  | _, .eq => near.closed
  | _, _ => false

/-- The greatest multiple of `10 ^ power` that does not exceed the centre. -/
def Neighbourhood.below (near : Neighbourhood) (power : Int) : Nat :=
  let numerator := near.centre * (if near.unit < 0 then 1 else Nat.pow 2 near.unit.natAbs) *
    (if power < 0 then Nat.pow 10 power.natAbs else 1)
  let denominator := (if near.unit < 0 then Nat.pow 2 near.unit.natAbs else 1) *
    (if power < 0 then 1 else Nat.pow 10 power.natAbs)
  numerator / denominator

/-- The nearest multiple of `10 ^ power` in the neighbourhood, if there is one. Of two at the same
distance the even one is taken. -/
def Neighbourhood.choose (near : Neighbourhood) (power : Int) : Option Nat :=
  let down := near.below power
  match near.holds down power, near.holds (down + 1) power with
  | true, true =>
    match compareDecimal (2 * down + 1) power (2 * near.centre) near.unit with
    | .gt => some down
    | .lt => some (down + 1)
    | .eq => some (down + down % 2)
  | true, false => some down
  | false, true => some (down + 1)
  | false, false => none

/-- The coarsest grid with a point in the neighbourhood, tried from `power` down. -/
def Neighbourhood.search (near : Neighbourhood) : Nat → Int → Nat × Int
  | 0, power => (near.below power, power)
  | tries + 1, power =>
    match near.choose power with
    | some digits => (digits, power)
    | none => near.search tries (power - 1)

/-- How many decimal digits the whole part of a positive number has; zero or less below one. -/
def decimalPoint (significand : Nat) (exponent : Int) : Int :=
  if exponent < 0 then
    let whole := significand / Nat.pow 2 exponent.natAbs
    if whole ≠ 0 then (Nat.toDigits 10 whole).length
    else
      -- A value below one is no power of ten, so its reciprocal is none either.
      let reciprocal := Nat.pow 2 exponent.natAbs / significand
      1 - (Nat.toDigits 10 reciprocal).length
  else (Nat.toDigits 10 (significand * Nat.pow 2 exponent.natAbs)).length

def dropLastZeros (digits : List Char) : List Char :=
  (digits.reverse.dropWhile (· = '0')).reverse

/-- The digits of the shortest decimal and the position of its point, counted from their start. -/
def shortest (significand : Nat) (exponent : Int) : List Char × Int :=
  let near := neighbourhood significand exponent
  let found := near.search 17 (decimalPoint significand exponent - 1)
  let digits := Text.decimal found.1
  (dropLastZeros digits, digits.length + found.2)

/-- Writes digits with the point after `point` of them. -/
def layout (digits : List Char) (point : Int) : List Char :=
  if -4 < point ∧ point ≤ 16 then
    if point ≤ 0 then '0' :: '.' :: List.replicate point.natAbs '0' ++ digits
    else
      let whole := digits.take point.natAbs
      let fraction := digits.drop point.natAbs
      whole ++ List.replicate (point.natAbs - whole.length) '0' ++
        '.' :: (if fraction.isEmpty then ['0'] else fraction)
  else
    let exponent := point - 1
    let fraction := digits.drop 1
    digits.take 1 ++ (if fraction.isEmpty then [] else '.' :: fraction) ++
      'e' :: (if exponent < 0 then '-' else '+') ::
        Text.padZeros 2 (Text.decimal exponent.natAbs)

def text : Binary64 → String
  | .nan => "nan"
  | .infinite negative => if negative then "-inf" else "inf"
  | .finite negative significand exponent =>
    let body :=
      if significand = 0 then ['0', '.', '0']
      else
        let found := shortest significand exponent
        layout found.1 found.2
    String.ofList (if negative then '-' :: body else body)

end DeviceTags.Number.Binary64
