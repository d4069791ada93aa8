/-!
# Digits

Reading and writing numerals over lists of characters: decimal text of integers, hexadecimal text of
a fixed width, and the value of a run of digits in a base up to sixteen. Decimal numerals are limited
in length, whether they are read or written.
-/

namespace DeviceTags.Text

/-- The decimal digits of a number, without leading zeros. -/
def decimal (n : Nat) : List Char :=
  Nat.toDigits 10 n

/-- Decimal text of an integer, with a minus sign below zero. -/
def decimalInt : Int → String
  | .ofNat n => String.ofList (decimal n)
  | .negSucc n => String.ofList ('-' :: decimal (n + 1))

/-- The most digits that a decimal numeral may have. -/
def longestNumeral : Nat := 4300

/-- Whether the decimal numeral of an integer is short enough to be written. -/
def isWritable (value : Int) : Bool :=
  (decimal value.natAbs).length ≤ longestNumeral

/-- Pads with zeros on the left up to a width. -/
def padZeros (width : Nat) (digits : List Char) : List Char :=
  List.replicate (width - digits.length) '0' ++ digits

/-- Lower-case hexadecimal digits, at least `width` of them. -/
def hex (width n : Nat) : List Char :=
  padZeros width (Nat.toDigits 16 n)

/-- The value of a hexadecimal digit of either case. -/
def digitValue? (c : Char) : Option Nat :=
  if '0' ≤ c ∧ c ≤ '9' then some (c.toNat - '0'.toNat)
  else if 'a' ≤ c ∧ c ≤ 'f' then some (c.toNat - 'a'.toNat + 10)
  else if 'A' ≤ c ∧ c ≤ 'F' then some (c.toNat - 'A'.toNat + 10)
  else none

def isDigitOf (base : Nat) (c : Char) : Bool :=
  match digitValue? c with
  | some value => value < base
  | none => false

/-- The value of a run of digits, most significant first; other characters count as zero. -/
def ofDigits (base : Nat) (digits : List Char) : Nat :=
  digits.foldl (fun value c => value * base + (digitValue? c).getD 0) 0

theorem ofDigits_append (base : Nat) (digits : List Char) (last : Char) :
    ofDigits base (digits ++ [last]) = ofDigits base digits * base + (digitValue? last).getD 0 := by
  simp [ofDigits]

theorem decimal_of_lt {n : Nat} (hn : n < 10) : decimal n = [Nat.digitChar n] :=
  Nat.toDigits_of_lt_base hn

/-- The last digit of a number with more than one. -/
theorem decimal_of_ten_le {n : Nat} (hn : 10 ≤ n) :
    decimal n = decimal (n / 10) ++ [Nat.digitChar (n % 10)] := by
  have hdigits := Nat.toDigits_append_toDigits (b := 10) (n := n / 10) (d := n % 10) (by decide)
    (by omega) (by omega)
  rw [Nat.toDigits_of_lt_base (by omega : n % 10 < 10)] at hdigits
  rw [decimal, decimal, hdigits, Nat.div_add_mod]

theorem ofDigits_decimal (n : Nat) : ofDigits 10 (decimal n) = n := by
  induction n using Nat.strongRecOn with
  | ind n ih =>
    have hvalue : ∀ d, d < 10 → (digitValue? (Nat.digitChar d)).getD 0 = d := by decide
    by_cases hlt : n < 10
    · have hdigits : ∀ d, d < 10 → ofDigits 10 (decimal d) = d := by decide
      exact hdigits n hlt
    · have hle : 10 ≤ n := by omega
      rw [decimal_of_ten_le hle, ofDigits_append, ih (n / 10) (by omega),
        hvalue (n % 10) (by omega)]
      omega

end DeviceTags.Text
