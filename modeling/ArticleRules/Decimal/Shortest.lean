/-
This file finds the shortest decimal that reads back as a given binary floating point number. All
arithmetic is exact.
-/

namespace ArticleRules.Decimal

/-- A positive binary number is its mantissa times two to its exponent. -/
structure Binary where
  mantissa : Nat
  exponent : Int
  /-- The next smaller number is only half as far away as the next larger one. -/
  narrowBelow : Bool

/-- A decimal is its digits, read as one number, times ten to its exponent. -/
structure Digits where
  digits : Nat
  exponent : Int

def twoTo (exponent : Nat) : Nat :=
  Nat.pow 2 exponent

def tenTo (exponent : Nat) : Nat :=
  Nat.pow 10 exponent

/-- The fields of a float format are read from its bits, the sign left out. -/
def Binary.ofBits (fractionWidth exponentWidth bits : Nat) : Binary :=
  let fraction := bits % twoTo fractionWidth
  let field := bits / twoTo fractionWidth % twoTo exponentWidth
  let bias : Int := twoTo (exponentWidth - 1) - 1 + fractionWidth
  if field = 0 then
    { mantissa := fraction, exponent := 1 - bias, narrowBelow := false }
  else
    { mantissa := twoTo fractionWidth + fraction
      exponent := field - bias
      narrowBelow := fraction = 0 && field > 1 }

/-- The power of ten that has the same number of places as the fraction of two positive numbers. -/
def decimalPlace (numerator denominator : Nat) : Int :=
  if denominator ≤ numerator then
    ((Nat.toDigits 10 (numerator / denominator)).length : Int) - 1
  else
    -((Nat.toDigits 10 ((denominator - 1) / numerator)).length : Int)

/-- Which of two equally near decimals is taken: the larger one, or the one with an even last digit. -/
inductive TieRule where
  | upward
  | even

/-- A grid point next to the value is accepted when it lies in the interval that reads back. -/
def Binary.nearestOnGrid (value : Binary) (tie : TieRule) (place : Int) : Option Digits :=
  let scale := twoTo (value.exponent - 2).toNat * tenTo (-place).toNat
  let step := tenTo place.toNat * twoTo (2 - value.exponent).toNat
  let middle := 4 * value.mantissa * scale
  let low := (4 * value.mantissa - if value.narrowBelow then 1 else 2) * scale
  let high := (4 * value.mantissa + 2) * scale
  let closed := value.mantissa % 2 = 0
  let readsBack := fun point : Nat =>
    (low < point || (closed && low = point)) && (point < high || (closed && point = high))
  let below := middle / step
  let above := below + 1
  let lower := readsBack (below * step) && below ≠ 0
  let upper := readsBack (above * step)
  let rise := above * step - middle
  let fall := middle - below * step
  let tieRises := tie matches .upward || below % 2 = 1
  if upper && (!lower || rise < fall || (tieRises && rise = fall)) then some ⟨above, place⟩
  else if lower then some ⟨below, place⟩
  else none

/-- Trailing zeros move into the exponent. -/
def Digits.strip (decimal : Digits) : Digits :=
  if h : decimal.digits ≠ 0 ∧ decimal.digits % 10 = 0 then
    Digits.strip ⟨decimal.digits / 10, decimal.exponent + 1⟩
  else decimal
termination_by decimal.digits
decreasing_by omega

/-- So many digits tell any two numbers apart. -/
def mostDigits : Nat := 17

/-- One digit is tried first, then two, and so on. -/
def Binary.shortest (value : Binary) (tie : TieRule) : Digits :=
  let top := decimalPlace (value.mantissa * twoTo value.exponent.toNat) (twoTo (-value.exponent).toNat)
  let tries := (List.range mostDigits).findSome? fun (count : Nat) =>
    value.nearestOnGrid tie (top - count)
  (tries.getD ⟨value.mantissa, 0⟩).strip

end ArticleRules.Decimal
