import Lox.Number.Basic

/-!
# Rounding to the nearest number

A fraction is rounded to the nearest binary64 value, and to the one with an even significand when
two are equally near. Fractions too large for any finite value round to infinity.
-/

namespace Lox.Number

/-- A quotient rounded to the nearest integer, ties to even. -/
def roundDiv (num den : Nat) : Nat :=
  let whole := num / den
  let twice := 2 * (num % den)
  if den < twice ∨ (twice = den ∧ whole % 2 = 1) then whole + 1 else whole

/-- The fraction `num / den` divided by `2 ^ exponent`. -/
def scaleDown (num den : Nat) (exponent : Int) : Nat × Nat :=
  if 0 ≤ exponent then (num, den * Nat.pow 2 exponent.toNat)
  else (num * Nat.pow 2 (-exponent).toNat, den)

/-- The exponent of the last significand bit of the values around `num / den`: significands have
53 bits, and no bit lies below `2 ^ -1074`. -/
def unitExponent (num den : Nat) : Int :=
  let guess := max ((num.log2 : Int) - den.log2 - 53) (-1074)
  let (scaledNum, scaledDen) := scaleDown num den guess
  if Nat.pow 2 53 ≤ scaledNum / scaledDen then guess + 1 else guess

/-- The nonnegative number nearest to `num / den`. Magnitudes are counted in units of the last
place, so a significand that rounds up to the next power of two carries into the exponent. -/
def nearest (num den : Nat) : Number :=
  if num = 0 then ofMagnitude 0
  else
    let exponent := unitExponent num den
    let (scaledNum, scaledDen) := scaleDown num den exponent
    ofMagnitude <| min infinityMagnitude <|
      (exponent + 1074).toNat * Nat.pow 2 52 + roundDiv scaledNum scaledDen

def ofNat (n : Nat) : Number :=
  nearest n 1

/-- The integer that a row of decimal digits spells. -/
def digitsValue (digits : List Char) : Nat :=
  digits.foldl (fun value digit => value * 10 + (digit.toNat - '0'.toNat)) 0

/-- The number nearest to a decimal with the given digits before and after its point. -/
def ofDecimal (whole fraction : List Char) : Number :=
  nearest (digitsValue (whole ++ fraction)) (Nat.pow 10 fraction.length)

end Lox.Number
