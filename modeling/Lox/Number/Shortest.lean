import Lox.Number.Basic

/-!
# The shortest decimal

Of all decimals that round to a given number, the one with the fewest digits is taken, and of those
the nearest to the number. On each grid of decimals with a given count of digits only the two
neighbours of the number need a test.
-/

namespace Lox.Number

/-- The decimal `digits * 10 ^ exponent`. -/
structure Decimal where
  digits : Nat
  exponent : Int
  deriving DecidableEq, Repr

/-- A positive number `value / den`, and the ends `low / den` and `high / den` of the interval of
reals that round to it, which belong to it when `closed`. -/
structure Rounded where
  value : Nat
  low : Nat
  high : Nat
  den : Nat
  closed : Bool
  deriving DecidableEq, Repr

/-- The interval of a finite positive magnitude. The gap below a power of two is half the gap
above it, so everything is counted in quarters of the last place. -/
def Rounded.ofMagnitude (magnitude : Nat) : Rounded :=
  let biased := magnitude / Nat.pow 2 52
  let fraction := magnitude % Nat.pow 2 52
  let significand := if biased = 0 then fraction else Nat.pow 2 52 + fraction
  let exponent : Int := (max biased 1 : Nat) - 1077
  let below := if fraction = 0 ∧ 1 < biased then 1 else 2
  let scale := Nat.pow 2 exponent.toNat
  { value := 4 * significand * scale
    low := (4 * significand - below) * scale
    high := (4 * significand + 2) * scale
    den := Nat.pow 2 (-exponent).toNat
    closed := significand % 2 = 0 }

/-- Whether `num / den'` rounds to the number. -/
def Rounded.admits (r : Rounded) (num den' : Nat) : Bool :=
  let low := r.low * den'
  let high := r.high * den'
  let point := num * r.den
  (low < point && point < high) || (r.closed && (low = point || point = high))

def decimalLength (n : Nat) : Nat :=
  (Nat.toDigits 10 n).length

/-- The least exponent whose power of ten exceeds `num / den`. -/
def decimalExponent (num den : Nat) : Int :=
  let guess := (decimalLength num : Int) - decimalLength den
  if den * Nat.pow 10 guess.toNat ≤ num * Nat.pow 10 (-guess).toNat then guess + 1 else guess

/-- The decimal of the grid `10 ^ exponent` nearest to the number, if it or its other neighbour
there rounds to the number. A number halfway between two such decimals takes the upper one. -/
def Rounded.onGrid? (r : Rounded) (exponent : Int) : Option Decimal :=
  let unit := Nat.pow 10 exponent.toNat
  let parts := Nat.pow 10 (-exponent).toNat
  let lower := r.value * parts / (r.den * unit)
  let rest := r.value * parts % (r.den * unit)
  let lowerFits := r.admits (lower * unit) parts
  let upperFits := r.admits ((lower + 1) * unit) parts
  if lowerFits && (2 * rest < r.den * unit || !upperFits) then some ⟨lower, exponent⟩
  else if upperFits then some ⟨lower + 1, exponent⟩
  else none

/-- Tries ever finer grids. Seventeen digits tell all numbers apart. -/
def Rounded.shortestFrom (r : Rounded) (exponent : Int) : Nat → Decimal
  | 0 => ⟨r.value / r.den, 0⟩
  | grids + 1 =>
    match r.onGrid? exponent with
    | some decimal => decimal
    | none => r.shortestFrom (exponent - 1) grids

/-- The shortest decimal that rounds to a finite positive magnitude. -/
def shortest (magnitude : Nat) : Decimal :=
  let r := Rounded.ofMagnitude magnitude
  r.shortestFrom (decimalExponent r.value r.den - 1) 17

end Lox.Number
