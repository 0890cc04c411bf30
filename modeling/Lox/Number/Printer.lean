import Lox.Number.Shortest

/-!
# Number text

Numbers are written with their shortest digits, always in positional notation: no exponent, and no
point where nothing follows it. Two places spell infinity differently.
-/

namespace Lox.Number

/-- The digits of a decimal with its point in place, and no zeros at the end of the fraction. -/
def Decimal.positional (d : Decimal) : List Char :=
  let digits := Nat.toDigits 10 d.digits
  if 0 ≤ d.exponent then digits ++ List.replicate d.exponent.toNat '0'
  else
    let places := (-d.exponent).toNat
    let padded := List.replicate (places + 1 - digits.length) '0' ++ digits
    let whole := padded.take (padded.length - places)
    let fraction := padded.drop (padded.length - places)
    match fraction.reverse.dropWhile (· = '0') with
    | [] => whole
    | kept => whole ++ '.' :: kept.reverse

/-- How a place spells the values that have no digits. -/
structure Spelling where
  infinity : String
  notANumber : String
  deriving DecidableEq, Repr

/-- Values print infinity in full. -/
def Spelling.value : Spelling := ⟨"Infinity", "NaN"⟩

/-- Literals abbreviate infinity. -/
def Spelling.literal : Spelling := ⟨"inf", "NaN"⟩

/-- The text of a number without its sign. -/
def unsignedText (spelling : Spelling) (x : Number) : String :=
  if x.isInfinite then spelling.infinity
  else if x.isZero then "0"
  else String.ofList (shortest x.magnitude).positional

/-- The text of a number. Zero keeps its sign, and a NaN shows none. -/
def text (spelling : Spelling) (x : Number) : String :=
  if x.isNaN then spelling.notANumber
  else if x.isNegative then "-" ++ unsignedText spelling x
  else unsignedText spelling x

end Lox.Number
