/-!
# Numbers

Every number of the language is a binary64 value, kept as its 64 bits so that each bit pattern,
those of the NaNs included, is a value of its own. Sums, differences, products and quotients are
those of `Float`; comparisons read the bits.
-/

namespace Lox

structure Number where
  bits : UInt64
  deriving DecidableEq, Repr

namespace Number

def ofFloat (x : Float) : Number := ⟨x.toBits⟩

def toFloat (x : Number) : Float := Float.ofBits x.bits

/-- The sign is the top bit. -/
def isNegative (x : Number) : Bool :=
  Nat.pow 2 63 ≤ x.bits.toNat

/-- The bits below the sign. They grow with the absolute value. -/
def magnitude (x : Number) : Nat :=
  x.bits.toNat % Nat.pow 2 63

/-- The magnitude of the two infinities. All larger ones are NaNs. -/
def infinityMagnitude : Nat := 0x7FF * Nat.pow 2 52

def ofMagnitude (magnitude : Nat) : Number :=
  ⟨magnitude.toUInt64⟩

def isNaN (x : Number) : Bool :=
  infinityMagnitude < x.magnitude

def isInfinite (x : Number) : Bool :=
  x.magnitude = infinityMagnitude

def add (x y : Number) : Number := ofFloat (x.toFloat + y.toFloat)

def sub (x y : Number) : Number := ofFloat (x.toFloat - y.toFloat)

def mul (x y : Number) : Number := ofFloat (x.toFloat * y.toFloat)

def div (x y : Number) : Number := ofFloat (x.toFloat / y.toFloat)

/-- Negation flips the sign bit and nothing else. -/
def neg (x : Number) : Number := ⟨x.bits ^^^ 0x8000000000000000⟩

/-- A place on the line of all numbers that are no NaN. The two zeros share theirs. -/
def rank (x : Number) : Int :=
  if x.isNegative then -(x.magnitude : Int) else x.magnitude

/-- Numbers are equal when they have one rank; a NaN equals nothing. -/
def equal (x y : Number) : Bool :=
  !x.isNaN && !y.isNaN && x.rank == y.rank

def less (x y : Number) : Bool :=
  !x.isNaN && !y.isNaN && x.rank < y.rank

def atMost (x y : Number) : Bool :=
  !x.isNaN && !y.isNaN && x.rank ≤ y.rank

def isZero (x : Number) : Bool :=
  x.magnitude = 0

theorem equal_comm (x y : Number) : x.equal y = y.equal x := by
  simp only [equal, Bool.and_comm x.isNaN.not y.isNaN.not]
  congr 1
  exact Bool.beq_comm

end Number
end Lox
