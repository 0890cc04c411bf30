/-!
# UTF-16 code units

Strings of the language are ordered by the sum of their UTF-16 code units.
-/

namespace Lox.Text

/-- The code units of one character: itself, or a surrogate pair beyond the basic plane. -/
def codeUnits (c : Char) : List Nat :=
  let code := c.toNat
  if code < 0x10000 then [code]
  else [0xD800 + (code - 0x10000) / 0x400, 0xDC00 + (code - 0x10000) % 0x400]

def codeUnitSum : List Char → Nat
  | [] => 0
  | c :: rest => (codeUnits c).foldl (· + ·) 0 + codeUnitSum rest

end Lox.Text
