import Lox.Text.IdentifierTable

/-!
# Identifiers

An identifier begins with an XID_Start character or an underscore, and goes on with XID_Continue
characters, of which the underscore is one.
-/

namespace Lox.Text

def isIdentifierStart (c : Char) : Bool :=
  c == '_' || CodeRange.tableHolds identifierStartTable c

def isIdentifierContinue (c : Char) : Bool :=
  CodeRange.tableHolds identifierStartTable c || CodeRange.tableHolds identifierTailTable c

/-- Decimal digits are the ten ASCII ones. -/
def isDigit (c : Char) : Bool :=
  '0' ≤ c && c ≤ '9'

end Lox.Text
