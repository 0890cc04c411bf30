import Lox.Number.Printer
import Lox.Text.Span
import Lox.Token.Kind

/-!
# Tokens

A token is a piece of a source together with what it stands for and where it stood.
-/

namespace Lox

/-- What a literal stands for. -/
inductive Literal where
  | nil
  | bool (value : Bool)
  | number (value : Number)
  | string (value : String)
  deriving DecidableEq, Repr, Inhabited

def Literal.text : Literal → String
  | nil => "nil"
  | bool value => if value then "true" else "false"
  | number value => value.text .literal
  | string value => value

structure Token where
  kind : Token.Kind
  lexeme : String
  literal : Option Literal
  line : Nat
  span : Span
  deriving DecidableEq, Repr, Inhabited

namespace Token

/-- The token that ends every list of tokens. -/
def endOfText (line offset : Nat) : Token :=
  { kind := .eof, lexeme := "", literal := none, line, span := ⟨offset, offset⟩ }

/-- A token as it is listed: its kind, its lexeme and, if it is a literal, what it stands for. -/
def listing (token : Token) : String :=
  match token.literal with
  | some literal => token.kind.name ++ " " ++ token.lexeme ++ " " ++ literal.text
  | none => token.kind.name ++ " " ++ token.lexeme

end Token
end Lox
