import Lox.Diagnostic.Basic
import Lox.Run.Sink
import Lox.Token.Basic

/-!
# Runtime errors

What stops a run: an operation that its operands do not allow, which is blamed on a token, or a sink
that fails.
-/

namespace Lox

/-- The parts of the language that can be written, but not run. -/
inductive Feature where
  | propertyAccess | propertyAssignment | self | super | classes
  deriving DecidableEq, Repr

def Feature.phrase : Feature → String
  | propertyAccess => "Property access"
  | propertyAssignment => "Property assignment"
  | self => "This"
  | super => "Super"
  | classes => "Classes"

namespace RuntimeError

/-- What a token can be blamed for. -/
inductive Cause where
  | undefinedVariable (name : String)
  | operandNotNumber
  | operandsNotNumbers
  | operandsNotAddable
  | operandsOfTwoTypes
  | operandsNotOrdered
  | divisionByZero
  | notCallable
  | arityMismatch (expected actual : Nat)
  | unsupported (feature : Feature)
  deriving DecidableEq, Repr

def Cause.message : Cause → String
  | undefinedVariable name => "Undefined variable '" ++ name ++ "'."
  | operandNotNumber => "Operand must be a number."
  | operandsNotNumbers => "Operands must be numbers."
  | operandsNotAddable => "Operands must be two numbers or two strings."
  | operandsOfTwoTypes => "Operands must be of the same type for comparison."
  | operandsNotOrdered => "Comparison operators are only supported for numbers and strings."
  | divisionByZero => "Division by zero is not allowed."
  | notCallable => "Can only call functions and classes."
  | arityMismatch expected actual =>
    "Expected " ++ toString expected ++ " arguments but got " ++ toString actual ++ "."
  | unsupported feature => feature.phrase ++ " not implemented."

end RuntimeError

inductive RuntimeError where
  | blamed (cause : RuntimeError.Cause) (token : Token)
  | output (failure : Sink.Failure)
  deriving DecidableEq, Repr

namespace RuntimeError

def message : RuntimeError → String
  | blamed cause _ => cause.message
  | output failure => "Failed to write output: " ++ failure.message

/-- A failure of the sink has no place in the source. -/
def diagnostic (error : RuntimeError) : Diagnostic :=
  let (line, span) : Nat × Span :=
    match error with
    | blamed _ token => (token.line, token.span)
    | output _ => (0, .nowhere)
  { kind := .duringRun, message := error.message, line, location := none, span }

end RuntimeError
end Lox
