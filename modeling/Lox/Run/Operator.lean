import Lox.Number.Rounding
import Lox.Run.Error
import Lox.Text.CodeUnit
import Lox.Value.Basic

/-!
# Operators on values
-/

namespace Lox

open RuntimeError (Cause)

/-- An operation on two numbers. -/
def arithmetic (operation : Number → Number → Number) : Value → Value → Except Cause Value
  | .number left, .number right => .ok (.number (operation left right))
  | _, _ => .error .operandsNotNumbers

/-- Adds numbers. A string and any other value are joined as texts. -/
def addValues : Value → Value → Except Cause Value
  | .number left, .number right => .ok (.number (left.add right))
  | .string left, right => .ok (.string (left ++ right.text))
  | left, .string right => .ok (.string (left.text ++ right))
  | _, _ => .error .operandsNotAddable

/-- Divides numbers, but not by either zero. -/
def divideValues : Value → Value → Except Cause Value
  | .number left, .number right =>
    if right.isZero then .error .divisionByZero else .ok (.number (left.div right))
  | _, _ => .error .operandsNotNumbers

/-- A comparison of two numbers, or of two strings by the sums of their UTF-16 code units. -/
def compareValues (comparison : Number → Number → Bool) (left right : Value) :
    Except Cause Value :=
  match left, right with
  | .number left, .number right => .ok (.bool (comparison left right))
  | .string left, .string right =>
    .ok (.bool (comparison (.ofNat (Text.codeUnitSum left.toList))
      (.ofNat (Text.codeUnitSum right.toList))))
  | _, _ =>
    if left.type = right.type then .error .operandsNotOrdered else .error .operandsOfTwoTypes

def BinaryOp.apply : BinaryOp → Value → Value → Except Cause Value
  | add => addValues
  | subtract => arithmetic .sub
  | multiply => arithmetic .mul
  | divide => divideValues
  | equal => fun left right => .ok (.bool (left.equal right))
  | notEqual => fun left right => .ok (.bool !(left.equal right))
  | less => compareValues Number.less
  | lessEqual => compareValues Number.atMost
  | greater => compareValues fun left right => right.less left
  | greaterEqual => compareValues fun left right => right.atMost left

def UnaryOp.apply : UnaryOp → Value → Except Cause Value
  | not, operand => .ok (.bool !operand.truthy)
  | negate, .number operand => .ok (.number operand.neg)
  | negate, _ => .error .operandNotNumber

/-- Whether the left operand alone settles the result. -/
def LogicalOp.settledBy : LogicalOp → Value → Bool
  | or, left => left.truthy
  | and, left => !left.truthy

end Lox
