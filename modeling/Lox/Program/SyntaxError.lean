import Lox.Diagnostic.Basic
import Lox.Token.Basic

/-!
# Syntax errors

An error names its cause and the token at which it was found. The wording of all causes stands
here.
-/

namespace Lox

/-- Functions and methods are written alike, but their errors name them apart. -/
inductive Role where
  | function | method
  deriving DecidableEq, Repr

def Role.word : Role → String
  | function => "function"
  | method => "method"

/-- What was due at a token. -/
inductive Expectation where
  | expression
  | className | superclassName | beforeClassBody | afterClassBody
  | routineName (role : Role) | afterRoutineName (role : Role) | afterFun
  | parameterName | afterParameters | beforeRoutineBody (role : Role)
  | afterBlock
  | variableName | afterVariable | afterPrinted | afterExpression
  | afterFor | afterLoopCondition | afterForClauses
  | afterIf | afterIfCondition
  | afterWhile | afterWhileCondition
  | afterReturned | afterJump (keyword : String)
  | afterThenBranch
  | propertyName | afterArguments
  | afterSuper | superMethodName
  | afterGrouped
  deriving DecidableEq, Repr

def Expectation.phrase : Expectation → String
  | expression => "expression"
  | className => "class name"
  | superclassName => "superclass name"
  | beforeClassBody => "'\x7b' before class body"
  | afterClassBody => "'\x7d' after class body"
  | routineName role => role.word ++ " name"
  | afterRoutineName role => "'(' after " ++ role.word ++ " name"
  | afterFun => "'(' after 'fun'"
  | parameterName => "parameter name"
  | afterParameters => "')' after parameters"
  | beforeRoutineBody role => "'\x7b' before " ++ role.word ++ " body"
  | afterBlock => "'\x7d' after block"
  | variableName => "variable name"
  | afterVariable => "';' after variable declaration"
  | afterPrinted => "';' after value"
  | afterExpression => "';' after expression"
  | afterFor => "'(' after 'for'"
  | afterLoopCondition => "';' after loop condition"
  | afterForClauses => "')' after for clauses"
  | afterIf => "'(' after 'if'"
  | afterIfCondition => "')' after if condition"
  | afterWhile => "'(' after 'while'"
  | afterWhileCondition => "')' after condition"
  | afterReturned => "';' after return value"
  | afterJump keyword => "';' after '" ++ keyword ++ "'"
  | afterThenBranch => "':' after then branch of conditional expression"
  | propertyName => "property name after '.'"
  | afterArguments => "')' after arguments"
  | afterSuper => "'.' after 'super'"
  | superMethodName => "superclass method name"
  | afterGrouped => "')' after expression"

namespace SyntaxError

inductive Cause where
  | expected (what : Expectation)
  | tooManyParameters
  | tooManyArguments
  | returnOutsideFunction
  | jumpOutsideLoop (keyword : String)
  | invalidTarget
  | missingLeftOperand (operator : String)
  /-- The program is nested deeper than the parser was allowed to go. It is always allowed as
  many levels as there are tokens, which no program needs. -/
  | tooDeep
  deriving DecidableEq, Repr

def Cause.message : Cause → String
  | expected what => "Expect " ++ what.phrase ++ "."
  | tooManyParameters => "Can't have more than 255 parameters."
  | tooManyArguments => "Can't have more than 255 arguments."
  | returnOutsideFunction => "Can't return from top-level code."
  | jumpOutsideLoop keyword => "Can't use '" ++ keyword ++ "' outside of a loop."
  | invalidTarget => "Invalid assignment target."
  | missingLeftOperand operator =>
    "Binary operator '" ++ operator ++ "' appears without a left-hand operand."
  | tooDeep => "Program is nested too deeply."

end SyntaxError

structure SyntaxError where
  cause : SyntaxError.Cause
  token : Token
  deriving DecidableEq, Repr

namespace SyntaxError

def message (error : SyntaxError) : String :=
  error.cause.message

def location (error : SyntaxError) : String :=
  if error.token.kind = .eof then "at end" else "at '" ++ error.token.lexeme ++ "'"

def diagnostic (error : SyntaxError) : Diagnostic :=
  { kind := .beforeRun
    message := error.message
    line := error.token.line
    location := some error.location
    span := error.token.span }

end SyntaxError
end Lox
