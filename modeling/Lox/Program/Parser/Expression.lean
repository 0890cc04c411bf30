import Lox.Program.Parser.Cursor
import Lox.Program.Tree

/-!
# Parsing expressions

Expressions are read level by level, from the comma, which binds weakest, down to literals. A rule
that calls for another one deeper inside the expression or statement, behind a token already taken,
does so through a record of all such rules.
-/

namespace Lox.Parser

/-- The rules that are called for behind a token already taken. -/
structure Rules where
  expression : Parser Expr
  assignment : Parser Expr
  conditional : Parser Expr
  conjunction : Parser Expr
  equality : Parser Expr
  comparison : Parser Expr
  term : Parser Expr
  factor : Parser Expr
  unary : Parser Expr
  statement : Parser Stmt
  declaration : Parser (Option Stmt)

/-- The levels of binary operators that group to the left. -/
inductive Level where
  | comma | or | and | equality | comparison | term | factor
  deriving DecidableEq, Repr

/-- The node that an operator of a level builds from its operands. -/
def Level.join? (level : Level) (operator : Token) : Option (Expr → Expr → Expr) :=
  match level, operator.kind with
  | .comma, .comma => some (.comma operator)
  | .or, .kwOr => some (.logical .or operator)
  | .and, .kwAnd => some (.logical .and operator)
  | .equality, .equalEqual => some (.binary .equal operator)
  | .equality, .bangEqual => some (.binary .notEqual operator)
  | .comparison, .less => some (.binary .less operator)
  | .comparison, .lessEqual => some (.binary .lessEqual operator)
  | .comparison, .greater => some (.binary .greater operator)
  | .comparison, .greaterEqual => some (.binary .greaterEqual operator)
  | .term, .plus => some (.binary .add operator)
  | .term, .minus => some (.binary .subtract operator)
  | .factor, .star => some (.binary .multiply operator)
  | .factor, .slash => some (.binary .divide operator)
  | _, _ => none

/-- One level: operands of the next level between operators of this one. -/
def leftGrouped (level : Level) (operand : Parser Expr) : Parser Expr := do
  let first ← operand
  grow (fun left => do
    match ← accept? level.join? with
    | some join => return some (join left (← operand))
    | none => return none) first

/-- The statements of a block, up to its closing brace. Those with errors in them are left out. -/
def block (rules : Rules) : Parser (List Stmt) := do
  let statements ← collect do
    if (← check .rightBrace) || (← atEnd) then return none
    return some (← rules.declaration)
  let _ ← expect .rightBrace .afterBlock
  return statements.reduceOption

/-- Parameters and body of a routine. -/
def routine (rules : Rules) (role : Role) (opening : Expectation) : Parser Routine := do
  let _ ← expect .leftParen opening
  let params ← untilParen .tooManyParameters (expect .identifier .parameterName)
  let _ ← expect .rightParen .afterParameters
  let _ ← expect .leftBrace (.beforeRoutineBody role)
  let body ← inFunction (block rules)
  return ⟨params, body⟩

/-- Reads what would have been the right operand of an operator that has no left one. -/
def strandedOperand (rules : Rules) (operator : Token) : Parser Unit :=
  match operator.kind with
  | .comma => discard rules.assignment
  | .question => do
    discard rules.expression
    if ← accept .colon then discard rules.conditional
  | .kwOr => discard rules.conjunction
  | .kwAnd => discard rules.equality
  | .equalEqual | .bangEqual => discard rules.comparison
  | .less | .lessEqual | .greater | .greaterEqual => discard rules.term
  | .plus => discard rules.factor
  | _ => discard rules.unary

/-- The operators that are reported where they lack a left operand. Minus is none of them, for it
also negates. -/
def needsLeftOperand : Token.Kind → Bool
  | .bangEqual | .equalEqual | .greater | .greaterEqual | .less | .lessEqual | .plus | .slash
  | .star | .comma | .question | .kwAnd | .kwOr => true
  | _ => false

def primary (rules : Rules) : Parser Expr := do
  let token ← peek
  match token.kind with
  | .kwFalse => skip; return .literal (.bool false)
  | .kwTrue => skip; return .literal (.bool true)
  | .kwNil => skip; return .literal .nil
  | .number | .string => skip; return .literal (token.literal.getD .nil)
  | .kwSuper =>
    skip
    let _ ← expect .dot .afterSuper
    return .super token (← expect .identifier .superMethodName)
  | .kwThis => skip; return .self token
  | .identifier => skip; return .var token
  | .kwFun => skip; return .lambda (← routine rules .function .afterFun)
  | .leftParen =>
    skip
    let inner ← rules.expression
    let _ ← expect .rightParen .afterGrouped
    return .grouping inner
  | kind =>
    if needsLeftOperand kind then
      skip
      reportAt token (.missingLeftOperand token.lexeme)
      strandedOperand rules token
      return .literal .nil
    else failAt token (.expected .expression)

/-- A primary expression, with calls and property names behind it. -/
def call (rules : Rules) : Parser Expr := do
  grow (fun callee => do
    if ← accept .leftParen then
      let arguments ← untilParen .tooManyArguments rules.assignment
      let paren ← expect .rightParen .afterArguments
      return some (.call callee paren arguments)
    else if ← accept .dot then
      return some (.get callee (← expect .identifier .propertyName))
    else return none) (← primary rules)

/-- The node that a sign before an operand builds. -/
def sign? (operator : Token) : Option (Expr → Expr) :=
  match operator.kind with
  | .bang => some (.unary .not operator)
  | .minus => some (.unary .negate operator)
  | _ => none

def unary (rules : Rules) : Parser Expr := do
  match ← accept? sign? with
  | some apply => return apply (← rules.unary)
  | none => call rules

def factor (rules : Rules) : Parser Expr := leftGrouped .factor (unary rules)

def term (rules : Rules) : Parser Expr := leftGrouped .term (factor rules)

def comparison (rules : Rules) : Parser Expr := leftGrouped .comparison (term rules)

def equality (rules : Rules) : Parser Expr := leftGrouped .equality (comparison rules)

def conjunction (rules : Rules) : Parser Expr := leftGrouped .and (equality rules)

def disjunction (rules : Rules) : Parser Expr := leftGrouped .or (conjunction rules)

def conditional (rules : Rules) : Parser Expr := do
  let condition ← disjunction rules
  if ← accept .question then
    let yes ← rules.expression
    let _ ← expect .colon .afterThenBranch
    return .conditional condition yes (← rules.conditional)
  else return condition

/-- An assignment. A left side that is no variable and no property is an error, but does not end
the statement. -/
def assignment (rules : Rules) : Parser Expr := do
  let target ← conditional rules
  match ← accept? fun token => if token.kind = .equal then some token else none with
  | none => return target
  | some equals =>
    let value ← rules.assignment
    match target with
    | .var name => return .assign name value
    | .get object name => return .set object name value
    | other =>
      reportAt equals .invalidTarget
      return other

def expression (rules : Rules) : Parser Expr := leftGrouped .comma (assignment rules)

end Lox.Parser
