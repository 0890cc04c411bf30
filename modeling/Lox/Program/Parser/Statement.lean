import Lox.Program.Parser.Expression

/-!
# Parsing statements

Declarations stand at the top of a program and in blocks; loop bodies and branches are statements
only. After an error that ends a statement, parsing resumes at the next place where one may begin.
-/

namespace Lox.Parser

def printStatement (rules : Rules) : Parser Stmt := do
  let value ← expression rules
  let _ ← expect .semicolon .afterPrinted
  return .print value

def expressionStatement (rules : Rules) : Parser Stmt := do
  let value ← expression rules
  let _ ← expect .semicolon .afterExpression
  return .expression value

/-- A declaration of a variable, behind its keyword. -/
def letDeclaration (rules : Rules) : Parser Stmt := do
  let name ← expect .identifier .variableName
  let initializer ← if ← accept .equal then some <$> expression rules else pure none
  let _ ← expect .semicolon .afterVariable
  return .define name initializer

/-- What a `for` does first, up to and with its first semicolon. -/
def forInitializer (rules : Rules) : Parser (Option Stmt) := do
  if ← accept .semicolon then return none
  else if ← accept .kwLet then return some (← letDeclaration rules)
  else return some (← expressionStatement rules)

/-- A `for` is a loop with an increment, in a block of its own behind its initializer if there is
one. A condition left out always holds. -/
def forStatement (rules : Rules) : Parser Stmt := do
  let _ ← expect .leftParen .afterFor
  let initializer ← forInitializer rules
  let condition ←
    if ← check .semicolon then pure (.literal (.bool true)) else expression rules
  let _ ← expect .semicolon .afterLoopCondition
  let increment ← if ← check .rightParen then pure none else some <$> expression rules
  let _ ← expect .rightParen .afterForClauses
  let body ← inLoop rules.statement
  let looped := Stmt.loop condition body increment
  match initializer with
  | some first => return .block [first, looped]
  | none => return looped

def ifStatement (rules : Rules) : Parser Stmt := do
  let _ ← expect .leftParen .afterIf
  let condition ← expression rules
  let _ ← expect .rightParen .afterIfCondition
  let yes ← rules.statement
  let no ← if ← accept .kwElse then some <$> rules.statement else pure none
  return .branch condition yes no

def whileStatement (rules : Rules) : Parser Stmt := do
  let _ ← expect .leftParen .afterWhile
  let condition ← expression rules
  let _ ← expect .rightParen .afterWhileCondition
  let body ← inLoop rules.statement
  return .loop condition body none

def returnStatement (rules : Rules) (keyword : Token) : Parser Stmt := do
  if (← get).functionDepth = 0 then reportAt keyword .returnOutsideFunction
  let value ← if ← check .semicolon then pure none else some <$> expression rules
  let _ ← expect .semicolon .afterReturned
  return .giveBack keyword value

/-- A `break` or a `continue`. -/
def jumpStatement (keyword : Token) : Parser Stmt := do
  if (← get).loopDepth = 0 then reportAt keyword (.jumpOutsideLoop keyword.lexeme)
  let _ ← expect .semicolon (.afterJump keyword.lexeme)
  return if keyword.kind = .kwBreak then .breakLoop keyword else .continueLoop keyword

def statement (rules : Rules) : Parser Stmt := do
  let token ← peek
  match token.kind with
  | .kwFor => skip; forStatement rules
  | .kwIf => skip; ifStatement rules
  | .kwPrint => skip; printStatement rules
  | .kwReturn => skip; returnStatement rules token
  | .kwWhile => skip; whileStatement rules
  | .kwBreak | .kwContinue => skip; jumpStatement token
  | .leftBrace => skip; return .block (← block rules)
  | _ => expressionStatement rules

/-- A function or method with its name. -/
def namedRoutine (rules : Rules) (role : Role) : Parser (Token × Routine) := do
  let name ← expect .identifier (.routineName role)
  return (name, ← routine rules role (.afterRoutineName role))

/-- A class, behind its keyword. -/
def classDeclaration (rules : Rules) : Parser Stmt := do
  let name ← expect .identifier .className
  let superclass ←
    if ← accept .less then some <$> expect .identifier .superclassName else pure none
  let _ ← expect .leftBrace .beforeClassBody
  let methods ← collect do
    if (← check .rightBrace) || (← atEnd) then return none
    return some (← namedRoutine rules .method)
  let _ ← expect .rightBrace .afterClassBody
  return .classDecl name superclass methods

/-- A declaration or a statement. `fun` declares a function only before a name; elsewhere it begins
an expression. -/
def declared (rules : Rules) : Parser Stmt := do
  match ← nextKinds with
  | (.kwClass, _) => skip; classDeclaration rules
  | (.kwFun, .identifier) =>
    skip
    let (name, routine) ← namedRoutine rules .function
    return .function name routine
  | (.kwLet, _) => skip; letDeclaration rules
  | _ => statement rules

/-- The keywords that begin a statement. -/
def beginsStatement : Token.Kind → Bool
  | .kwClass | .kwFun | .kwLet | .kwFor | .kwIf | .kwWhile | .kwPrint | .kwReturn => true
  | _ => false

/-- The tokens from the next place on where a statement may begin: behind a semicolon, or before a
keyword. The token `last` is passed already. -/
def skipTo (last : Token) : List Token → List Token
  | [] => []
  | token :: rest =>
    if last.kind = .semicolon || beginsStatement token.kind then token :: rest
    else skipTo token rest

/-- Passes the token at which a statement failed, and all behind it that no statement begins
with. -/
def synchronize : List Token → List Token
  | [] => []
  | token :: rest => skipTo token rest

/-- One declaration, or nothing if there was any error in it. -/
def declaration (rules : Rules) : Parser (Option Stmt) := fun state =>
  match declared rules state with
  | .ok stmt after =>
    .ok (if after.errors.length = state.errors.length then some stmt else none) after
  | .error error after =>
    .ok none
      { after with rest := synchronize after.rest, errors := after.errors ++ [error] }

end Lox.Parser
