import Lox.Program.Parser.Statement

/-!
# Programs

A list of tokens is read as a program: the statements that are free of errors, and all the errors.
-/

namespace Lox

namespace Parser

/-- The rules when no deeper level is allowed. -/
def Rules.exhausted : Rules :=
  { expression := fail .tooDeep
    assignment := fail .tooDeep
    conditional := fail .tooDeep
    conjunction := fail .tooDeep
    equality := fail .tooDeep
    comparison := fail .tooDeep
    term := fail .tooDeep
    factor := fail .tooDeep
    unary := fail .tooDeep
    statement := fail .tooDeep
    declaration := fail .tooDeep }

/-- The rules with one more level above those of `rules`. -/
def Rules.above (rules : Rules) : Rules :=
  { expression := Parser.expression rules
    assignment := Parser.assignment rules
    conditional := Parser.conditional rules
    conjunction := Parser.conjunction rules
    equality := Parser.equality rules
    comparison := Parser.comparison rules
    term := Parser.term rules
    factor := Parser.factor rules
    unary := Parser.unary rules
    statement := Parser.statement rules
    declaration := Parser.declaration rules }

/-- The rules for expressions and statements nested at most `depth` levels deep. -/
def rules : (depth : Nat) → Rules
  | 0 => .exhausted
  | depth + 1 => (rules depth).above

/-- The statements of a program. -/
def program (rules : Rules) : Parser (List Stmt) := do
  let statements ← collect do
    if ← atEnd then return none
    return some (← declaration rules)
  return statements.reduceOption

/-- The token that stands for the end of `tokens`: the first that marks one, or else one made up
behind the last token. -/
def endingOf (tokens : List Token) : Token :=
  match tokens.find? (·.kind = .eof) with
  | some token => token
  | none =>
    match tokens.getLast? with
    | some last => .endOfText last.line last.span.stop
    | none => .endOfText 1 0

/-- The state before the first token. Nothing behind the end counts. -/
def State.start (tokens : List Token) : State :=
  { rest := tokens.takeWhile (·.kind ≠ .eof)
    ending := endingOf tokens
    errors := []
    loopDepth := 0
    functionDepth := 0 }

end Parser

/-- The statements without errors, and the errors. -/
structure Program where
  statements : List Stmt
  errors : List SyntaxError

namespace Program

/-- Reads a program. Each level of nesting takes a token, so the rules are given as many levels as
there are tokens. -/
def parse (tokens : List Token) : Program :=
  let start := Parser.State.start tokens
  match Parser.program (Parser.rules start.rest.length) start with
  | .ok statements after => ⟨statements, after.errors⟩
  | .error error after => ⟨[], after.errors ++ [error]⟩

end Program
end Lox
