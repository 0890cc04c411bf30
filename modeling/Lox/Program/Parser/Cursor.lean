import Lox.Program.SyntaxError

/-!
# The parser's state

Parsing moves over the tokens before the end of the text, and never back. So the state holds the
tokens still to come; that an index into all tokens would serve as well is shown by `Follows`. An
error that ends the current statement is thrown; one that does not is only added to the list. The
state outlives a thrown error, so that parsing can resume behind it.
-/

namespace Lox.Parser

structure State where
  /-- The tokens still to come. None of them marks the end. -/
  rest : List Token
  /-- The token that stands for the end. -/
  ending : Token
  /-- The errors so far, in the order in which they were found. -/
  errors : List SyntaxError
  /-- How many loops of the current routine enclose the next token. -/
  loopDepth : Nat
  /-- How many routines enclose the next token. -/
  functionDepth : Nat
  deriving DecidableEq, Repr

end Parser

/-- A parser of `α`s. -/
abbrev Parser := EStateM SyntaxError Parser.State

namespace Parser

variable {α : Type}

/-- The next token, without moving. -/
def peek : Parser Token :=
  return (← get).rest.headD (← get).ending

def atEnd : Parser Bool :=
  return (← get).rest.isEmpty

def check (kind : Token.Kind) : Parser Bool :=
  return (← peek).kind = kind

/-- The kinds of the next two tokens, without moving. Behind the last token is the end. -/
def nextKinds : Parser (Token.Kind × Token.Kind) :=
  return match (← get).rest with
    | [] => (.eof, .eof)
    | [first] => (first.kind, .eof)
    | first :: second :: _ => (first.kind, second.kind)

/-- Moves over the next token. -/
def skip : Parser Unit :=
  modify fun state => { state with rest := state.rest.tail }

/-- Moves over the next token if `choose` has a use for it. No `choose` of the parser has one for
the end, so the end is passed no more than it would be if it were not looked for
(`follows_accept?`). -/
def accept? (choose : Token → Option α) : Parser (Option α) := do
  match (← get).rest with
  | [] => return none
  | token :: _ =>
    match choose token with
    | some a => skip; return some a
    | none => return none

/-- Moves over the next token if it is of the given kind. -/
def accept (kind : Token.Kind) : Parser Bool :=
  return (← accept? fun token => if token.kind = kind then some token else none).isSome

def failAt (token : Token) (cause : SyntaxError.Cause) : Parser α :=
  throw ⟨cause, token⟩

/-- Fails at the next token. -/
def fail (cause : SyntaxError.Cause) : Parser α := do
  failAt (← peek) cause

/-- Records an error and goes on. -/
def reportAt (token : Token) (cause : SyntaxError.Cause) : Parser Unit :=
  modify fun state => { state with errors := state.errors ++ [⟨cause, token⟩] }

/-- Takes a token of the given kind, without which the statement fails. -/
def expect (kind : Token.Kind) (what : Expectation) : Parser Token := do
  match ← accept? fun token => if token.kind = kind then some token else none with
  | some token => return token
  | none => fail (.expected what)

/-- Counts one more loop around what `parser` reads, however it ends. -/
def inLoop (parser : Parser α) : Parser α := fun state =>
  match parser { state with loopDepth := state.loopDepth + 1 } with
  | .ok a after => .ok a { after with loopDepth := after.loopDepth - 1 }
  | .error error after => .error error { after with loopDepth := after.loopDepth - 1 }

/-- Counts one more routine, and no loops yet, around what `parser` reads, however it ends. -/
def inFunction (parser : Parser α) : Parser α := fun state =>
  match parser { state with loopDepth := 0, functionDepth := state.functionDepth + 1 } with
  | .ok a after =>
    .ok a { after with loopDepth := state.loopDepth, functionDepth := after.functionDepth - 1 }
  | .error error after =>
    .error error
      { after with loopDepth := state.loopDepth, functionDepth := after.functionDepth - 1 }

/-- Grows a value by `step` until `step` has nothing to add, in at most `rounds` rounds. -/
def growFor (step : α → Parser (Option α)) : (rounds : Nat) → α → Parser α
  | 0, value => return value
  | rounds + 1, value => do
    match ← step value with
    | some grown => growFor step rounds grown
    | none => return value

/-- Grows a value by a `step` that takes at least one token whenever it adds something. So there are
no more rounds than tokens. -/
def grow (step : α → Parser (Option α)) (value : α) : Parser α := do
  growFor step (← get).rest.length value

/-- Collects what `item` gives until it gives nothing, in at most `rounds` rounds. -/
def collectFor (item : Parser (Option α)) : (rounds : Nat) → Parser (List α)
  | 0 => return []
  | rounds + 1 => do
    match ← item with
    | some a => return a :: (← collectFor item rounds)
    | none => return []

/-- Collects what an `item` that takes at least one token gives, until it gives nothing. -/
def collect (item : Parser (Option α)) : Parser (List α) := do
  collectFor item (← get).rest.length

/-- The most parameters a function may have, and the most arguments of a call. -/
def maxItems : Nat := 255

/-- Elements between commas, of which `count` are read already. Each one beyond the limit is an
error at its first token. -/
def separatedFor (excess : SyntaxError.Cause) (element : Parser α) :
    (count rounds : Nat) → Parser (List α)
  | _, 0 => return []
  | count, rounds + 1 => do
    if maxItems ≤ count then reportAt (← peek) excess
    let first ← element
    if ← accept .comma then return first :: (← separatedFor excess element (count + 1) rounds)
    else return [first]

/-- One or more elements between commas. Every further element takes a comma. -/
def separated (excess : SyntaxError.Cause) (element : Parser α) : Parser (List α) := do
  separatedFor excess element 0 ((← get).rest.length + 1)

/-- Elements between commas up to a closing parenthesis, which is not taken. -/
def untilParen (excess : SyntaxError.Cause) (element : Parser α) : Parser (List α) := do
  if ← check .rightParen then return [] else separated excess element

end Lox.Parser
