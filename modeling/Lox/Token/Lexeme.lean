import Lox.Number.Rounding
import Lox.Text.Cut
import Lox.Text.Identifier
import Lox.Token.Basic

/-!
# Lexemes

The longest token at the start of a text: a number, a string, a word or a mark.
-/

namespace Lox.Token

open Lox.Text

/-- A token read at the start of a text, and never from nothing. -/
structure Lexeme (text : List Char) extends Cut text where
  kind : Kind
  literal : Option Literal
  nonempty : taken ≠ []

namespace Lexeme

variable {text : List Char}

/-- Digits, and a fraction if the point has a digit behind it. -/
def number? (text : List Char) : Option (Lexeme text) :=
  let whole := Cut.run isDigit text
  if nonempty : whole.taken ≠ [] then
    let fraction : Cut whole.rest :=
      match whole.rest with
      | '.' :: rest =>
        let digits := Cut.run isDigit rest
        if digits.taken = [] then Cut.empty _ else digits.push '.'
      | rest => Cut.empty rest
    some
      { whole.append fraction with
        kind := .number
        literal := some (.number (.ofDecimal whole.taken (fraction.taken.drop 1)))
        nonempty := by simp [Cut.append, nonempty] }
  else none

/-- Everything between two quotes, line feeds included. There are no escapes. -/
def string? : (text : List Char) → Option (Lexeme text)
  | '"' :: rest =>
    let body := Cut.run (· ≠ '"') rest
    match closing : body.rest with
    | '"' :: after =>
      some
        { taken := '"' :: body.taken ++ ['"']
          rest := after
          whole := by
            have := body.whole
            rw [closing] at this
            simp [this]
          kind := .string
          literal := some (.string (String.ofList body.taken))
          nonempty := by simp }
    | _ => none
  | _ => none

/-- A reserved word or an identifier. -/
def word? : (text : List Char) → Option (Lexeme text)
  | c :: rest =>
    if isIdentifierStart c then
      let cut := (Cut.run isIdentifierContinue rest).push c
      some
        { cut with
          kind := (Kind.ofReserved? (String.ofList cut.taken)).getD .identifier
          literal := none
          nonempty := by simp [cut] }
    else none
  | [] => none

/-- A mark, of two characters if possible. -/
def mark? : (text : List Char) → Option (Lexeme text)
  | c :: d :: rest =>
    match Kind.ofMarkPair? c d with
    | some kind => some ⟨⟨[c, d], rest, rfl⟩, kind, none, by simp⟩
    | none => (Kind.ofMark? c).map fun kind => ⟨⟨[c], d :: rest, rfl⟩, kind, none, by simp⟩
  | [c] => (Kind.ofMark? c).map fun kind => ⟨⟨[c], [], rfl⟩, kind, none, by simp⟩
  | [] => none

/-- The token at the start of a text, unless none begins there. -/
def read? (text : List Char) : Option (Lexeme text) :=
  number? text <|> string? text <|> word? text <|> mark? text

end Lexeme
end Lox.Token
