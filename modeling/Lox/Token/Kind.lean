/-!
# Kinds of tokens

Marks, literals, words and the end of the text. Some words are reserved and have kinds of their own.
-/

namespace Lox.Token

inductive Kind where
  | leftParen | rightParen | leftBrace | rightBrace
  | comma | dot | minus | plus | semicolon | slash | star | question | colon
  | bang | bangEqual | equal | equalEqual | greater | greaterEqual | less | lessEqual
  | identifier | string | number
  | kwAnd | kwBreak | kwClass | kwContinue | kwElse | kwFalse | kwFun | kwFor | kwIf | kwLet | kwNil
  | kwOr | kwPrint | kwReturn | kwSuper | kwThis | kwTrue | kwWhile
  | eof
  deriving DecidableEq, Repr, Inhabited

namespace Kind

/-- The name under which a kind is listed. -/
def name : Kind → String
  | leftParen => "LeftParen"
  | rightParen => "RightParen"
  | leftBrace => "LeftBrace"
  | rightBrace => "RightBrace"
  | comma => "Comma"
  | dot => "Dot"
  | minus => "Minus"
  | plus => "Plus"
  | semicolon => "Semicolon"
  | slash => "Slash"
  | star => "Star"
  | question => "Question"
  | colon => "Colon"
  | bang => "Bang"
  | bangEqual => "BangEqual"
  | equal => "Equal"
  | equalEqual => "EqualEqual"
  | greater => "Greater"
  | greaterEqual => "GreaterEqual"
  | less => "Less"
  | lessEqual => "LessEqual"
  | identifier => "Identifier"
  | string => "String"
  | number => "Number"
  | kwAnd => "And"
  | kwBreak => "Break"
  | kwClass => "Class"
  | kwContinue => "Continue"
  | kwElse => "Else"
  | kwFalse => "False"
  | kwFun => "Fun"
  | kwFor => "For"
  | kwIf => "If"
  | kwLet => "Let"
  | kwNil => "Nil"
  | kwOr => "Or"
  | kwPrint => "Print"
  | kwReturn => "Return"
  | kwSuper => "Super"
  | kwThis => "This"
  | kwTrue => "True"
  | kwWhile => "While"
  | eof => "Eof"

def all : List Kind :=
  [leftParen, rightParen, leftBrace, rightBrace, comma, dot, minus, plus, semicolon, slash, star,
   question, colon, bang, bangEqual, equal, equalEqual, greater, greaterEqual, less, lessEqual,
   identifier, string, number, kwAnd, kwBreak, kwClass, kwContinue, kwElse, kwFalse, kwFun, kwFor,
   kwIf, kwLet, kwNil, kwOr, kwPrint, kwReturn, kwSuper, kwThis, kwTrue, kwWhile, eof]

/-- The kind listed under a name. -/
def ofName? (name : String) : Option Kind :=
  all.find? fun kind => kind.name == name

/-- The reserved words. -/
def reserved : List (String × Kind) :=
  [("and", kwAnd), ("break", kwBreak), ("class", kwClass), ("continue", kwContinue),
   ("else", kwElse), ("false", kwFalse), ("for", kwFor), ("fun", kwFun), ("if", kwIf),
   ("let", kwLet), ("nil", kwNil), ("or", kwOr), ("print", kwPrint), ("return", kwReturn),
   ("super", kwSuper), ("this", kwThis), ("true", kwTrue), ("while", kwWhile)]

/-- The kind of a reserved word; case counts. -/
def ofReserved? (word : String) : Option Kind :=
  reserved.lookup word

theorem mem_reserved_of_ofReserved? {word : String} {kind : Kind}
    (found : ofReserved? word = some kind) : (word, kind) ∈ reserved := by
  obtain ⟨front, back, split, -⟩ := List.lookup_eq_some_iff.mp found
  simp [split]

/-- The mark of one character. -/
def ofMark? : Char → Option Kind
  | '(' => some leftParen
  | ')' => some rightParen
  | '\x7b' => some leftBrace
  | '\x7d' => some rightBrace
  | ',' => some comma
  | '.' => some dot
  | '-' => some minus
  | '+' => some plus
  | ';' => some semicolon
  | '/' => some slash
  | '*' => some star
  | '?' => some question
  | ':' => some colon
  | '!' => some bang
  | '=' => some equal
  | '>' => some greater
  | '<' => some less
  | _ => none

/-- The mark of two characters. The second is always an equals sign. -/
def ofMarkPair? : Char → Char → Option Kind
  | '!', '=' => some bangEqual
  | '=', '=' => some equalEqual
  | '<', '=' => some lessEqual
  | '>', '=' => some greaterEqual
  | _, _ => none

end Kind
end Lox.Token
