import Lox.Diagnostic.Basic
import Lox.Text.Line
import Lox.Token.Gap
import Lox.Token.Lexeme

/-!
# Scanning a source

A source is cut into gaps and lexemes. Where no token begins, one error is recorded and reading goes
on at the next character that begins a token; on the way there comments are not skipped. If the
source ends before such a character, no tokens are kept at all.
-/

namespace Lox.Token

open Lox.Text

/-- A lexeme with the offset of its first byte. -/
structure Piece where
  kind : Kind
  literal : Option Literal
  chars : List Char
  start : Nat
  deriving DecidableEq, Repr

/-- A character at which a token was due and none begins. -/
structure Stray where
  found : Char
  offset : Nat
  deriving DecidableEq, Repr

/-- What is read of a text: its pieces, the strays, and whether reading came to the end of the text
with all strays passed. -/
structure Reading where
  pieces : List Piece
  strays : List Stray
  complete : Bool
  deriving DecidableEq, Repr

namespace Reading

def addPiece (piece : Piece) (reading : Reading) : Reading :=
  { reading with pieces := piece :: reading.pieces }

def addStray (stray : Stray) (reading : Reading) : Reading :=
  { reading with strays := stray :: reading.strays }

end Reading

/-- Skips to the first character that begins a token. -/
def resume? : (text : List Char) → Option (Cut text)
  | [] => none
  | c :: rest =>
    if (Lexeme.read? (c :: rest)).isSome then some (Cut.empty _)
    else (resume? rest).map (·.push c)

/-- Reads a text that begins at byte `start`, right behind a gap. -/
def readFrom (text : List Char) (start : Nat) : Reading :=
  match text with
  | [] => ⟨[], [], true⟩
  | c :: rest =>
    match Lexeme.read? (c :: rest) with
    | some lexeme =>
      let after := gap lexeme.rest
      (readFrom after.rest (start + byteLength lexeme.taken + byteLength after.taken)).addPiece
        ⟨lexeme.kind, lexeme.literal, lexeme.taken, start⟩
    | none =>
      match resume? rest with
      | some skipped =>
        (readFrom skipped.rest (start + c.utf8Size + byteLength skipped.taken)).addStray ⟨c, start⟩
      | none => ⟨[], [⟨c, start⟩], false⟩
termination_by text.length
decreasing_by
  · have := (gap lexeme.rest).rest_length_le
    have := lexeme.rest_length_lt lexeme.nonempty
    omega
  · have := skipped.rest_length_le
    simp only [List.length_cons]; omega

/-- Reads a whole text. -/
def readText (text : List Char) : Reading :=
  let front := gap text
  readFrom front.rest (byteLength front.taken)

/-- A stray character of a source, with the place that is reported for it. -/
structure LexicalError where
  stray : Stray
  line : Nat
  span : Span
  deriving DecidableEq, Repr

namespace LexicalError

/-- A stray quote opens a string that never ends, so the end of the source is at fault. -/
def message (error : LexicalError) : String :=
  if error.stray.found = '"' then "Unterminated string or block comment."
  else "Unexpected character '" ++ String.singleton error.stray.found ++ "'."

def diagnostic (error : LexicalError) : Diagnostic :=
  { kind := .beforeRun
    message := error.message
    line := error.line
    location := none
    span := error.span }

end LexicalError

/-- The place that is reported for a stray in a source of `length` bytes. A comment without an end
that was tried on the way to it is not at fault: its marker is read as two operators. -/
def Stray.locate (index : LineIndex) (length : Nat) (stray : Stray) : LexicalError :=
  let span : Span :=
    if stray.found = '"' then ⟨length, length⟩
    else ⟨stray.offset, stray.offset + stray.found.utf8Size⟩
  { stray, span, line := index.lineOf span.start }

/-- A piece as a token. A string takes the line of its closing quote, all others the line of their
first byte. -/
def Piece.toToken (index : LineIndex) (piece : Piece) : Token :=
  let stop := piece.start + byteLength piece.chars
  { kind := piece.kind
    lexeme := String.ofList piece.chars
    literal := piece.literal
    line := index.lineOf (if piece.kind = .string then stop - 1 else piece.start)
    span := ⟨piece.start, stop⟩ }

/-- The tokens of a source, of which the last marks its end, and its lexical errors. -/
structure Scan where
  tokens : List Token
  errors : List LexicalError
  deriving DecidableEq, Repr

def scan (source : String) : Scan :=
  let text := source.toList
  let index := LineIndex.ofText text
  let length := byteLength text
  let reading := readText text
  let kept := if reading.complete then reading.pieces else []
  { tokens := kept.map (Piece.toToken index) ++ [endOfText index.lineCount length]
    errors := reading.strays.map (Stray.locate index length) }

end Lox.Token
