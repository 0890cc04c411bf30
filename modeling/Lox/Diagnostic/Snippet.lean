import Lox.Diagnostic.Basic
import Lox.Text.Line

/-!
# Showing diagnostics

A diagnostic is shown as its headline and, if it has a place in the source, the line it points into
with carets under the text at fault. A span whose ends cannot both be cut out of the source, in
this order, is not shown.
-/

namespace Lox.Diagnostic

open Lox.Text

/-- How the parts of a shown diagnostic are coloured. -/
structure Style where
  headline : String → String
  frame : String → String
  pointer : String → String

namespace Style

def plain : Style := ⟨id, id, id⟩

/-- Puts a text between a code that sets an attribute of the terminal and one that resets it. -/
def between (set reset : String) (text : String) : String :=
  "\x1b[" ++ set ++ "m" ++ text ++ "\x1b[" ++ reset ++ "m"

def red : String → String := between "31" "39"

def blue : String → String := between "34" "39"

def bold : String → String := between "1" "0"

/-- The headline is red and bold, the frame blue and the pointer red. -/
def colored : Style := ⟨bold ∘ red, blue, red⟩

def ofBool (color : Bool) : Style :=
  if color then colored else plain

end Style

def spaces (count : Nat) : String :=
  String.ofList (List.replicate count ' ')

/-- How many carets stand under a shown line: one for each character of the span that lies on it,
but at least one. -/
def caretCount (line span : List Char) (column : Nat) : Nat :=
  min (max span.length 1) (max (line.length - (column - 1)) 1)

/-- The lines under the headline. -/
def snippet (style : Style) (file : String) (position : Position) (line : List Char)
    (carets : Nat) : String :=
  let number := toString position.line
  let margin := spaces number.length
  let bar := style.frame "|"
  margin ++ style.frame "-->" ++ " " ++ file ++ ":" ++ number ++ ":" ++ toString position.column ++
    "\n" ++
  margin ++ " " ++ bar ++ "\n" ++
  style.frame number ++ " " ++ bar ++ " " ++ String.ofList line ++ "\n" ++
  margin ++ " " ++ bar ++ " " ++ spaces (position.column - 1) ++
    style.pointer (String.ofList (List.replicate carets '^')) ++ "\n"

/-- A diagnostic as it is shown, unless its span cannot be cut out of the source. Without a place
in the source there is only the headline. -/
def render? (style : Style) (source file : String) (d : Diagnostic) : Option String :=
  let text := source.toList
  let headline := style.headline d.headline ++ "\n"
  if d.span.isNowhere || byteLength text < d.span.start then some headline
  else
    let position := positionOf text d.span.start
    match (lines text)[position.line - 1]? with
    | none => some headline
    | some line => do
      let span ← slice? text d.span.start (min d.span.stop (byteLength text))
      return headline ++ snippet style file position line (caretCount line span position.column)

/-- Diagnostics as they are shown, one after another. -/
def renderAll? (style : Style) (source file : String) (diagnostics : List Diagnostic) :
    Option String :=
  String.join <$> diagnostics.mapM (render? style source file)

end Lox.Diagnostic
