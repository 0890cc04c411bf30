import Lox.Text.Span

/-!
# Diagnostics

What is reported of a failed run. Errors found before anything ran are syntax diagnostics, whether a
character or a token is at fault; the error that stopped a run is a runtime diagnostic.
-/

namespace Lox

inductive Diagnostic.Kind where
  | beforeRun | duringRun
  deriving DecidableEq, Repr, Inhabited

structure Diagnostic where
  kind : Diagnostic.Kind
  message : String
  line : Nat
  location : Option String
  span : Span
  deriving DecidableEq, Repr, Inhabited

namespace Diagnostic

/-- The one line that names a diagnostic. A runtime diagnostic shows no location. -/
def headline (d : Diagnostic) : String :=
  match d.kind, d.location with
  | .beforeRun, some location =>
    "[line: " ++ toString d.line ++ " Error " ++ location ++ ": " ++ d.message ++ "]"
  | .beforeRun, none => "[line: " ++ toString d.line ++ " Error: " ++ d.message ++ "]"
  | .duringRun, _ => d.message ++ " [line:" ++ toString d.line ++ "]"

end Diagnostic
end Lox
