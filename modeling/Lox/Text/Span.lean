/-!
# Spans

The range of bytes that a token or a diagnostic speaks of.
-/

namespace Lox

/-- The bytes from `start` up to, but not including, `stop`. -/
structure Span where
  start : Nat
  stop : Nat
  deriving DecidableEq, Repr, Inhabited

namespace Span

/-- The span of what has no place in a source. -/
def nowhere : Span := ⟨0, 0⟩

def isNowhere (span : Span) : Bool :=
  span.start = 0 && span.stop = 0

end Span
end Lox
