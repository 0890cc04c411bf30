/-!
# The print sink

Where a program prints. A sink may take only so many bytes: it keeps the part of a text that still
fits, and from then on refuses every text that is not empty.
-/

namespace Lox

structure Sink where
  /-- How many bytes it takes in all, if there is a limit. -/
  limit : Option Nat
  /-- Whether it can be flushed. -/
  flushes : Bool
  written : ByteArray

namespace Sink

inductive Failure where
  | full | flush
  deriving DecidableEq, Repr

def Failure.message : Failure → String
  | full => "sink full"
  | flush => "flush failed"

/-- A sink that takes everything. -/
def unlimited : Sink := ⟨none, true, .empty⟩

/-- How many of `size` more bytes fit. -/
def room (sink : Sink) (size : Nat) : Nat :=
  match sink.limit with
  | none => size
  | some limit => min size (limit - sink.written.size)

/-- Writes as much of a text as fits, and tells whether that was all of it. -/
def write (sink : Sink) (text : String) : Bool × Sink :=
  let bytes := text.toUTF8
  let fits := sink.room bytes.size
  (fits = bytes.size, { sink with written := sink.written ++ bytes.extract 0 fits })

end Sink
end Lox
