import Lox.Program.Parse
import Lox.Run.Evaluate
import Lox.Text.Utf8
import Lox.Token.Scan

/-!
# Sessions

A session runs sources one after another in one global scope. A source with any error in its text is
not run at all.
-/

namespace Lox

/-- The program that a source spells, or all that is wrong with it: lexical errors first. -/
def compile (source : String) : Except (List Diagnostic) (List Stmt) :=
  let scan := Token.scan source
  let program := Program.parse scan.tokens
  if scan.errors.isEmpty && program.errors.isEmpty then .ok program.statements
  else .error (scan.errors.map (·.diagnostic) ++ program.errors.map (·.diagnostic))

/-- What became of a source. -/
inductive Outcome where
  | completed
  /-- Nothing was run. -/
  | rejected (diagnostics : List Diagnostic)
  /-- The run stopped at an error. What it did before stands. -/
  | failed (diagnostic : Diagnostic)
  /-- The run was cut short. -/
  | outOfFuel
  deriving DecidableEq, Repr

namespace Outcome

def diagnostics : Outcome → List Diagnostic
  | rejected diagnostics => diagnostics
  | failed diagnostic => [diagnostic]
  | completed | outOfFuel => []

/-- The exit code of a process that ran one source. -/
def exitCode : Outcome → Nat
  | completed => 0
  | rejected _ => 65
  | failed _ | outOfFuel => 70

def isSuccess : Outcome → Bool
  | completed => true
  | _ => false

end Outcome

structure Session where
  machine : Machine

namespace Session

def start (sink : Sink) (clock : Nat → Number) : Session :=
  ⟨.fresh sink clock⟩

/-- All that was printed so far. -/
def output (session : Session) : ByteArray :=
  session.machine.sink.written

/-- Runs a source. In echo mode the values of its top-level expression statements are printed. -/
def run (session : Session) (echo : Bool) (fuel : Nat) (source : String) : Outcome × Session :=
  match compile source with
  | .error diagnostics => (.rejected diagnostics, session)
  | .ok program =>
    match Run.runProgram echo fuel program session.machine with
    | .ok _ machine => (.completed, ⟨machine⟩)
    | .error (.error error) machine => (.failed error.diagnostic, ⟨machine⟩)
    | .error .outOfFuel machine => (.outOfFuel, ⟨machine⟩)

end Session

/-- Runs a source in a session of its own, and gives the text it printed. -/
def runAlone (clock : Nat → Number) (fuel : Nat) (source : String) : Outcome × String :=
  let (outcome, session) := (Session.start .unlimited clock).run false fuel source
  (outcome, Text.decodeRepaired session.output)

end Lox
