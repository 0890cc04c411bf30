import Lox.Run.Evaluate

/-!
# Recorded runs

A run in which each evaluation of a function form, a declaration or an expression, is written on a
tape, with the store in which it took place. Nothing that the run does depends on the tape.
-/

namespace Lox

/-- The making of one callable value. -/
structure Making where
  before : Store
  action : Action

def Making.made (making : Making) : Callable :=
  (making.before.newCallable making.action).1

/-- A machine, and all that was made so far, in order. -/
structure Tape where
  machine : Machine
  makings : List Making

/-- A run that gives an `α` and is recorded. -/
abbrev Recorded := EStateM Halt Tape

namespace Recorded

variable {α : Type}

/-- A step that makes no callable value. -/
def plain (run : Run α) : Recorded α := fun tape =>
  match run tape.machine with
  | .ok a machine => .ok a { tape with machine }
  | .error halt machine => .error halt { tape with machine }

/-- Makes a function in the current scope, and writes it down. -/
def newClosure (name : Option String) (routine : Routine) : Recorded Value := fun tape =>
  let making : Making := ⟨tape.machine.store, .closure name routine tape.machine.scope⟩
  plain (Run.newClosure name routine) { tape with makings := tape.makings ++ [making] }

/-- Runs in another scope and comes back to the current one, however the run ends. -/
def inScope (scope : ScopeId) (run : Recorded α) : Recorded α := fun tape =>
  let current := tape.machine.scope
  match run { tape with machine := { tape.machine with scope } } with
  | .ok a after => .ok a { after with machine := { after.machine with scope := current } }
  | .error halt after =>
    .error halt { after with machine := { after.machine with scope := current } }

/-- The observer who writes down each function that is made. -/
def observer : Run.Observer Recorded where
  step := plain
  inScope := inScope
  newClosure := newClosure
  complete _ run := run

def evaluate (fuel : Nat) (expr : Expr) : Recorded Value :=
  observer.evaluate fuel expr

def runProgram (echo : Bool) (fuel : Nat) (program : List Stmt) : Recorded Unit :=
  observer.runProgram echo fuel program

/-- The tape behind a run, however it ended. -/
def left : EStateM.Result Halt Tape α → Tape
  | .ok _ tape | .error _ tape => tape

end Recorded
end Lox
