import Lox.Run.Machine

/-!
# Observers

A program is run in steps of the machine. An observer says in what kind of runs these steps are
taken, and what is done besides: when a function is made, and when a loop, the body of a routine or
a statement at the top of a program completes. What it sees is no part of the machine.
-/

namespace Lox.Run

/-- Where a completion is observed. -/
inductive Site where
  | loop | body | top

structure Observer (m : Type → Type) where
  /-- Takes a step of which nothing is observed. -/
  step {α : Type} : Run α → m α
  /-- Runs in another scope and comes back to the current one, however the run ends. -/
  inScope {α : Type} : ScopeId → m α → m α
  /-- Makes a function in the current scope. -/
  newClosure : Option String → Routine → m Value
  /-- Runs what completes at a site. -/
  complete : Site → m Completion → m Completion

/-- The observer of a program that is only run. -/
def Observer.idle : Observer Run where
  step run := run
  inScope := Run.inScope
  newClosure := Run.newClosure
  complete _ run := run

end Lox.Run
