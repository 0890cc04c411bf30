import Mathlib.Data.List.Basic
import Lox.Proofs.Run.Scoping
import Lox.Proofs.Session.Formation

/-!
# The current scope

Every run comes back to the scope in which it started, however it ends. So between two sources a
session always stands in its global scope, and to go there before a source is run changes nothing.
A call does not look at the scope of its caller at all.
-/

namespace Lox

open Run

namespace Run

variable {α : Type}

/-- A result whose machine stands in the given scope. -/
def inScopeOf (scope : ScopeId) :
    EStateM.Result Halt Machine α → EStateM.Result Halt Machine α
  | .ok a machine => .ok a { machine with scope }
  | .error halt machine => .error halt { machine with scope }

theorem left_evaluate_scope (fuel : Nat) (expr : Expr) (machine : Machine) :
    (left (evaluate fuel expr machine)).scope = machine.scope := by
  have kept := (keeping _ fuel).evaluate (spares_nothing expr.assigned)
  exact (kept machine machine.store.carries_spares_nothing).1.scope

theorem left_execute_scope (fuel : Nat) (stmt : Stmt) (machine : Machine) :
    (left (execute fuel stmt machine)).scope = machine.scope := by
  have kept := (keeping _ fuel).execute (spares_nothing stmt.assigned)
  exact (kept machine machine.store.carries_spares_nothing).1.scope

/-! ## Runs that do not look at the current scope -/

/-- From whichever scope it starts, the run does the same and comes back there. -/
def Blind (run : Run α) : Prop :=
  ∀ machine scope, run { machine with scope } = inScopeOf scope (run machine)

theorem Blind.bind {β : Type} {run : Run α} {next : α → Run β} (first : Blind run)
    (second : ∀ a, Blind (next a)) : Blind (run >>= next) := by
  intro machine scope
  have same := first machine scope
  cases result : run machine with
  | ok a after =>
    rw [result] at same
    rw [run_bind_ok result, run_bind_ok same, second a after scope]
  | error halt after =>
    rw [result] at same
    rw [run_bind_error result, run_bind_error same]
    rfl

theorem blind_inScope (inner : ScopeId) (run : Run α) : Blind (inScope inner run) := by
  intro machine scope
  simp only [inScope]
  cases run { machine with scope := inner } <;> rfl

/-- The scope of the caller is put aside before anything of the function runs. -/
theorem blind_invoke (fuel : Nat) (callable : Callable) (arguments : List Value) :
    Blind (invoke fuel callable arguments) := by
  cases fuel with
  | zero => exact fun _ _ => rfl
  | succ fuel =>
    obtain ⟨identity, action⟩ := callable
    cases action with
    | native native arity =>
      cases native
      exact fun _ _ => rfl
    | closure name routine home =>
      have made : Blind (newScope home ((routine.params.map (·.lexeme)).zip arguments)) :=
        fun _ _ => rfl
      refine made.bind fun inner => (blind_inScope inner _).bind fun completion => ?_
      cases completion <;> exact fun _ _ => rfl

/-! ## Programs -/

/-- What a statement at the top of a program, or several of them, leave of a machine. -/
theorem keeps_executeTop (echo : Bool) (fuel : Nat) (stmt : Stmt) :
    Keeps (fun _ => False) true (executeTop echo fuel stmt) fun _ => True := by
  have plain : Keeps (fun _ => False) true (discard (execute fuel stmt)) fun _ => True := by
    rw [discard_eq_bind]
    exact ((keeping _ fuel).execute (spares_nothing _)).bind fun _ _ => .pure trivial
  cases echo with
  | false => exact plain
  | true =>
    cases stmt with
    | expression value =>
      have evaluated := (keeping _ fuel).evaluate (spares_nothing value.assigned)
      exact (evaluated.weaken true).bind fun value _ => .print value
    | _ => exact plain

theorem keeps_forM (echo : Bool) (fuel : Nat) (program : List Stmt) :
    Keeps (fun _ => False) true (program.forM (executeTop echo fuel)) fun _ => True := by
  induction program with
  | nil => exact .pure trivial
  | cons stmt rest ih => exact (keeps_executeTop echo fuel stmt).bind fun _ _ => ih

/-- A program behind the step into the global scope. -/
def runFromHere (echo : Bool) (fuel : Nat) (program : List Stmt) : Run Unit := do
  program.forM (executeTop echo fuel)
  flush

theorem keeps_runFromHere (echo : Bool) (fuel : Nat) (program : List Stmt) :
    Keeps (fun _ => False) true (runFromHere echo fuel program) fun _ => True :=
  (keeps_forM echo fuel program).bind fun _ _ => .flush

theorem runProgram_eq (echo : Bool) (fuel : Nat) (program : List Stmt) (machine : Machine) :
    runProgram echo fuel program machine =
      runFromHere echo fuel program { machine with scope := machine.globals } :=
  rfl

/-- From the global scope, the step into it changes nothing. -/
theorem runProgram_of_outside {machine : Machine} (outside : machine.scope = machine.globals)
    (echo : Bool) (fuel : Nat) (program : List Stmt) :
    runProgram echo fuel program machine = runFromHere echo fuel program machine := by
  obtain ⟨store, globals, scope, sink, clock, readings⟩ := machine
  cases outside
  rfl

theorem left_runProgram_scope (echo : Bool) (fuel : Nat) (program : List Stmt)
    (machine : Machine) :
    (left (runProgram echo fuel program machine)).scope =
      (left (runProgram echo fuel program machine)).globals := by
  rw [runProgram_eq]
  have kept := (keeps_runFromHere echo fuel program { machine with scope := machine.globals }
    machine.store.carries_spares_nothing).1
  rw [kept.scope, kept.globals]

end Run

namespace Session

theorem run_scope {session : Session} (outside : session.machine.scope = session.machine.globals)
    (echo : Bool) (fuel : Nat) (source : String) :
    (session.run echo fuel source).2.machine.scope =
      (session.run echo fuel source).2.machine.globals := by
  unfold Session.run
  split
  · exact outside
  · next program _ =>
    have back := left_runProgram_scope echo fuel program session.machine
    split <;> next result => rw [result] at back; exact back

theorem runAll_scope {session : Session} (outside : session.machine.scope = session.machine.globals)
    (steps : List Step) :
    (session.runAll steps).2.machine.scope = (session.runAll steps).2.machine.globals := by
  induction steps generalizing session with
  | nil => exact outside
  | cons step rest ih => exact ih (run_scope outside step.echo step.fuel step.source)

end Session

/-- However an expression or a statement ends, the machine is back in the scope in which it was. So
whatever a session has run, it stands in its global scope, and the step into that scope at the start
of the next program changes nothing. And whatever scope a function is called from, the call gives
the same result and leaves the same machine, but for that scope. -/
theorem current_scope_restored :
    (∀ fuel expr machine, (left (evaluate fuel expr machine)).scope = machine.scope) ∧
    (∀ fuel stmt machine, (left (execute fuel stmt machine)).scope = machine.scope) ∧
    (∀ sink clock steps,
      let session := ((Session.start sink clock).runAll steps).2
      session.machine.scope = session.machine.globals ∧
      ∀ echo fuel program, runProgram echo fuel program session.machine =
        runFromHere echo fuel program session.machine) ∧
    ∀ fuel callable arguments machine scope,
      invoke fuel callable arguments { machine with scope } =
        inScopeOf scope (invoke fuel callable arguments machine) := by
  refine ⟨left_evaluate_scope, left_execute_scope, ?_, blind_invoke⟩
  intro sink clock steps session
  have outside : session.machine.scope = session.machine.globals := Session.runAll_scope rfl steps
  exact ⟨outside, runProgram_of_outside outside⟩

end Lox
