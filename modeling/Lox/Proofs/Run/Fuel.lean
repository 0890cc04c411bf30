import Lox.Proofs.Control.Step
import Lox.Run.Evaluate

/-!
# More fuel

A run that finished would have done the same with more fuel. So how a statement ends, if it ends,
does not depend on the fuel, and is said without it: `EndsWith`.
-/

namespace Lox.Run

variable {α β : Type}

/-- The run gave a result or stopped at an error of the program. -/
def Finished : EStateM.Result Halt Machine α → Prop
  | .error .outOfFuel _ => False
  | _ => True

instance (result : EStateM.Result Halt Machine α) : Decidable (Finished result) :=
  match result with
  | .ok _ _ => isTrue trivial
  | .error (.error _) _ => isTrue trivial
  | .error .outOfFuel _ => isFalse id

/-- The other run does what the run does wherever that finishes. -/
def Extends (run other : Run α) : Prop :=
  ∀ machine, Finished (run machine) → other machine = run machine

theorem finished_of_bind {run : Run α} {next : α → Run β} {machine : Machine}
    (finished : Finished ((run >>= next) machine)) : Finished (run machine) := by
  cases result : run machine with
  | ok a after => trivial
  | error halt after =>
    rw [run_bind_error result] at finished
    cases halt <;> exact finished

theorem finished_inScope {scope : ScopeId} {run : Run α} {machine : Machine} :
    Finished (inScope scope run machine) ↔ Finished (run { machine with scope }) := by
  unfold inScope
  cases run { machine with scope } with
  | ok a after => exact Iff.rfl
  | error halt after => cases halt <;> exact Iff.rfl

namespace Extends

theorem refl (run : Run α) : Extends run run :=
  fun _ _ => rfl

theorem outOfFuel (other : Run α) : Extends (throw .outOfFuel) other :=
  fun _ finished => finished.elim

theorem bind {run other : Run α} {next nextOther : α → Run β} (first : Extends run other)
    (second : ∀ a, Extends (next a) (nextOther a)) :
    Extends (run >>= next) (other >>= nextOther) := by
  intro machine finished
  have same := first machine (finished_of_bind finished)
  cases result : run machine with
  | ok a after =>
    rw [result] at same
    rw [run_bind_ok result] at finished ⊢
    rw [run_bind_ok same]
    exact second a after finished
  | error halt after =>
    rw [result] at same
    rw [run_bind_error result, run_bind_error same]

theorem inScope {run other : Run α} (further : Extends run other) (scope : ScopeId) :
    Extends (Run.inScope scope run) (Run.inScope scope other) := by
  intro machine finished
  have same := further _ (finished_inScope.mp finished)
  unfold Run.inScope
  rw [same]

end Extends

/-- More fuel extends the runs of all trees. -/
structure Extending (fuel more : Nat) : Prop where
  evaluate : ∀ expr, Extends (Run.evaluate fuel expr) (Run.evaluate more expr)
  evaluateAll : ∀ exprs, Extends (Run.evaluateAll fuel exprs) (Run.evaluateAll more exprs)
  invoke : ∀ callable arguments,
    Extends (Run.invoke fuel callable arguments) (Run.invoke more callable arguments)
  execute : ∀ stmt, Extends (Run.execute fuel stmt) (Run.execute more stmt)
  evaluateOr : ∀ expr?, Extends (Run.evaluateOr fuel expr?) (Run.evaluateOr more expr?)
  executeAll : ∀ stmts, Extends (Run.executeAll fuel stmts) (Run.executeAll more stmts)
  executeLoop : ∀ condition body increment,
    Extends (Run.executeLoop fuel condition body increment)
      (Run.executeLoop more condition body increment)

section

variable {fuel more : Nat} (extending : Extending fuel more)

include extending

theorem extends_evaluate (expr : Expr) :
    Extends (evaluate (fuel + 1) expr) (evaluate (more + 1) expr) := by
  cases expr with
  | assign name value => exact (extending.evaluate value).bind fun _ => .refl _
  | unary op operator operand => exact (extending.evaluate operand).bind fun _ => .refl _
  | binary op operator left right =>
    exact (extending.evaluate left).bind fun _ => (extending.evaluate right).bind fun _ => .refl _
  | logical op operator left right =>
    refine (extending.evaluate left).bind fun value => ?_
    split
    · exact .refl _
    · exact extending.evaluate right
  | comma operator left right =>
    exact (extending.evaluate left).bind fun _ => extending.evaluate right
  | conditional condition yes no =>
    refine (extending.evaluate condition).bind fun value => ?_
    split
    · exact extending.evaluate yes
    · exact extending.evaluate no
  | grouping inner => exact extending.evaluate inner
  | call callee paren arguments =>
    refine (extending.evaluate callee).bind fun function => ?_
    refine (extending.evaluateAll arguments).bind fun values => ?_
    cases function with
    | callable callable =>
      simp only
      split
      · exact extending.invoke callable values
      · exact .refl _
    | _ => exact .refl _
  | _ => exact .refl _

theorem extends_evaluateAll (exprs : List Expr) :
    Extends (evaluateAll (fuel + 1) exprs) (evaluateAll (more + 1) exprs) := by
  cases exprs with
  | nil => exact .refl _
  | cons expr rest =>
    exact (extending.evaluate expr).bind fun _ =>
      (extending.evaluateAll rest).bind fun _ => .refl _

theorem extends_evaluateOr (expr? : Option Expr) :
    Extends (evaluateOr (fuel + 1) expr?) (evaluateOr (more + 1) expr?) := by
  cases expr? with
  | none => exact .refl _
  | some expr => exact extending.evaluate expr

theorem extends_invoke (callable : Callable) (arguments : List Value) :
    Extends (invoke (fuel + 1) callable arguments) (invoke (more + 1) callable arguments) := by
  obtain ⟨identity, action⟩ := callable
  cases action with
  | native native arity => exact .refl _
  | closure name routine scope =>
    refine (Extends.refl _).bind fun inner => ?_
    exact ((extending.executeAll routine.body).inScope inner).bind fun _ => .refl _

theorem extends_execute (stmt : Stmt) :
    Extends (execute (fuel + 1) stmt) (execute (more + 1) stmt) := by
  cases stmt with
  | expression value => exact (extending.evaluate value).bind fun _ => .refl _
  | print value => exact (extending.evaluate value).bind fun _ => .refl _
  | define name initializer => exact (extending.evaluateOr initializer).bind fun _ => .refl _
  | block body =>
    refine (Extends.refl _).bind fun machine => (Extends.refl _).bind fun inner => ?_
    exact (extending.executeAll body).inScope inner
  | branch condition yes no =>
    refine (extending.evaluate condition).bind fun value => ?_
    split
    · exact extending.execute yes
    · cases no with
      | some no => exact extending.execute no
      | none => exact .refl _
  | loop condition body increment => exact extending.executeLoop condition body increment
  | giveBack keyword value => exact (extending.evaluateOr value).bind fun _ => .refl _
  | _ => exact .refl _

theorem extends_executeAll (stmts : List Stmt) :
    Extends (executeAll (fuel + 1) stmts) (executeAll (more + 1) stmts) := by
  cases stmts with
  | nil => exact .refl _
  | cons stmt rest =>
    refine (extending.execute stmt).bind fun completion => ?_
    cases completion with
    | normal => exact extending.executeAll rest
    | _ => exact .refl _

theorem extends_executeLoop (condition : Expr) (body : Stmt) (increment : Option Expr) :
    Extends (executeLoop (fuel + 1) condition body increment)
      (executeLoop (more + 1) condition body increment) := by
  have again : Extends
      (do let _ ← evaluateOr fuel increment; executeLoop fuel condition body increment)
      (do let _ ← evaluateOr more increment; executeLoop more condition body increment) :=
    (extending.evaluateOr increment).bind fun _ => extending.executeLoop condition body increment
  refine (extending.evaluate condition).bind fun value => ?_
  split
  · refine (extending.execute body).bind fun completion => ?_
    cases completion with
    | normal => exact again
    | continued => exact again
    | _ => exact .refl _
  · exact .refl _

end

/-- The induction over the fuel. -/
theorem extending {fuel more : Nat} (atMost : fuel ≤ more) : Extending fuel more := by
  induction fuel generalizing more with
  | zero => constructor <;> intros <;> exact .outOfFuel _
  | succ fuel ih =>
    obtain ⟨further, rfl⟩ : ∃ further, more = further + 1 := ⟨more - 1, by omega⟩
    have smaller := ih (show fuel ≤ further by omega)
    exact {
      evaluate := extends_evaluate smaller
      evaluateAll := extends_evaluateAll smaller
      invoke := extends_invoke smaller
      execute := extends_execute smaller
      evaluateOr := extends_evaluateOr smaller
      executeAll := extends_executeAll smaller
      executeLoop := extends_executeLoop smaller }

/-- With enough fuel, the statement ends so. -/
def EndsWith (stmt : Stmt) (before : Machine) (result : EStateM.Result Halt Machine Completion) :
    Prop :=
  Finished result ∧ ∃ fuel, execute fuel stmt before = result

/-- A statement ends in one way. -/
theorem EndsWith.unique {stmt : Stmt} {before : Machine}
    {result other : EStateM.Result Halt Machine Completion}
    (ends : EndsWith stmt before result) (endsToo : EndsWith stmt before other) :
    other = result := by
  obtain ⟨finished, fuel, rfl⟩ := ends
  obtain ⟨finishedToo, more, rfl⟩ := endsToo
  rcases Nat.le_total fuel more with fewer | fewer
  · exact (extending fewer).execute stmt before finished
  · exact ((extending fewer).execute stmt before finishedToo).symm

end Lox.Run
