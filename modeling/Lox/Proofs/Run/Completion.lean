import Lox.Proofs.Run.Formation
import Lox.Session

/-!
# How statements complete

A watcher is shown each completion of a loop, of the body of a routine and of a statement at the top
of a program, and may pass it on, change it, change the machine, or stop the run. A well-formed
statement completes as its place allows. So a watcher who passes on what is allowed never sees
anything else, and changes nothing: not in the run of a program, and not in any call made on the
way.
-/

namespace Lox

open Grammar

variable {known : Token → Prop}

namespace Run

/-- What is done with each completion. -/
abbrev Watch := Site → Completion → Run Completion

/-- The watcher who passes everything on. -/
def Watch.idle : Watch := fun _ completion => pure completion

def Watch.observer (watch : Watch) : Observer Run where
  step run := run
  inScope := Run.inScope
  newClosure := Run.newClosure
  complete site run := run >>= watch site

/-- The completions that may arrive at a site. -/
def Site.Allows : Site → Completion → Prop
  | _, .normal => True
  | .loop, .returned _ | .body, .returned _ => True
  | _, _ => False

/-- A watcher who passes on all that is allowed, and does as it likes with the rest. -/
def Watch.Patient (watch : Watch) : Prop :=
  ∀ site completion, site.Allows completion → watch site completion = pure completion

/-- Outside of loops nothing breaks, and outside of routines nothing returns. -/
theorem Site.allows_of_formedAt {site : Site} {place : Place} {completion : Completion}
    (completed : completion.FormedAt known place) (noLoop : place.inLoop = false)
    (noRoutine : site = .top → place.inFunction = false) : site.Allows completion := by
  cases completion <;> cases site <;> simp_all [Completion.FormedAt, Site.Allows]

theorem Agree.watch {watch : Watch} (patient : watch.Patient) (site : Site)
    {run other : Run Completion} {post : Completion → Prop} (agree : Agree known run other post)
    (allowed : ∀ completion, post completion → site.Allows completion) :
    Agree known run (other >>= watch site) post := by
  have passed : Agree known (run >>= Pure.pure) (other >>= watch site) post := by
    refine agree.bind fun completion holds => ?_
    rw [patient site completion (allowed completion holds)]
    exact .pure holds
  rwa [bind_pure] at passed

/-- Runs and watched runs agree on trees that are well-formed. -/
structure Agrees (known : Token → Prop) (watch : Watch) (fuel : Nat) : Prop where
  evaluate : ∀ {expr}, Expr.Formed known expr →
    Agree known (Run.evaluate fuel expr) (watch.observer.evaluate fuel expr) (Value.Formed known)
  evaluateAll : ∀ {exprs}, (∀ expr ∈ exprs, Expr.Formed known expr) →
    Agree known (Run.evaluateAll fuel exprs) (watch.observer.evaluateAll fuel exprs)
      fun values => ∀ value ∈ values, value.Formed known
  invoke : ∀ {callable arguments}, callable.action.Formed known →
    (∀ value ∈ arguments, Value.Formed known value) →
    Agree known (Run.invoke fuel callable arguments) (watch.observer.invoke fuel callable arguments)
      (Value.Formed known)
  execute : ∀ {place stmt}, Stmt.Formed known place stmt →
    Agree known (Run.execute fuel stmt) (watch.observer.execute fuel stmt)
      (Completion.FormedAt known place)
  evaluateOr : ∀ {expr?}, (∀ expr ∈ expr?, Expr.Formed known expr) →
    Agree known (Run.evaluateOr fuel expr?) (watch.observer.evaluateOr fuel expr?)
      (Value.Formed known)
  executeAll : ∀ {place stmts}, (∀ stmt ∈ stmts, Stmt.Formed known place stmt) →
    Agree known (Run.executeAll fuel stmts) (watch.observer.executeAll fuel stmts)
      (Completion.FormedAt known place)
  executeLoop : ∀ {place condition body increment}, Expr.Formed known condition →
    Stmt.Formed known (Place.loopBody place) body →
    (∀ expr ∈ increment, Expr.Formed known expr) →
    Agree known (Run.executeLoop fuel condition body increment)
      (watch.observer.executeLoop fuel condition body increment)
      (Completion.FormedAt known { place with inLoop := false })

section

variable {watch : Watch} {fuel : Nat} (agrees : Agrees known watch fuel)

include agrees

theorem agree_evaluate {expr : Expr} (formed : expr.Formed known) :
    Agree known (Run.evaluate (fuel + 1) expr) (watch.observer.evaluate (fuel + 1) expr)
      (Value.Formed known) := by
  cases formed with
  | literal value => exact .pure (Value.formed_iff_carries.mpr (Value.carries_ofLiteral value))
  | var named => exact .lookup named
  | assign named assigned =>
    exact (agrees.evaluate assigned).bind fun value bound =>
      (Agree.assign named bound).bind fun _ _ => .pure bound
  | unary operates inner =>
    exact (agrees.evaluate inner).bind fun _ _ =>
      .ofOperator operates fun _ applied =>
        Value.formed_iff_carries.mpr (UnaryOp.carries_apply applied)
  | binary operates first second =>
    exact (agrees.evaluate first).bind fun _ _ => (agrees.evaluate second).bind fun _ _ =>
      .ofOperator operates fun _ applied =>
        Value.formed_iff_carries.mpr (BinaryOp.carries_apply applied)
  | logical _ first second =>
    refine (agrees.evaluate first).bind fun left formed => ?_
    split
    · exact .pure formed
    · exact agrees.evaluate second
  | comma _ first second => exact (agrees.evaluate first).bind fun _ _ => agrees.evaluate second
  | conditional tested chosen other =>
    refine (agrees.evaluate tested).bind fun condition _ => ?_
    split
    · exact agrees.evaluate chosen
    · exact agrees.evaluate other
  | grouping grouped => exact agrees.evaluate grouped
  | call called closes given =>
    refine (agrees.evaluate called).bind fun callee function => ?_
    refine (agrees.evaluateAll given).bind fun values formed => ?_
    cases callee with
    | callable callable =>
      simp only
      split
      · exact agrees.invoke function formed
      · exact .fail closes _
    | _ => exact .fail closes _
  | lambda does => exact .newClosure does none
  | get _ named => exact .fail named _
  | set _ named => exact .fail named _
  | self isSelf => exact .fail isSelf _
  | super isSuper => exact .fail isSuper _

theorem agree_evaluateAll {exprs : List Expr} (formed : ∀ expr ∈ exprs, expr.Formed known) :
    Agree known (Run.evaluateAll (fuel + 1) exprs) (watch.observer.evaluateAll (fuel + 1) exprs)
      fun values => ∀ value ∈ values, value.Formed known := by
  cases exprs with
  | nil => exact .pure fun _ absurd => nomatch absurd
  | cons expr rest =>
    rw [List.forall_mem_cons] at formed
    exact (agrees.evaluate formed.1).bind fun value first =>
      (agrees.evaluateAll formed.2).bind fun values others =>
        .pure (List.forall_mem_cons.mpr ⟨first, others⟩)

theorem agree_evaluateOr {expr? : Option Expr} (formed : ∀ expr ∈ expr?, expr.Formed known) :
    Agree known (Run.evaluateOr (fuel + 1) expr?) (watch.observer.evaluateOr (fuel + 1) expr?)
      (Value.Formed known) := by
  cases expr? with
  | none => exact .pure trivial
  | some expr => exact agrees.evaluate (formed expr rfl)

theorem agree_executeAll {place : Place} {stmts : List Stmt}
    (formed : ∀ stmt ∈ stmts, Stmt.Formed known place stmt) :
    Agree known (Run.executeAll (fuel + 1) stmts) (watch.observer.executeAll (fuel + 1) stmts)
      (Completion.FormedAt known place) := by
  cases stmts with
  | nil => exact .pure trivial
  | cons stmt rest =>
    rw [List.forall_mem_cons] at formed
    refine (agrees.execute formed.1).bind fun completion completed => ?_
    cases completion with
    | normal => exact agrees.executeAll formed.2
    | _ => exact .pure completed

/-- A loop takes the jumps of its body, and passes on only what returns. -/
theorem agree_executeLoop {place : Place} {condition : Expr} {body : Stmt}
    {increment : Option Expr} (tested : condition.Formed known)
    (repeated : Stmt.Formed known place.loopBody body)
    (advances : ∀ expr ∈ increment, Expr.Formed known expr) :
    Agree known (Run.executeLoop (fuel + 1) condition body increment)
      (watch.observer.executeLoop (fuel + 1) condition body increment)
      (Completion.FormedAt known { place with inLoop := false }) := by
  have again := agrees.executeLoop tested repeated advances
  refine (agrees.evaluate tested).bind fun value _ => ?_
  split
  · refine (agrees.execute repeated).bind fun completion completed => ?_
    cases completion with
    | broke => exact .pure trivial
    | returned value => exact .pure completed
    | normal => exact (agrees.evaluateOr advances).bind fun _ _ => again
    | continued => exact (agrees.evaluateOr advances).bind fun _ _ => again
  · exact .pure trivial

theorem agree_invoke (patient : watch.Patient) {callable : Callable} {arguments : List Value}
    (function : callable.action.Formed known)
    (given : ∀ value ∈ arguments, Value.Formed known value) :
    Agree known (Run.invoke (fuel + 1) callable arguments)
      (watch.observer.invoke (fuel + 1) callable arguments) (Value.Formed known) := by
  obtain ⟨identity, action⟩ := callable
  cases action with
  | native native arity =>
    cases native
    exact .readClock
  | closure name routine scope =>
    cases function with
    | @mk params body does =>
    have bound : ∀ binding ∈ (params.map (·.lexeme)).zip arguments, binding.2.Formed known :=
      fun binding member => given _ (List.of_mem_zip member).2
    refine (Agree.newScope bound scope).bind fun inner _ => ?_
    have watched := ((agrees.executeAll does).inScope inner).watch patient .body
      fun _ completed => Site.allows_of_formedAt completed rfl (by simp)
    refine watched.bind fun completion completed => ?_
    cases completion with
    | returned value => exact .pure completed.2
    | _ => exact .pure trivial

theorem agree_execute (patient : watch.Patient) {place : Place} {stmt : Stmt}
    (formed : Stmt.Formed known place stmt) :
    Agree known (Run.execute (fuel + 1) stmt) (watch.observer.execute (fuel + 1) stmt)
      (Completion.FormedAt known place) := by
  cases formed with
  | expression evaluated => exact (agrees.evaluate evaluated).bind fun _ _ => .pure trivial
  | print printed =>
    exact (agrees.evaluate printed).bind fun value _ =>
      (Agree.print value).bind fun _ _ => .pure trivial
  | define _ initial =>
    exact (agrees.evaluateOr initial).bind fun _ bound =>
      (Agree.define bound _).bind fun _ _ => .pure trivial
  | block inside =>
    refine Agree.bind (.of_ends fun _ formed => ⟨formed, trivial⟩) fun machine (_ : True) => ?_
    exact (Agree.newScope (List.forall_mem_nil _) _).bind fun inner _ =>
      (agrees.executeAll inside).inScope inner
  | branch tested chosen other =>
    refine (agrees.evaluate tested).bind fun value _ => ?_
    split
    · exact agrees.execute chosen
    · split
      · exact agrees.execute (other _ rfl)
      · exact .pure trivial
  | loop tested repeated advances =>
    have looped := agrees.executeLoop tested repeated advances
    refine (looped.watch patient .loop fun _ completed => ?_).mono fun completion completed => ?_
    · exact Site.allows_of_formedAt completed rfl (by simp)
    · cases completion <;> simp_all [Completion.FormedAt]
  | breakLoop _ allowed => exact .pure allowed
  | continueLoop _ allowed => exact .pure allowed
  | function _ does =>
    exact (Agree.newClosure does _).bind fun _ bound =>
      (Agree.define bound _).bind fun _ _ => .pure trivial
  | giveBack _ allowed given =>
    exact (agrees.evaluateOr given).bind fun _ formed => .pure ⟨allowed, formed⟩
  | classDecl named => exact .fail named _

end

/-- The induction over the fuel. -/
theorem agrees {watch : Watch} (patient : watch.Patient) (fuel : Nat) :
    Agrees known watch fuel := by
  induction fuel with
  | zero => constructor <;> intros <;> exact .outOfFuel
  | succ fuel ih =>
    exact {
      evaluate := agree_evaluate ih
      evaluateAll := agree_evaluateAll ih
      invoke := agree_invoke ih patient
      execute := agree_execute ih patient
      evaluateOr := agree_evaluateOr ih
      executeAll := agree_executeAll ih
      executeLoop := agree_executeLoop ih }

/-- A loop, whatever its body, is left normally or by a return. -/
theorem executeLoop_completion {fuel : Nat} {condition : Expr} {body : Stmt}
    {increment : Option Expr} {machine after : Machine} {completion : Completion}
    (run : executeLoop fuel condition body increment machine = .ok completion after) :
    completion ≠ .broke ∧ completion ≠ .continued := by
  induction fuel generalizing machine with
  | zero => cases run
  | succ fuel ih =>
    obtain ⟨value, tested, -, rest⟩ := run_bind_eq_ok run
    split at rest
    · obtain ⟨ended, executed, -, rest⟩ := run_bind_eq_ok rest
      cases ended with
      | broke | returned _ => cases rest; simp
      | normal | continued =>
        obtain ⟨_, advanced, -, again⟩ := run_bind_eq_ok rest
        exact ih again
    · cases rest
      simp

/-! ## Programs -/

theorem agree_executeTop {watch : Watch} (patient : watch.Patient) (echo : Bool) (fuel : Nat)
    {stmt : Stmt} (formed : Stmt.Formed known .top stmt) :
    Agree known (executeTop echo fuel stmt) (watch.observer.executeTop echo fuel stmt)
      fun _ => True := by
  have plain : Agree known (discard (execute fuel stmt))
      (discard (watch.observer.execute fuel stmt >>= watch .top)) fun _ => True := by
    have watched := ((agrees patient fuel).execute formed).watch patient .top
      fun _ completed => Site.allows_of_formedAt completed rfl fun _ => rfl
    rw [discard_eq_bind, discard_eq_bind]
    exact watched.bind fun _ _ => .pure trivial
  cases echo with
  | false => exact plain
  | true =>
    cases formed with
    | expression evaluated =>
      exact ((agrees patient fuel).evaluate evaluated).bind fun value _ => .print value
    | _ => exact plain

theorem agree_forM {step watched : Stmt → Run Unit} {program : List Stmt}
    (each : ∀ stmt ∈ program, Agree known (step stmt) (watched stmt) fun _ => True) :
    Agree known (program.forM step) (program.forM watched) fun _ => True := by
  induction program with
  | nil => exact .pure trivial
  | cons stmt rest ih =>
    rw [List.forall_mem_cons] at each
    exact each.1.bind fun _ _ => ih each.2

theorem agree_runProgram {watch : Watch} (patient : watch.Patient) (echo : Bool) (fuel : Nat)
    {program : List Stmt} (formed : ∀ stmt ∈ program, Stmt.Formed known .top stmt) :
    Agree known (runProgram echo fuel program) (watch.observer.runProgram echo fuel program)
      fun _ => True := by
  have outermost : Agree known
      (modify fun machine => { machine with scope := machine.globals })
      (modify fun machine => { machine with scope := machine.globals }) fun _ => True :=
    .of_ends fun _ formed => ⟨formed, trivial⟩
  exact outermost.bind fun _ _ =>
    (agree_forM fun stmt member => agree_executeTop patient echo fuel (formed stmt member)).bind
      fun _ _ => .flush

end Run
end Lox
