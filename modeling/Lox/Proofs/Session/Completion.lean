import Mathlib
import Lox.Proofs.Session.Formation

/-!
# Jumps stay inside

No `break`, `continue` or `return` of a source that is accepted is seen outside of the loop or the
routine it belongs to: not at the top of a program, not behind a loop, and not where a call looks at
the completion of a body. The last is said of a session with a watcher, who sees the completions of
all bodies called in it.
-/

namespace Lox

open Grammar Run

namespace Session

/-- What becomes of a source whose run ends as given. -/
def settle : EStateM.Result Halt Machine Unit → Outcome × Session
  | .ok _ machine => (.completed, ⟨machine⟩)
  | .error (.error error) machine => (.failed error.diagnostic, ⟨machine⟩)
  | .error .outOfFuel machine => (.outOfFuel, ⟨machine⟩)

/-- Runs a source under a watcher. -/
def runWatched (watch : Watch) (session : Session) (echo : Bool) (fuel : Nat) (source : String) :
    Outcome × Session :=
  match compile source with
  | .error diagnostics => (.rejected diagnostics, session)
  | .ok program => settle (watch.observer.runProgram echo fuel program session.machine)

/-- Runs sources one after another under a watcher. -/
def runAllWatched (watch : Watch) (session : Session) : List Step → List Outcome × Session
  | [] => ([], session)
  | step :: rest =>
    let (outcome, session) := session.runWatched watch step.echo step.fuel step.source
    let (outcomes, session) := session.runAllWatched watch rest
    (outcome :: outcomes, session)

/-- The machines of a session between two sources, and between two statements of a source. -/
inductive Reaches (sink : Sink) (clock : Nat → Number) : Machine → Prop
  | start : Reaches sink clock (Session.start sink clock).machine
  | run {machine : Machine} (reached : Reaches sink clock machine) (echo : Bool) (fuel : Nat)
      (source : String) : Reaches sink clock (Session.run ⟨machine⟩ echo fuel source).2.machine
  | midway {machine middle : Machine} {echo : Bool} {fuel : Nat} {source : String}
      {early late : List Stmt} (reached : Reaches sink clock machine)
      (accepted : compile source = .ok (early ++ late))
      (run : early.forM (executeTop echo fuel) { machine with scope := machine.globals } =
        .ok () middle) : Reaches sink clock middle

theorem runWatched_eq {watch : Watch} (patient : watch.Patient) {session : Session}
    {known : Token → Prop} (formed : session.machine.Formed known) (echo : Bool) (fuel : Nat)
    (source : String) (inside : ∀ token ∈ (Token.scan source).tokens, known token) :
    session.runWatched watch echo fuel source = session.run echo fuel source := by
  unfold runWatched Session.run
  cases accepted : compile source with
  | error diagnostics => rfl
  | ok program =>
    have agree := agree_runProgram patient echo fuel (compile_formed accepted inside)
    exact congrArg settle (agree session.machine formed).1

theorem runAllWatched_eq {watch : Watch} (patient : watch.Patient) (steps : List Step)
    {session : Session} (formed : session.machine.Formed fun _ => True) :
    session.runAllWatched watch steps = session.runAll steps := by
  induction steps generalizing session with
  | nil => rfl
  | cons step rest ih =>
    have same := runWatched_eq patient formed step.echo step.fuel step.source fun _ _ => trivial
    have next := formed_run formed step.echo step.fuel step.source fun _ _ => trivial
    simp only [runAllWatched, runAll, same, ih next]

theorem Reaches.formed {sink : Sink} {clock : Nat → Number} {machine : Machine}
    (reached : Reaches sink clock machine) : machine.Formed fun _ => True := by
  induction reached with
  | start => exact Machine.formed_fresh sink clock
  | run _ echo fuel source ih => exact formed_run ih echo fuel source fun _ _ => trivial
  | @midway machine middle echo fuel source early late _ accepted run ih =>
    have idle : Watch.idle.Patient := fun _ _ _ => rfl
    have formed := compile_formed accepted fun _ _ => trivial
    have agree := agree_forM fun stmt member =>
      agree_executeTop idle echo fuel (formed stmt (List.mem_append_left late member))
    have ends := (agree { machine with scope := machine.globals } ih).2
    rw [run] at ends
    exact ends.1

end Session

/-- The functions of a machine that a session reaches end normally or by a return, from there and in
whatever scope. -/
theorem Session.Reaches.body_completion {sink : Sink} {clock : Nat → Number} {machine : Machine}
    (reached : Reaches sink clock machine) {scope : Scope} (member : scope ∈ machine.store.scopes)
    {name : String} {identity : Nat} {role : Option String} {routine : Routine} {home : ScopeId}
    (bound : (name, .callable ⟨identity, .closure role routine home⟩) ∈ scope.bindings)
    {fuel : Nat} {inner : ScopeId} {completion : Completion} {after : Machine}
    (run : inScope inner (executeAll fuel routine.body) machine = .ok completion after) :
    Site.body.Allows completion := by
  have idle : Watch.idle.Patient := fun _ _ _ => rfl
  have function : routine.Formed fun _ => True := reached.formed scope member _ bound
  cases function with
  | mk does =>
    have ends := (((agrees idle fuel).executeAll does).inScope inner machine reached.formed).2
    rw [run] at ends
    exact Site.allows_of_formedAt ends.2 rfl (by simp)

/-- A statement at the top of an accepted source ends normally, from any machine that a session
reaches; a loop is never left by a jump; and the bodies of functions end normally or by a return.
This is said of the functions that a session holds between statements, and of all that are ever
called in it: a watcher who sees each completion of a body, of a loop and of a statement at the top,
and passes on those that are allowed, has no other to act on, whatever is run. -/
theorem jumps_stay_inside (sink : Sink) (clock : Nat → Number) :
    (∀ machine source program stmt fuel completion after, Session.Reaches sink clock machine →
      compile source = .ok program → stmt ∈ program →
      execute fuel stmt machine = .ok completion after → completion = .normal) ∧
    (∀ fuel condition body increment machine completion after,
      execute fuel (.loop condition body increment) machine = .ok completion after →
      completion ≠ .broke ∧ completion ≠ .continued) ∧
    (∀ (machine : Machine) (scope : Scope) name identity role routine home fuel inner completion
      after, Session.Reaches sink clock machine → scope ∈ machine.store.scopes →
      (name, .callable ⟨identity, .closure role routine home⟩) ∈ scope.bindings →
      inScope inner (executeAll fuel routine.body) machine = .ok completion after →
      completion = .normal ∨ ∃ value, completion = .returned value) ∧
    ∀ watch : Watch, watch.Patient → ∀ steps,
      (Session.start sink clock).runAllWatched watch steps =
        (Session.start sink clock).runAll steps := by
  refine ⟨?_, ?_, ?_, ?_⟩
  · intro machine source program stmt fuel completion after reached accepted member run
    have idle : Watch.idle.Patient := fun _ _ _ => rfl
    have formed := compile_formed accepted (fun _ _ => trivial) stmt member
    have ends := ((agrees idle fuel).execute formed machine reached.formed).2
    rw [run] at ends
    have allowed : Site.top.Allows completion := Site.allows_of_formedAt ends.2 rfl fun _ => rfl
    cases completion with
    | normal => rfl
    | _ => exact allowed.elim
  · intro fuel condition body increment machine completion after run
    cases fuel with
    | zero => cases run
    | succ fuel => exact executeLoop_completion run
  · intro machine scope name identity role routine home fuel inner completion after reached member
      bound run
    have allowed := reached.body_completion member bound run
    cases completion with
    | normal => exact .inl rfl
    | returned value => exact .inr ⟨value, rfl⟩
    | _ => exact allowed.elim
  · intro watch patient steps
    exact Session.runAllWatched_eq patient steps (Machine.formed_fresh sink clock)

/-- The watcher who stops a run at the first completion that is not allowed. -/
def Run.Watch.strict : Watch
  | _, .normal => pure .normal
  | .loop, .returned value | .body, .returned value => pure (.returned value)
  | _, _ => throw .outOfFuel

theorem Run.Watch.strict_patient : Watch.strict.Patient := by
  intro site completion allowed
  cases site <;> cases completion <;> first | rfl | exact allowed.elim

/-- A loop that is left by `break`, in a session and under a strict watcher. -/
theorem jumps_stay_inside_break :
    let clock : Nat → Number := fun _ => .ofNat 0
    let session := Session.start .unlimited clock
    let source := "while (true) break;"
    let keyword : Token := ⟨.kwBreak, "break", none, 1, ⟨13, 18⟩⟩
    let stmt := Stmt.loop (.literal (.bool true)) (.breakLoop keyword) none
    Session.Reaches .unlimited clock session.machine ∧ compile source = .ok [stmt] ∧
      execute 3 stmt session.machine = .ok .normal session.machine ∧
      (∀ fuel completion after, execute fuel stmt session.machine = .ok completion after →
        completion = .normal) ∧
      Watch.strict.Patient ∧
      session.runAllWatched .strict [⟨true, 9, source⟩] = session.runAll [⟨true, 9, source⟩] := by
  intro clock session source keyword stmt
  obtain ⟨top, -, -, watched⟩ := jumps_stay_inside .unlimited clock
  have accepted : compile source = .ok [stmt] := by cbv
  refine ⟨.start, accepted, rfl, ?_, Watch.strict_patient, watched .strict Watch.strict_patient _⟩
  exact fun fuel completion after =>
    top _ source [stmt] stmt fuel completion after .start accepted (List.mem_singleton_self stmt)

end Lox
