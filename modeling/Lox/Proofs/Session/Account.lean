import Lox.Proofs.Run.Account
import Lox.Proofs.Session.Formation

/-!
# The store of a session

Whatever a session has run, and however the runs ended, the links from its scopes lead to the one
global scope, in which the clock is bound. Callable values are told apart by where they were made:
each evaluation of a function form makes a value that is equal to none made before.
-/

namespace Lox

open Recorded

/-- A value of the scopes of the store is callable. -/
def Store.BindsCallable (store : Store) (callable : Callable) : Prop :=
  ∃ scope ∈ store.scopes, ∃ name, (name, Value.callable callable) ∈ scope.bindings

theorem Store.Binds.made {store : Store} {makings : List Making} {callable : Callable}
    (binds : store.Binds (Value.Made makings)) (bound : store.BindsCallable callable) :
    ∃ making ∈ makings, making.made = callable := by
  obtain ⟨scope, member, name, binding⟩ := bound
  exact binds scope member (name, .callable callable) binding

namespace Tape

/-- A fresh machine. Only the native function is made. -/
def fresh (sink : Sink) (clock : Nat → Number) : Tape :=
  ⟨.fresh sink clock, [⟨(Store.empty.newScope none).2, .native .clock 0⟩]⟩

/-- Runs a source as a session does. -/
def run (tape : Tape) (step : Session.Step) : Tape :=
  match compile step.source with
  | .error _ => tape
  | .ok program => left (runProgram step.echo step.fuel program tape)

def runAll (tape : Tape) (steps : List Session.Step) : Tape :=
  steps.foldl run tape

/-- The callable value that was made in the given place. -/
def Records (tape : Tape) (place : Nat) (callable : Callable) : Prop :=
  ∃ making, tape.makings[place]? = some making ∧ making.made = callable

variable {tape : Tape}

theorem accounted_fresh (sink : Sink) (clock : Nat → Number) : (fresh sink clock).Accounted := by
  let native : Making := ⟨(Store.empty.newScope none).2, .native .clock 0⟩
  have first : ∀ {place : Nat} {making : Making}, [native][place]? = some making →
      place = 0 ∧ making = native := by
    intro place making found
    cases place with
    | zero => exact ⟨rfl, (Option.some.inj found).symm⟩
    | succ place => cases found
  refine ⟨⟨?_, ?_⟩, ?_, ?_, rfl, ?_, ?_, ?_, ?_⟩
  · exact fun found _ => (Machine.scope?_fresh found).1
  · intro id scope parent found around
    rw [(Machine.scope?_fresh found).2] at around
    cases around
  · exact Nat.zero_lt_one
  · exact ⟨_, rfl, rfl⟩
  · intro scope member binding bound
    obtain ⟨index, found⟩ := Array.mem_iff_getElem?.mp member
    have here : (Machine.fresh sink clock).store.scope? ⟨index⟩ = some scope := found
    rw [(Machine.scope?_fresh here).2] at bound
    obtain rfl := List.mem_singleton.mp bound
    exact ⟨native, List.mem_singleton.mpr rfl, rfl⟩
  · intro making member home known
    rw [List.mem_singleton.mp member] at known
    cases known
  · intro place making found
    obtain ⟨rfl, rfl⟩ := first found
    rfl
  · intro place making found
    obtain ⟨rfl, rfl⟩ := first found
    intro scope member
    obtain rfl := Array.mem_singleton.mp member
    exact fun _ absurd => nomatch absurd

theorem agree_runProgram (accounted : tape.Accounted) (echo : Bool) (fuel : Nat)
    (program : List Stmt) :
    Agree tape (fun _ _ => True) (runProgram echo fuel program tape)
      (Run.runProgram echo fuel program tape.machine) :=
  accounts_runProgram echo fuel program tape accounted trivial

theorem goes_run (accounted : tape.Accounted) (step : Session.Step) :
    tape.Goes (tape.run step) := by
  unfold run
  split
  · exact .refl accounted
  · next program _ =>
    have agree := agree_runProgram accounted step.echo step.fuel program
    cases result : runProgram step.echo step.fuel program tape with
    | ok done after =>
      rw [result] at agree
      exact agree.2.1
    | error halt after =>
      rw [result] at agree
      exact agree.2.1

/-- The machine of the tape is that of the session. -/
theorem machine_run (accounted : tape.Accounted) (step : Session.Step) :
    (tape.run step).machine =
      ((Session.mk tape.machine).run step.echo step.fuel step.source).2.machine := by
  unfold run Session.run
  cases compile step.source with
  | error diagnostics => rfl
  | ok program =>
    have agree := agree_runProgram accounted step.echo step.fuel program
    cases result : runProgram step.echo step.fuel program tape with
    | ok done after =>
      rw [result] at agree
      simp only [agree.1, left, result]
    | error halt after =>
      rw [result] at agree
      cases halt <;> simp only [agree.1, left, result]

theorem goes_runAll (accounted : tape.Accounted) (steps : List Session.Step) :
    tape.Goes (tape.runAll steps) := by
  induction steps generalizing tape with
  | nil => exact .refl accounted
  | cons step rest ih =>
    have goes := goes_run accounted step
    exact goes.trans (ih goes.accounted)

theorem machine_runAll (accounted : tape.Accounted) (steps : List Session.Step) :
    (tape.runAll steps).machine = ((Session.mk tape.machine).runAll steps).2.machine := by
  induction steps generalizing tape with
  | nil => rfl
  | cons step rest ih =>
    have same := ih (goes_run accounted step).accounted
    rw [machine_run accounted step] at same
    exact same

theorem records_of_made {callable : Callable}
    (made : ∃ making ∈ tape.makings, making.made = callable) :
    ∃ place, tape.Records place callable := by
  obtain ⟨making, member, same⟩ := made
  obtain ⟨place, found⟩ := List.mem_iff_getElem?.mp member
  exact ⟨place, making, found, same⟩

namespace Accounted

variable (accounted : tape.Accounted)

include accounted

theorem identity_eq {place : Nat} {callable : Callable} (records : tape.Records place callable) :
    callable.identity = place := by
  obtain ⟨making, found, rfl⟩ := records
  exact accounted.numbered found

/-- Callable values are equal exactly if they were made in the same place. -/
theorem equal_iff {first second : Nat} {left right : Callable} (one : tape.Records first left)
    (other : tape.Records second right) :
    (Value.callable left).equal (.callable right) = true ↔ first = second := by
  rw [Value.equal, beq_iff_eq, accounted.identity_eq one, accounted.identity_eq other]

/-- What was bound when a value was made had been made before. -/
theorem earlier {place : Nat} {making : Making} {callable : Callable}
    (found : tape.makings[place]? = some making) (bound : making.before.BindsCallable callable) :
    ∃ earlier < place, tape.Records earlier callable := by
  obtain ⟨older, member, same⟩ := (accounted.existing found).made bound
  obtain ⟨earlier, known⟩ := List.mem_iff_getElem?.mp member
  rw [List.getElem?_take] at known
  split at known
  · next before => exact ⟨earlier, before, older, known, same⟩
  · cases known

end Accounted
end Tape

/-- After any sources, however they ended, the links from the current scope, and from the scope of
any function that is bound anywhere, lead to the one global scope, where the clock is bound; so the
clock is found from there, and nothing that is run next can fail to find it. And each callable value
that is bound, or that an expression gives, was made by one evaluation of a function form, or is
native. Two of them are equal exactly if one evaluation made both. What an evaluation makes is equal
to nothing that was bound when it took place. -/
theorem session_store_in_order (sink : Sink) (clock : Nat → Number) (steps : List Session.Step) :
    let machine := ((Session.start sink clock).runAll steps).2.machine
    let tape := (Tape.fresh sink clock).runAll steps
    (machine.globals = (Machine.fresh sink clock).globals ∧
      machine.store.BindsAt machine.globals "clock") ∧
    (∀ id, id = machine.scope ∨
        (∃ callable, machine.store.BindsCallable callable ∧ callable.action.home? = some id) →
      machine.store.LeadsTo machine.globals id ∧ (machine.store.get? id "clock").isSome) ∧
    (∀ echo fuel program token after, Run.runProgram echo fuel program machine ≠
      .error (.error (.blamed (.undefinedVariable "clock") token)) after) ∧
    tape.machine = machine ∧
    (∀ callable, machine.store.BindsCallable callable → ∃ place, tape.Records place callable) ∧
    (∀ fuel expr callable after, Run.evaluate fuel expr machine = .ok (.callable callable) after →
      ∃ place, (left (evaluate fuel expr tape)).Records place callable) ∧
    (∀ first second left right, tape.Records first left → tape.Records second right →
      ((Value.callable left).equal (.callable right) = true ↔ first = second)) ∧
    ∀ place making callable, tape.makings[place]? = some making →
      making.before.BindsCallable callable →
        (∃ earlier < place, tape.Records earlier callable) ∧
        (Value.callable making.made).equal (.callable callable) = false := by
  intro machine tape
  have goes := Tape.goes_runAll (Tape.accounted_fresh sink clock) steps
  have accounted : tape.Accounted := goes.accounted
  have same : tape.machine = machine := Tape.machine_runAll (Tape.accounted_fresh sink clock) steps
  refine ⟨⟨?_, ?_⟩, ?_, ?_, same, ?_, ?_, ?_, ?_⟩
  · exact same ▸ goes.globals
  · exact same ▸ accounted.clock
  · intro id reached
    have has : machine.store.Has id := by
      rcases reached with rfl | ⟨callable, bound, home⟩
      · exact same ▸ accounted.here
      · obtain ⟨making, member, rfl⟩ := accounted.bound.made (same ▸ bound)
        exact same ▸ accounted.homes making member id home
    rw [← same] at has ⊢
    exact ⟨accounted.rooted.leadsTo has, accounted.rooted.get?_isSome accounted.clock has⟩
  · intro echo fuel program token after failed
    have agree := Tape.agree_runProgram accounted echo fuel program
    rw [same, failed] at agree
    cases result : runProgram echo fuel program tape with
    | ok done last =>
      rw [result] at agree
      cases agree.1
    | error halt last =>
      rw [result] at agree
      obtain ⟨ended, -, finds⟩ := agree
      cases ended
      exact finds token rfl
  · exact fun callable bound => Tape.records_of_made (accounted.bound.made (same ▸ bound))
  · intro fuel expr callable after given
    have agree : Agree tape (fun makings value => value.Made makings) (evaluate fuel expr tape)
        (Run.evaluate fuel expr tape.machine) :=
      (accounting fuel).evaluate expr tape accounted trivial
    rw [same, given] at agree
    cases result : evaluate fuel expr tape with
    | ok value last =>
      rw [result] at agree
      obtain ⟨ended, -, made⟩ := agree
      cases ended
      exact Tape.records_of_made made
    | error halt last =>
      rw [result] at agree
      cases agree.1
  · exact fun first second left right => accounted.equal_iff
  · intro place making callable found bound
    obtain ⟨earlier, before, records⟩ := accounted.earlier found bound
    refine ⟨⟨earlier, before, records⟩, ?_⟩
    have differ := accounted.equal_iff ⟨making, found, rfl⟩ records
    rw [Bool.eq_false_iff]
    exact fun equal => absurd (differ.mp equal) (Nat.ne_of_gt before)

end Lox
