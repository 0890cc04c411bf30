import Lox.Proofs.Control.Step
import Lox.Proofs.Value.Holder
import Lox.Run.Machine

/-!
# Variables of a machine

What a lookup and an assignment do to a machine, in terms of its store.
-/

namespace Lox.Run

/-- What happens where a name is looked up, or assigned to, that has no value. -/
def undefined {α : Type} (name : Token) (machine : Machine) : EStateM.Result Halt Machine α :=
  .error (.error (.blamed (.undefinedVariable name.lexeme) name)) machine

theorem run_lookup (name : Token) (machine : Machine) :
    lookup name machine =
      match machine.store.get? machine.scope name.lexeme with
      | some value => .ok value machine
      | none => undefined name machine := by
  rw [lookup, run_bind_ok (run_get machine)]
  cases machine.store.get? machine.scope name.lexeme <;> rfl

/-- An assignment is a definition in the scope that holds the name. -/
theorem run_assign (name : Token) (value : Value) (machine : Machine) :
    assign name value machine =
      match machine.store.holder? machine.scope name.lexeme with
      | some holder =>
        .ok () { machine with store := machine.store.define holder name.lexeme value }
      | none => undefined name machine := by
  have walked : (modifyGet fun machine : Machine =>
        ((machine.store.assign machine.scope name.lexeme value).1,
          { machine with store := (machine.store.assign machine.scope name.lexeme value).2 }) :
        Run Bool) machine =
      .ok (machine.store.assign machine.scope name.lexeme value).1
        { machine with store := (machine.store.assign machine.scope name.lexeme value).2 } := rfl
  refine (run_bind_ok walked).trans ?_
  rw [Store.assign_eq]
  cases machine.store.holder? machine.scope name.lexeme <;> rfl

/-- An assignment leaves the store that the walk outward gives, if it gives one. -/
theorem run_assign_eq_assign? (name : Token) (value : Value) (machine : Machine) :
    assign name value machine =
      match machine.store.assign? machine.scope name.lexeme value with
      | some store => .ok () { machine with store }
      | none => undefined name machine := by
  rw [run_assign, Store.assign?_eq]
  cases machine.store.holder? machine.scope name.lexeme <;> rfl

end Lox.Run
