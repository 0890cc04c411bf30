import Lox.Proofs.Value.Binds
import Lox.Run.Machine
import Lox.Run.Operator

/-!
# What the functions of a store run

A value that is a function carries a routine, and so does a store through all the values bound in
its scopes. What holds of all routines that a store carries holds of them after each change of the
store that binds no other kind of routine.
-/

namespace Lox

section

variable (good : Routine → Prop)

def Action.Carries : Action → Prop
  | closure _ routine _ => good routine
  | native _ _ => True

def Value.Carries : Value → Prop
  | callable function => function.action.Carries good
  | _ => True

def Scope.Carries (scope : Scope) : Prop :=
  ∀ binding ∈ scope.bindings, binding.2.Carries good

def Store.Carries (store : Store) : Prop :=
  ∀ scope ∈ store.scopes, scope.Carries good

end

variable {good : Routine → Prop}

/-- A value that is no function carries no routine. -/
def Value.Plain (value : Value) : Prop :=
  value.type ≠ .callable

theorem Value.Plain.carries {value : Value} (plain : value.Plain) : value.Carries good := by
  cases value with
  | callable function => exact absurd rfl plain
  | _ => trivial

theorem Value.plain_ofLiteral (literal : Literal) : (Value.ofLiteral literal).Plain := by
  cases literal <;> nofun

theorem Value.carries_ofLiteral (literal : Literal) : (Value.ofLiteral literal).Carries good :=
  (plain_ofLiteral literal).carries

namespace Store.Carries

variable {store : Store} (carries : store.Carries good)

include carries

/-- A store carries routines in the values it binds. -/
theorem binds : store.Binds (Value.Carries good) := carries

theorem define {value : Value} (bound : value.Carries good) (id : ScopeId) (name : String) :
    (store.define id name value).Carries good :=
  carries.binds.define bound id name

theorem get? {id : ScopeId} {name : String} {value : Value}
    (found : store.get? id name = some value) : value.Carries good :=
  carries.binds.get? found

theorem newScope (parent : Option ScopeId) : (store.newScope parent).2.Carries good :=
  carries.binds.newScope parent

/-- Bindings made one after the other. -/
theorem defineAll {bindings : List (String × Value)}
    (bound : ∀ binding ∈ bindings, binding.2.Carries good) (id : ScopeId) :
    (bindings.foldl (fun store (name, value) => store.define id name value) store).Carries
      good :=
  carries.binds.defineAll bound id

end Store.Carries

/-- A fresh machine has only native functions. -/
theorem Machine.carries_fresh (sink : Sink) (clock : Nat → Number) :
    (Machine.fresh sink clock).store.Carries good := by
  have empty : Store.empty.Carries good := fun _ absurd => nomatch absurd
  have native : (Value.callable ⟨0, .native .clock 0⟩).Carries good := trivial
  exact (empty.newScope none).define native _ _

/-- A fresh machine has one scope, with one name in it. -/
theorem Machine.scope?_fresh {sink : Sink} {clock : Nat → Number} {id : ScopeId} {scope : Scope}
    (found : (Machine.fresh sink clock).store.scope? id = some scope) :
    id = (Machine.fresh sink clock).globals ∧
      scope = ⟨[(Native.clock.name, .callable ⟨0, .native .clock 0⟩)], none⟩ := by
  obtain ⟨index⟩ := id
  cases index with
  | zero => exact ⟨rfl, (Option.some.inj found).symm⟩
  | succ index => cases found

/-! ## Operators -/

theorem UnaryOp.plain_apply {op : UnaryOp} {operand result : Value}
    (applied : op.apply operand = .ok result) : result.Plain := by
  cases op <;> cases operand <;> cases applied <;> nofun

theorem UnaryOp.carries_apply {op : UnaryOp} {operand result : Value}
    (applied : op.apply operand = .ok result) : result.Carries good :=
  (plain_apply applied).carries

section

variable {left right result : Value}

theorem plain_arithmetic {operation : Number → Number → Number}
    (applied : arithmetic operation left right = .ok result) : result.Plain := by
  unfold arithmetic at applied
  split at applied <;> cases applied
  nofun

theorem plain_addValues (applied : addValues left right = .ok result) : result.Plain := by
  unfold addValues at applied
  split at applied <;> cases applied <;> nofun

theorem plain_divideValues (applied : divideValues left right = .ok result) : result.Plain := by
  unfold divideValues at applied
  split at applied
  · split at applied <;> cases applied
    nofun
  · cases applied

theorem plain_compareValues {comparison : Number → Number → Bool}
    (applied : compareValues comparison left right = .ok result) : result.Plain := by
  unfold compareValues at applied
  split at applied
  · cases applied; nofun
  · cases applied; nofun
  · split at applied <;> cases applied

/-- No operator makes a function. -/
theorem BinaryOp.plain_apply {op : BinaryOp} (applied : op.apply left right = .ok result) :
    result.Plain := by
  cases op with
  | add => exact plain_addValues applied
  | subtract | multiply => exact plain_arithmetic applied
  | divide => exact plain_divideValues applied
  | equal | notEqual => cases applied; nofun
  | less | lessEqual | greater | greaterEqual => exact plain_compareValues applied

theorem BinaryOp.carries_apply {op : BinaryOp} (applied : op.apply left right = .ok result) :
    result.Carries good :=
  (plain_apply applied).carries

end

end Lox
