import Lox.Proofs.Program.Formation
import Lox.Proofs.Run.Variable
import Lox.Proofs.Value.Carries
import Lox.Run.Evaluate

/-!
# Well-formed machines

All functions in the store of a well-formed machine have well-formed routines. Two runs agree if
they do the same from every well-formed machine, and keep it well-formed; an error that stops them
is blamed on a known token.
-/

namespace Lox

open Grammar

section

variable (known : Token → Prop)

def Action.Formed : Action → Prop
  | closure _ routine _ => routine.Formed known
  | native _ _ => True

def Value.Formed : Value → Prop
  | callable function => function.action.Formed known
  | _ => True

def Scope.Formed (scope : Scope) : Prop :=
  ∀ binding ∈ scope.bindings, binding.2.Formed known

def Store.Formed (store : Store) : Prop :=
  ∀ scope ∈ store.scopes, scope.Formed known

def Machine.Formed (machine : Machine) : Prop :=
  machine.store.Formed known

def Halt.Formed : Halt → Prop
  | error (.blamed _ token) => known token
  | error (.output _) | outOfFuel => True

/-- The completions of a statement at a place. -/
def Completion.FormedAt (place : Place) : Completion → Prop
  | normal => True
  | broke | continued => place.inLoop = true
  | returned value => place.inFunction = true ∧ value.Formed known

end

variable {known : Token → Prop}

/-- A value is well-formed if the routine it carries is. -/
theorem Value.formed_iff_carries {value : Value} :
    value.Formed known ↔ value.Carries (Routine.Formed known) :=
  Iff.rfl

theorem Store.formed_iff_carries {store : Store} :
    store.Formed known ↔ store.Carries (Routine.Formed known) :=
  Iff.rfl

/-! ## The store -/

namespace Store.Formed

variable {store : Store} (formed : store.Formed known)

include formed

theorem define {value : Value} (bound : value.Formed known) (id : ScopeId) (name : String) :
    (store.define id name value).Formed known :=
  Store.Carries.define (Store.formed_iff_carries.mp formed) bound id name

theorem get? {id : ScopeId} {name : String} {value : Value}
    (found : store.get? id name = some value) : value.Formed known :=
  Value.formed_iff_carries.mpr (Store.Carries.get? (Store.formed_iff_carries.mp formed) found)

theorem newScope (parent : Option ScopeId) : (store.newScope parent).2.Formed known :=
  Store.Carries.newScope (Store.formed_iff_carries.mp formed) parent

/-- Bindings made one after the other. -/
theorem defineAll {bindings : List (String × Value)}
    (bound : ∀ binding ∈ bindings, binding.2.Formed known) (id : ScopeId) :
    (bindings.foldl (fun store (name, value) => store.define id name value) store).Formed
      known :=
  Store.Carries.defineAll (Store.formed_iff_carries.mp formed) bound id

end Store.Formed

theorem Machine.formed_fresh (sink : Sink) (clock : Nat → Number) :
    (Machine.fresh sink clock).Formed known :=
  Store.formed_iff_carries.mpr (Machine.carries_fresh sink clock)

/-! ## Agreement -/

namespace Run

/-- How a run from a well-formed machine ends. -/
def Ends {α : Type} (known : Token → Prop) (post : α → Prop) : EStateM.Result Halt Machine α → Prop
  | .ok a after => after.Formed known ∧ post a
  | .error halt after => after.Formed known ∧ halt.Formed known

/-- Two runs that do the same from well-formed machines, and keep them well-formed. -/
def Agree {α : Type} (known : Token → Prop) (run other : Run α) (post : α → Prop) : Prop :=
  ∀ machine, machine.Formed known → other machine = run machine ∧ Ends known post (run machine)

variable {α β : Type}

namespace Agree

theorem pure {post : α → Prop} {a : α} (holds : post a) :
    Agree known (Pure.pure a : Run α) (Pure.pure a) post :=
  fun _ formed => ⟨rfl, formed, holds⟩

theorem mono {run other : Run α} {post weaker : α → Prop} (agree : Agree known run other post)
    (implies : ∀ a, post a → weaker a) : Agree known run other weaker := by
  intro machine formed
  obtain ⟨same, ends⟩ := agree machine formed
  refine ⟨same, ?_⟩
  cases result : run machine with
  | ok a after =>
    rw [result] at ends
    exact ⟨ends.1, implies a ends.2⟩
  | error halt after =>
    rw [result] at ends
    exact ends

theorem bind {run other : Run α} {next after : α → Run β} {middle : α → Prop} {post : β → Prop}
    (first : Agree known run other middle)
    (second : ∀ a, middle a → Agree known (next a) (after a) post) :
    Agree known (run >>= next) (other >>= after) post := by
  intro machine formed
  obtain ⟨same, ends⟩ := first machine formed
  cases result : run machine with
  | ok a left =>
    rw [result] at ends same
    rw [run_bind_ok result, run_bind_ok same]
    exact second a ends.2 left ends.1
  | error halt left =>
    rw [result] at ends same
    rw [run_bind_error result, run_bind_error same]
    exact ⟨rfl, ends⟩

/-- A single step is the same step in both runs. -/
theorem of_ends {run : Run α} {post : α → Prop}
    (ends : ∀ machine, machine.Formed known → Ends known post (run machine)) :
    Agree known run run post :=
  fun machine formed => ⟨rfl, ends machine formed⟩

theorem outOfFuel {post : α → Prop} :
    Agree known (throw .outOfFuel : Run α) (throw .outOfFuel) post :=
  of_ends fun _ formed => ⟨formed, trivial⟩

theorem fail {post : α → Prop} {token : Token} (blamed : known token) (cause : RuntimeError.Cause) :
    Agree known (Run.fail cause token : Run α) (Run.fail cause token) post :=
  of_ends fun _ formed => ⟨formed, blamed⟩

theorem ofOperator {token : Token} (blamed : known token) {post : α → Prop}
    {result : Except RuntimeError.Cause α} (holds : ∀ a, result = .ok a → post a) :
    Agree known (Run.ofOperator token result) (Run.ofOperator token result) post := by
  cases result with
  | ok a => exact pure (holds a rfl)
  | error cause => exact fail blamed cause

theorem lookup {name : Token} (blamed : known name) :
    Agree known (Run.lookup name) (Run.lookup name) (Value.Formed known) := by
  refine of_ends fun machine formed => ?_
  rw [run_lookup]
  cases found : machine.store.get? machine.scope name.lexeme with
  | some value => exact ⟨formed, Store.Formed.get? formed found⟩
  | none => exact ⟨formed, blamed⟩

theorem define {value : Value} (bound : value.Formed known) (name : String) :
    Agree known (Run.define name value) (Run.define name value) fun _ => True :=
  of_ends fun machine formed => ⟨Store.Formed.define formed bound machine.scope name, trivial⟩

theorem assign {name : Token} (blamed : known name) {value : Value} (bound : value.Formed known) :
    Agree known (Run.assign name value) (Run.assign name value) fun _ => True := by
  refine of_ends fun machine formed => ?_
  rw [run_assign]
  cases machine.store.holder? machine.scope name.lexeme with
  | some holder => exact ⟨Store.Formed.define formed bound holder _, trivial⟩
  | none => exact ⟨formed, blamed⟩

theorem newScope {bindings : List (String × Value)}
    (bound : ∀ binding ∈ bindings, binding.2.Formed known) (parent : ScopeId) :
    Agree known (Run.newScope parent bindings) (Run.newScope parent bindings) fun _ => True :=
  of_ends fun _ formed =>
    ⟨(Store.Formed.newScope formed (some parent)).defineAll bound _, trivial⟩

theorem newClosure {routine : Routine} (does : routine.Formed known) (name : Option String) :
    Agree known (Run.newClosure name routine) (Run.newClosure name routine) (Value.Formed known) :=
  of_ends fun _ formed => ⟨formed, does⟩

theorem inScope {run other : Run α} {post : α → Prop} (agree : Agree known run other post)
    (scope : ScopeId) : Agree known (Run.inScope scope run) (Run.inScope scope other) post := by
  intro machine formed
  obtain ⟨same, ends⟩ := agree { machine with scope } formed
  refine ⟨by simp only [Run.inScope, same], ?_⟩
  unfold Run.inScope
  cases result : run { machine with scope } with
  | ok a after =>
    rw [result] at ends
    exact ends
  | error halt after =>
    rw [result] at ends
    exact ends

theorem print (value : Value) : Agree known (Run.print value) (Run.print value) fun _ => True := by
  unfold Run.print
  refine bind (of_ends fun _ formed => ⟨formed, trivial⟩) fun complete (_ : True) => ?_
  cases complete with
  | true => exact pure trivial
  | false => exact of_ends fun _ formed => ⟨formed, trivial⟩

theorem flush : Agree known Run.flush Run.flush fun _ => True := by
  refine of_ends fun machine formed => ?_
  rw [Run.flush, run_bind_ok (run_get machine)]
  cases machine.sink.flushes with
  | true => exact ⟨formed, trivial⟩
  | false => exact ⟨formed, trivial⟩

theorem readClock : Agree known Run.readClock Run.readClock (Value.Formed known) :=
  of_ends fun _ formed => ⟨formed, trivial⟩

end Agree
end Run
end Lox
