import Mathlib.Data.List.Basic
import Lox.Proofs.Run.Frame

/-!
# Where names are added

The scopes of a machine, as any run leaves them: which of them may bind more names than before, and
which values may have changed. The functions that a run may call are those in the store and those it
makes itself, so a name to which neither the tree nor a function in the store assigns is a name to
which nothing assigns.
-/

namespace Lox

open Run

/-! ## Nothing is fixed -/

theorem spares_nothing (names : List String) : Spares (fun _ => False) names :=
  fun _ _ absurd => absurd

theorem Action.carries_spares_nothing (action : Action) :
    action.Carries (Routine.Spares fun _ => False) := by
  cases action with
  | closure name routine scope => exact spares_nothing routine.assigned
  | native native arity => trivial

theorem Value.carries_spares_nothing (value : Value) :
    value.Carries (Routine.Spares fun _ => False) := by
  cases value with
  | callable function => exact function.action.carries_spares_nothing
  | _ => trivial

theorem Store.carries_spares_nothing (store : Store) :
    store.Carries (Routine.Spares fun _ => False) :=
  fun _ _ binding _ => binding.2.carries_spares_nothing

/-! ## One name is fixed -/

theorem spares_name_iff {name : String} {names : List String} :
    Spares (· = name) names ↔ name ∉ names := by
  unfold Spares
  constructor
  · intro spares member
    exact spares name member rfl
  · rintro absent other member rfl
    exact absent member

theorem routineSpares_name (name : String) :
    Routine.Spares (· = name) = fun routine => name ∉ routine.assigned :=
  funext fun _ => propext spares_name_iff

/-- What a run leaves of a store whose functions assign to no fixed name. -/
theorem Run.stores_kept {fixed : String → Prop} {machine : Machine}
    (carries : machine.store.Carries (Routine.Spares fixed)) (fuel : Nat) :
    (∀ expr : Expr, Spares fixed expr.assigned →
      machine.store.Kept fixed none (left (evaluate fuel expr machine)).store) ∧
    (∀ body, Spares fixed (Stmt.assignedAll body) →
      machine.store.Kept fixed none (left (execute fuel (.block body) machine)).store) ∧
    (∀ callable arguments, Action.Carries (Routine.Spares fixed) callable.action →
      (∀ value ∈ arguments, Value.Carries (Routine.Spares fixed) value) →
      machine.store.Kept fixed none (left (invoke fuel callable arguments machine)).store) ∧
    ∀ stmt : Stmt, Spares fixed stmt.assigned →
      machine.store.Kept fixed (some machine.scope) (left (execute fuel stmt machine)).store := by
  have kept := keeping fixed fuel
  refine ⟨?_, ?_, ?_, ?_⟩
  · intro expr spares
    exact (kept.evaluate spares machine carries).1.store
  · intro body spares
    cases fuel with
    | zero => exact .refl _
    | succ fuel => exact (keeps_block (keeping fixed fuel) spares machine carries).1.store
  · intro callable arguments function given
    exact (kept.invoke function given machine carries).1.store
  · intro stmt spares
    exact (kept.execute spares machine carries).1.store

/-- A `let` changes no scope but the current one, apart from what its initializer does. -/
theorem Run.scope?_define_other (fuel : Nat) (machine : Machine) (name : Token)
    (initializer : Option Expr) {id : ScopeId} (other : id ≠ machine.scope) :
    (left (execute (fuel + 1) (.define name initializer) machine)).store.scope? id =
      (left (evaluateOr fuel initializer machine)).store.scope? id := by
  have spares := spares_nothing (Expr.assignedOr initializer)
  have kept := ((keeping _ fuel).evaluateOr spares machine machine.store.carries_spares_nothing).1
  have defined : execute (fuel + 1) (.define name initializer) =
      evaluateOr fuel initializer >>= fun value =>
        Run.define name.lexeme value >>= fun _ => pure .normal := rfl
  rw [defined]
  cases result : evaluateOr fuel initializer machine with
  | ok value after =>
    rw [result] at kept
    rw [run_bind_ok result]
    have scope : after.scope = machine.scope := kept.scope
    show (after.store.define after.scope name.lexeme value).scope? id = after.store.scope? id
    rw [Store.scope?_define, if_neg (by rw [scope]; exact Ne.symm other)]
  | error halt after =>
    rw [run_bind_error result]
    rfl

/-- A `fun` changes no scope but the current one. -/
theorem Run.scope?_function_other (fuel : Nat) (machine : Machine) (name : Token)
    (routine : Routine) {id : ScopeId} (other : id ≠ machine.scope) :
    (left (execute (fuel + 1) (.function name routine) machine)).store.scope? id =
      machine.store.scope? id := by
  let function : Callable :=
    ⟨machine.store.issued, .closure (some name.lexeme) routine machine.scope⟩
  let store : Store := { machine.store with issued := machine.store.issued + 1 }
  show (store.define machine.scope name.lexeme (.callable function)).scope? id = _
  rw [Store.scope?_define, if_neg (Ne.symm other)]
  rfl

/-- However a run ends, no name is lost from a scope and no scope gets another parent. Expressions,
blocks and calls leave the names of all scopes that were there as they were; other statements can
add names to the current scope only. A `let` or a `fun` itself changes no other scope. So a name to
which neither the tree nor a function in the store assigns keeps its value in all scopes, except
that a statement which is no block may bind it in the current scope. -/
theorem names_added_to_current_scope_only (fuel : Nat) (machine : Machine) :
    let store := machine.store
    let nothing : String → Prop := fun _ => False
    (∀ expr, store.Kept nothing none (left (evaluate fuel expr machine)).store) ∧
    (∀ body, store.Kept nothing none (left (execute fuel (.block body) machine)).store) ∧
    (∀ callable arguments,
      store.Kept nothing none (left (invoke fuel callable arguments machine)).store) ∧
    (∀ stmt, store.Kept nothing (some machine.scope) (left (execute fuel stmt machine)).store) ∧
    (∀ name initializer id, id ≠ machine.scope →
      (left (execute (fuel + 1) (.define name initializer) machine)).store.scope? id =
        (left (evaluateOr fuel initializer machine)).store.scope? id) ∧
    (∀ name routine id, id ≠ machine.scope →
      (left (execute (fuel + 1) (.function name routine) machine)).store.scope? id =
        store.scope? id) ∧
    ∀ name, store.Carries (fun routine => name ∉ routine.assigned) →
      (∀ expr : Expr, name ∉ expr.assigned →
        store.Kept (· = name) none (left (evaluate fuel expr machine)).store) ∧
      (∀ body, name ∉ Stmt.assignedAll body →
        store.Kept (· = name) none (left (execute fuel (.block body) machine)).store) ∧
      (∀ callable arguments,
        Action.Carries (fun routine => name ∉ routine.assigned) callable.action →
        (∀ value ∈ arguments, Value.Carries (fun routine => name ∉ routine.assigned) value) →
        store.Kept (· = name) none (left (invoke fuel callable arguments machine)).store) ∧
      ∀ stmt : Stmt, name ∉ stmt.assigned →
        store.Kept (· = name) (some machine.scope) (left (execute fuel stmt machine)).store := by
  intro store nothing
  obtain ⟨expressions, blocks, calls, statements⟩ := stores_kept store.carries_spares_nothing fuel
  refine ⟨?_, ?_, ?_, ?_, ?_, ?_, ?_⟩
  · exact fun expr => expressions expr (spares_nothing _)
  · exact fun body => blocks body (spares_nothing _)
  · intro callable arguments
    exact calls callable arguments callable.action.carries_spares_nothing
      fun value _ => value.carries_spares_nothing
  · exact fun stmt => statements stmt (spares_nothing _)
  · exact fun name initializer id => scope?_define_other fuel machine name initializer
  · exact fun name routine id => scope?_function_other fuel machine name routine
  · intro name carries
    rw [← routineSpares_name] at carries ⊢
    simp only [← spares_name_iff]
    exact stores_kept carries fuel

/-- In `{ let clock = nil; }` the declaration leaves the native function where it is. -/
theorem names_added_to_current_scope_only_shadowing :
    let machine := Machine.fresh .unlimited fun _ => .ofNat 0
    let name : Token := ⟨.identifier, "clock", none, 1, ⟨6, 11⟩⟩
    let body := [Stmt.define name (some (.literal .nil))]
    machine.store.Carries (fun routine => "clock" ∉ routine.assigned) ∧
      "clock" ∉ Stmt.assignedAll body ∧
      machine.store.Kept (· = "clock") none (left (execute 9 (.block body) machine)).store := by
  intro machine name body
  have carries : machine.store.Carries (fun routine => "clock" ∉ routine.assigned) :=
    Machine.carries_fresh _ _
  have absent : "clock" ∉ Stmt.assignedAll body := by decide
  obtain ⟨-, -, -, -, -, -, values⟩ := names_added_to_current_scope_only 9 machine
  exact ⟨carries, absent, (values "clock" carries).2.1 body absent⟩

end Lox
