/-!
# Steps one after another

Parsers and runs are computations with a state that may stop with an error. What the first of two
steps does decides what both do.
-/

namespace Lox

variable {ε σ α β : Type} {first : EStateM ε σ α} {next : α → EStateM ε σ β} {before after : σ}

theorem run_get (state : σ) : (get : EStateM ε σ σ) state = .ok state state := rfl

theorem run_bind_ok {a : α} (done : first before = .ok a after) :
    (first >>= next) before = next a after := by
  show EStateM.bind first next before = _
  rw [EStateM.bind, done]

theorem run_bind_error {error : ε} (stopped : first before = .error error after) :
    (first >>= next) before = .error error after := by
  show EStateM.bind first next before = _
  rw [EStateM.bind, stopped]

/-- Two steps give a result only if both do. -/
theorem run_bind_eq_ok {b : β} (both : (first >>= next) before = .ok b after) :
    ∃ a middle, first before = .ok a middle ∧ next a middle = .ok b after := by
  cases done : first before with
  | ok a middle => exact ⟨a, middle, rfl, (run_bind_ok done).symm.trans both⟩
  | error error middle =>
    rw [run_bind_error done] at both
    cases both

/-- The steps behind a choice stand in both of its branches. -/
theorem ite_bind (condition : Prop) [Decidable condition] (yes no : EStateM ε σ α)
    (next : α → EStateM ε σ β) :
    (if condition then yes >>= next else no >>= next) =
      (if condition then yes else no) >>= next := by
  split <;> rfl

theorem discard_eq_bind (step : EStateM ε σ α) : discard step = step >>= fun _ => pure () := by
  funext state
  show EStateM.map _ step state = EStateM.bind step _ state
  unfold EStateM.map EStateM.bind
  cases step state <;> rfl

end Lox
