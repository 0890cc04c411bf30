import Lox.Proofs.Control.Step

/-!
# Mirrored computations

A mirror sends states to states and errors to errors. One computation mirrors another if, from the
image of any state, it ends as the other does from the state itself: in the image of the state where
the other ends, and with a related result or with the image of its error.
-/

namespace Lox

structure Mirror (ε σ : Type) where
  onState : σ → σ
  onError : ε → ε

variable {ε σ α β γ δ : Type} {mirror : Mirror ε σ}

def Mirrors (mirror : Mirror ε σ) (related : α → β → Prop) (run : EStateM ε σ α)
    (other : EStateM ε σ β) : Prop :=
  ∀ state, match run state with
    | .ok a after => ∃ b, related a b ∧ other (mirror.onState state) = .ok b (mirror.onState after)
    | .error error after =>
      other (mirror.onState state) = .error (mirror.onError error) (mirror.onState after)

/-- The second is what `f` makes of the first. -/
def Image (f : α → β) (a : α) (b : β) : Prop := b = f a

namespace Mirrors

variable {related : α → β → Prop} {relatedNext : γ → δ → Prop}
variable {run : EStateM ε σ α} {other : EStateM ε σ β}

theorem of_ok {a : σ → α} {b : σ → β} {next : σ → σ}
    (runs : ∀ state, run state = .ok (a state) (next state))
    (others : ∀ state,
      other (mirror.onState state) = .ok (b state) (mirror.onState (next state)))
    (holds : ∀ state, related (a state) (b state)) : Mirrors mirror related run other := by
  intro state
  rw [runs]
  exact ⟨b state, holds state, others state⟩

theorem pure {a : α} {b : β} (holds : related a b) :
    Mirrors mirror related (Pure.pure a) (Pure.pure b) :=
  of_ok (fun _ => rfl) (fun _ => rfl) fun _ => holds

theorem bind {next : α → EStateM ε σ γ} {after : β → EStateM ε σ δ}
    (first : Mirrors mirror related run other)
    (second : ∀ a b, related a b → Mirrors mirror relatedNext (next a) (after b)) :
    Mirrors mirror relatedNext (run >>= next) (other >>= after) := by
  intro state
  have start := first state
  cases result : run state with
  | ok a middle =>
    rw [result] at start
    obtain ⟨b, holds, same⟩ := start
    rw [run_bind_ok result, run_bind_ok same]
    exact second a b holds middle
  | error error middle =>
    rw [result] at start
    rw [run_bind_error result, run_bind_error start]

/-- The second step, where results are images. -/
theorem bind_image {f : α → β} {next : α → EStateM ε σ γ} {after : β → EStateM ε σ δ}
    (first : Mirrors mirror (Image f) run other)
    (second : ∀ a, Mirrors mirror relatedNext (next a) (after (f a))) :
    Mirrors mirror relatedNext (run >>= next) (other >>= after) := by
  refine first.bind fun a b image => ?_
  rw [image]
  exact second a

theorem mono {wider : α → β → Prop} (mirrors : Mirrors mirror related run other)
    (implies : ∀ a b, related a b → wider a b) : Mirrors mirror wider run other := by
  intro state
  have ends := mirrors state
  cases result : run state with
  | ok a after =>
    rw [result] at ends
    obtain ⟨b, holds, same⟩ := ends
    exact ⟨b, implies a b holds, same⟩
  | error error after =>
    rw [result] at ends
    exact ends

theorem map {f : α → γ} {g : β → δ} (mirrors : Mirrors mirror related run other)
    (holds : ∀ a b, related a b → relatedNext (f a) (g b)) :
    Mirrors mirror relatedNext (f <$> run) (g <$> other) := by
  rw [map_eq_pure_bind, map_eq_pure_bind]
  exact mirrors.bind fun a b related => pure (holds a b related)

/-- Results that nobody looks at. -/
theorem discard (mirrors : Mirrors mirror related run other) :
    Mirrors mirror Eq (Functor.discard run) (Functor.discard other) := by
  rw [discard_eq_bind, discard_eq_bind]
  exact mirrors.bind fun _ _ _ => pure rfl

/-- From the image of a state, the image of what happens from the state. -/
theorem eq_of_image {f : α → β} (mirrors : Mirrors mirror (Image f) run other) (state : σ) :
    other (mirror.onState state) =
      match run state with
      | .ok a after => .ok (f a) (mirror.onState after)
      | .error error after => .error (mirror.onError error) (mirror.onState after) := by
  have ends := mirrors state
  cases result : run state with
  | ok a after =>
    rw [result] at ends
    obtain ⟨b, image, same⟩ := ends
    rw [same, image]
  | error error after =>
    rw [result] at ends
    exact ends

end Mirrors

/-- Changes the state before a computation, and again behind it, however it ends. -/
def wrap (enter : σ → σ) (leave : σ → σ → σ) (run : EStateM ε σ α) : EStateM ε σ α := fun state =>
  match run (enter state) with
  | .ok a after => .ok a (leave state after)
  | .error error after => .error error (leave state after)

theorem Mirrors.wrap {related : α → β → Prop} {run : EStateM ε σ α} {other : EStateM ε σ β}
    {enter : σ → σ} {leave : σ → σ → σ} (mirrors : Mirrors mirror related run other)
    (enters : ∀ state, enter (mirror.onState state) = mirror.onState (enter state))
    (leaves : ∀ state after,
      leave (mirror.onState state) (mirror.onState after) = mirror.onState (leave state after)) :
    Mirrors mirror related (Lox.wrap enter leave run) (Lox.wrap enter leave other) := by
  intro state
  have ends := mirrors (enter state)
  unfold Lox.wrap
  rw [enters]
  cases result : run (enter state) with
  | ok a after =>
    rw [result] at ends
    obtain ⟨b, holds, same⟩ := ends
    exact ⟨b, holds, by simp only [same, leaves]⟩
  | error error after =>
    rw [result] at ends
    simp only [ends, leaves]

end Lox
