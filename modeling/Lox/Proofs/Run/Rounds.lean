import Lox.Proofs.Run.Completion
import Lox.Proofs.Run.Padding

/-!
# The increment of a loop

A loop may have its increment beside the body, or as the last statement of a block around the body.
Where no `continue` of the body leaves the increment out, both do the same from machines that are
alike. The block has a scope of its own, which stays empty, since a body declares nothing outside of
braces; so each round puts one empty scope into the second store.
-/

namespace Lox.Run

/-! ## Bodies that do not continue -/

/-- Statements without a `continue` of theirs do not end by one. -/
structure EndsRounds (fuel : Nat) : Prop where
  execute : ∀ {stmt : Stmt} {machine after : Machine}, stmt.continues = false →
    Run.execute fuel stmt machine ≠ .ok .continued after
  executeAll : ∀ {stmts : List Stmt} {machine after : Machine}, Stmt.continuesAny stmts = false →
    Run.executeAll fuel stmts machine ≠ .ok .continued after

theorem inScope_eq_ok {α : Type} {scope : ScopeId} {run : Run α} {machine after : Machine} {a : α}
    (ran : inScope scope run machine = .ok a after) :
    ∃ last, run { machine with scope } = .ok a last := by
  unfold inScope at ran
  cases result : run { machine with scope } with
  | ok b last =>
    rw [result] at ran
    cases ran
    exact ⟨last, rfl⟩
  | error halt last =>
    rw [result] at ran
    cases ran

section

variable {fuel : Nat} {machine after : Machine} (smaller : EndsRounds fuel)

include smaller

theorem execute_ne_continued {stmt : Stmt} (free : stmt.continues = false) :
    execute (fuel + 1) stmt machine ≠ .ok .continued after := by
  intro ran
  cases stmt with
  | expression value =>
    obtain ⟨_, _, -, rest⟩ := run_bind_eq_ok ran
    cases rest
  | print value =>
    obtain ⟨_, _, -, rest⟩ := run_bind_eq_ok ran
    obtain ⟨_, _, -, rest⟩ := run_bind_eq_ok rest
    cases rest
  | define name initializer =>
    obtain ⟨_, _, -, rest⟩ := run_bind_eq_ok ran
    obtain ⟨_, _, -, rest⟩ := run_bind_eq_ok rest
    cases rest
  | block body =>
    obtain ⟨_, _, -, rest⟩ := run_bind_eq_ok ran
    obtain ⟨inner, _, -, rest⟩ := run_bind_eq_ok rest
    obtain ⟨last, ranBody⟩ := inScope_eq_ok rest
    exact smaller.executeAll free ranBody
  | branch condition yes no =>
    simp only [Stmt.continues, Bool.or_eq_false_iff] at free
    obtain ⟨tested, _, -, rest⟩ := run_bind_eq_ok ran
    split at rest
    · exact smaller.execute free.1 rest
    · cases no with
      | some no => exact smaller.execute free.2 rest
      | none => cases rest
  | loop condition body increment => exact (executeLoop_completion ran).2 rfl
  | breakLoop keyword => cases ran
  | continueLoop keyword => cases free
  | function name routine =>
    obtain ⟨_, _, -, rest⟩ := run_bind_eq_ok ran
    obtain ⟨_, _, -, rest⟩ := run_bind_eq_ok rest
    cases rest
  | giveBack keyword value =>
    obtain ⟨_, _, -, rest⟩ := run_bind_eq_ok ran
    cases rest
  | classDecl name superclass methods => cases ran

theorem executeAll_ne_continued {stmts : List Stmt} (free : Stmt.continuesAny stmts = false) :
    executeAll (fuel + 1) stmts machine ≠ .ok .continued after := by
  intro ran
  cases stmts with
  | nil => cases ran
  | cons stmt rest =>
    simp only [Stmt.continuesAny, Bool.or_eq_false_iff] at free
    obtain ⟨completion, middle, ranFirst, ranRest⟩ := run_bind_eq_ok ran
    cases completion with
    | normal => exact smaller.executeAll free.2 ranRest
    | continued => exact smaller.execute free.1 ranFirst
    | broke => cases ranRest
    | returned value => cases ranRest

end

/-- The induction over the fuel. -/
theorem endsRounds (fuel : Nat) : EndsRounds fuel := by
  induction fuel with
  | zero => constructor <;> intros <;> nofun
  | succ fuel ih =>
    exact {
      execute := execute_ne_continued ih
      executeAll := executeAll_ne_continued ih }

/-! ## Loops, round by round -/

/-- A body, and the increment behind it if the body ended normally. -/
def round (body : Run Completion) (increment : Run Value) : Run Completion := do
  match ← body with
  | .normal =>
    let _ ← increment
    return .normal
  | completion => return completion

/-- A test, and a round behind it, and what comes again. -/
def loopOnce (test : Run Value) (once again : Run Completion) : Run Completion := do
  if (← test).truthy then
    match ← once with
    | .broke => return .normal
    | .returned value => return .returned value
    | .normal | .continued => again
  else return .normal

/-- Steps behind a step count only where the step gets. -/
theorem bind_congr_on {α β : Type} {first : Run α} {next other : α → Run β}
    (same : ∀ a before after, first before = .ok a after → next a = other a) :
    first >>= next = first >>= other := by
  funext machine
  cases result : first machine with
  | ok a after => rw [run_bind_ok result, run_bind_ok result, same a machine after result]
  | error halt after => rw [run_bind_error result, run_bind_error result]

section

variable (fuel : Nat) (condition increment : Expr) {body : Stmt}

theorem executeLoop_eq_loopOnce (free : body.continues = false) :
    executeLoop (fuel + 1) condition body (some increment) =
      loopOnce (evaluate fuel condition)
        (round (execute fuel body) (evaluateOr fuel (some increment)))
        (executeLoop fuel condition body (some increment)) := by
  unfold loopOnce round
  refine bind_congr fun tested => ?_
  split
  · rw [bind_assoc]
    refine bind_congr_on fun completion before after ran => ?_
    cases completion with
    | normal =>
      simp only [bind_assoc, pure_bind]
      rfl
    | broke => simp
    | returned value => simp
    | continued => exact absurd ran ((endsRounds fuel).execute free)
  · rfl

theorem executeLoop_none_eq_loopOnce (body : Stmt) :
    executeLoop (fuel + 1) condition body none =
      loopOnce (evaluate fuel condition) (execute fuel body)
        (executeLoop fuel condition body none) := by
  cases fuel with
  | zero => rfl
  | succ fuel => rfl

theorem executeAll_eq_round (body : Stmt) :
    executeAll (fuel + 3) [body, .expression increment] =
      round (execute (fuel + 2) body) (evaluate fuel increment) := by
  refine bind_congr fun completion => ?_
  cases completion with
  | normal =>
    show (evaluate fuel increment >>= fun _ => pure Completion.normal) >>= _ = _
    rw [bind_assoc]
    refine bind_congr fun value => ?_
    rw [pure_bind]
    rfl
  | _ => rfl

end

/-! ## Both loops -/

variable {padding : Padding} {exactly : Bool} {side : Side}

theorem Pads.round {body bodyToo : Run Completion} {increment incrementToo : Run Value}
    (bodies : Pads side exactly padding body bodyToo Completion.Alike)
    (increments : ∀ {padding},
      Pads side exactly padding increment incrementToo Value.Alike) :
    Pads side exactly padding (Run.round body increment) (Run.round bodyToo incrementToo)
      Completion.Alike := by
  refine bodies.bind fun more completion other _ completions => ?_
  have passed : ∀ most, more.Grows most → completion.Alike most other :=
    fun _ => completions.grow
  cases completions with
  | normal => exact increments.bind fun _ _ _ _ _ => .pure fun _ _ => .normal
  | _ => exact .pure passed

theorem Pads.loopOnce {test testToo : Run Value} {once onceToo again againToo : Run Completion}
    (tests : Pads side exactly padding test testToo Value.Alike)
    (rounds : ∀ {padding}, Pads side exactly padding once onceToo Completion.Alike)
    (agains : ∀ {padding}, Pads side exactly padding again againToo Completion.Alike) :
    Pads side exactly padding (Run.loopOnce test once again)
      (Run.loopOnce testToo onceToo againToo) Completion.Alike := by
  refine tests.bind fun _ tested testedToo _ values => ?_
  rw [values.truthy]
  split
  · refine rounds.bind fun _ _ _ _ completions => ?_
    cases completions with
    | broke => exact .pure fun _ _ => .normal
    | returned values => exact .pure fun _ grows => .returned (values.grow grows)
    | normal => exact agains
    | continued => exact agains
  · exact .pure fun _ _ => .normal

section

variable (condition increment : Expr) {body : Stmt} (undeclaring : body.Undeclaring)
  (free : body.continues = false)

include undeclaring free

/-- If the loop with the increment beside its body finishes, the other ends alike. It takes a little
more fuel, because the increment lies deeper. -/
theorem pads_increment_inward (fuel : Nat) :
    Pads .first exactly padding (executeLoop fuel condition body (some increment))
      (executeLoop (fuel + 4) condition (.block [body, .expression increment]) none)
      Completion.Alike := by
  induction fuel generalizing padding with
  | zero => exact fun _ _ _ _ _ absurd => absurd.elim
  | succ fuel ih =>
    rw [executeLoop_eq_loopOnce fuel condition increment free, executeLoop_none_eq_loopOnce]
    refine .loopOnce ?_ ?_ ih
    · exact ((padded fuel).evaluate condition).whichever.moreSecond
        ((extending (by omega)).evaluate condition)
    · intro padding
      refine .inPad ?_
      show Pads .first _ _ _ (executeAll (fuel + 3) [body, .expression increment]) _
      rw [executeAll_eq_round]
      refine .round ?_ ?_
      · exact ((padded fuel).execute (.inr undeclaring)).whichever.moreSecond
          ((extending (by omega)).execute body)
      · exact ((padded fuel).evaluateOr (some increment)).whichever.moreSecond
          ((extending (show fuel ≤ fuel + 1 by omega)).evaluateOr (some increment))

/-- If the loop with the increment in its body finishes, the other ends alike. -/
theorem pads_increment_outward (fuel : Nat) :
    Pads .second exactly padding (executeLoop (fuel + 2) condition body (some increment))
      (executeLoop fuel condition (.block [body, .expression increment]) none)
      Completion.Alike := by
  induction fuel generalizing padding with
  | zero => exact fun _ _ _ _ _ absurd => absurd.elim
  | succ fuel ih =>
    rw [executeLoop_eq_loopOnce (fuel + 2) condition increment free, executeLoop_none_eq_loopOnce]
    refine .loopOnce ?_ ?_ ih
    · exact ((padded fuel).evaluate condition).whichever.moreFirst
        ((extending (by omega)).evaluate condition)
    · intro padding
      refine Pads.lessSecond (.inPad ?_) ((extending (show fuel ≤ fuel + 4 by omega)).execute _)
      show Pads .second _ _ _ (executeAll (fuel + 3) [body, .expression increment]) _
      rw [executeAll_eq_round]
      refine .round ?_ ?_
      · exact ((padded (fuel + 2)).execute (.inr undeclaring)).whichever
      · exact ((padded fuel).evaluate increment).whichever.moreFirst
          ((extending (show fuel ≤ fuel + 1 by omega)).evaluate increment)

end

end Lox.Run
