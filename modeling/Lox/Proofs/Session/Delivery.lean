import Lox.Proofs.Run.Delivery
import Lox.Proofs.Session.Layout

/-!
# Sinks with a limit

A sink that takes only so many bytes gets the first bytes of what the source prints at a sink that
takes everything. If that is not all of it, the run stops at the failed write; otherwise it ends as
it does there.
-/

namespace Lox

open Run Session

/-- A sink that takes so many bytes in all, and can be flushed. -/
def Sink.limited (limit : Nat) : Sink := ⟨some limit, true, .empty⟩

theorem Sink.fits_limited {limit : Nat} {bytes : ByteArray} :
    (limited limit).Fits bytes ↔ bytes.size ≤ limit := by
  show min bytes.size (limit - 0) = bytes.size ↔ _
  omega

theorem Sink.written_take_limited (limit : Nat) (bytes : ByteArray) :
    ((limited limit).take bytes).written = bytes.extract 0 (min limit bytes.size) := by
  have room : (limited limit).room bytes.size = min limit bytes.size := Nat.min_comm _ _
  show .empty ++ bytes.extract 0 ((limited limit).room bytes.size) = _
  rw [room, ByteArray.empty_append]

/-- What becomes of a source at a sink, by what becomes of it where everything is taken. -/
theorem Session.settle_delivered {sink : Sink} {free result : EStateM.Result Halt Machine Unit}
    (delivered : Delivered sink free result) :
    (settle result).2.output = (sink.take (settle free).2.output).written ∧
      (settle result).1 = if sink.Fits (settle free).2.output then (settle free).1
        else .failed (RuntimeError.output .full).diagnostic := by
  have same : ∀ result : EStateM.Result Halt Machine Unit,
      (settle result).2.output = printed result := by
    intro result
    cases result with
    | ok _ after => rfl
    | error halt after => cases halt <;> rfl
  rw [same, same]
  by_cases fits : sink.Fits (printed free)
  · rw [if_pos fits, delivered.whole fits, printed, sink_left_atSink]
    refine ⟨rfl, ?_⟩
    cases free with
    | ok _ after => rfl
    | error halt after => cases halt <;> rfl
  · obtain ⟨after, stopped, held⟩ := delivered.part fits
    rw [if_neg fits, stopped]
    exact ⟨congrArg Sink.written held, rfl⟩

theorem Session.run_delivered (machine : Machine) {sink : Sink} (flushes : sink.flushes = true)
    (echo : Bool) (fuel : Nat) (source : String) :
    let free := Session.run ⟨{ machine with sink := .unlimited }⟩ echo fuel source
    let result := Session.run ⟨{ machine with sink }⟩ echo fuel source
    result.2.output = (sink.take free.2.output).written ∧
      result.1 = if sink.Fits free.2.output then free.1
        else .failed (RuntimeError.output .full).diagnostic := by
  intro free result
  cases accepted : compile source with
  | error diagnostics =>
    have freeRun : free = _ := run_of_rejected accepted _ echo fuel
    have run : result = _ := run_of_rejected accepted _ echo fuel
    rw [freeRun, run]
    show sink.written = (sink.take .empty).written ∧ _ = if sink.Fits .empty then _ else _
    rw [sink.take_empty, if_pos sink.fits_empty]
    exact ⟨rfl, rfl⟩
  | ok program =>
    have freeRun : free = _ := run_eq_settle accepted _ echo fuel
    have run : result = _ := run_eq_settle accepted _ echo fuel
    rw [freeRun, run]
    exact settle_delivered (delivers_runProgram echo fuel program machine sink flushes)

/-- A fresh session whose sink takes `limit` bytes prints the first bytes of what it prints without
a limit, as many as the limit allows. The source ends as it does without a limit if all that is
printed there fits, and otherwise with the error of the failed write. This is so with any fuel, also
with too little of it. -/
theorem limited_sink_truncates (clock : Nat → Number) (echo : Bool) (fuel : Nat) (source : String)
    (limit : Nat) :
    let free := (Session.start .unlimited clock).run echo fuel source
    let limited := (Session.start (.limited limit) clock).run echo fuel source
    limited.2.output = free.2.output.extract 0 (min limit free.2.output.size) ∧
      limited.1 = if free.2.output.size ≤ limit then free.1
        else .failed ⟨.duringRun, "Failed to write output: sink full", 0, none, .nowhere⟩ := by
  intro free limited
  have full : (RuntimeError.output .full).diagnostic =
      ⟨.duringRun, "Failed to write output: sink full", 0, none, .nowhere⟩ := rfl
  have flushes : (Sink.limited limit).flushes = true := rfl
  obtain ⟨output, outcome⟩ :=
    Session.run_delivered (.fresh .unlimited clock) flushes echo fuel source
  rw [Sink.written_take_limited] at output
  simp only [Sink.fits_limited, full] at outcome
  exact ⟨output, outcome⟩

/-- Where seven bytes fit, the second line is cut in the middle. -/
theorem limited_sink_truncates_mid_line :
    let clock : Nat → Number := fun _ => .ofNat 0
    let source := "print true; print false;"
    let limited := (Session.start (.limited 7) clock).run false 9 source
    limited.2.output = "true\nfa".toUTF8 ∧
      limited.1 =
        .failed ⟨.duringRun, "Failed to write output: sink full", 0, none, .nowhere⟩ := by
  intro clock source limited
  have printed : ((Session.start .unlimited clock).run false 9 source).2.output =
      "true\nfalse\n".toUTF8 := by cbv
  have truncated := limited_sink_truncates clock false 9 source 7
  simp only [printed] at truncated
  exact truncated

end Lox
