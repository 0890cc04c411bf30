import Lox.Proofs.Run.Echo
import Lox.Proofs.Session.Layout

/-!
# Echo mode

A session in echo mode ends as it does otherwise and is left as it is left otherwise, but for what
was printed. There the value of each expression statement at the top of the source stands, on a line
of its own, right behind what the statement printed; and nothing else is added.
-/

namespace Lox

open Run

namespace Session

variable {session : Session} {source : String} {fuel : Nat}

/-- What the statements of a source show one by one. A source with an error in it shows nothing. -/
def transcript (session : Session) (fuel : Nat) (source : String) : List Shown :=
  match compile source with
  | .error _ => []
  | .ok program =>
    Run.transcript fuel program { session.machine with scope := session.machine.globals }

theorem transcript_of_accepted {program : List Stmt} (accepted : compile source = .ok program) :
    session.transcript fuel source =
      Run.transcript fuel program { session.machine with scope := session.machine.globals } := by
  unfold transcript
  rw [accepted]

theorem transcript_of_rejected {diagnostics : List Diagnostic}
    (rejected : compile source = .error diagnostics) : session.transcript fuel source = [] := by
  unfold transcript
  rw [rejected]

theorem settle_atSink (sink : Sink) (result : EStateM.Result Halt Machine Unit) :
    settle (atSink sink result) =
      ((settle result).1, ⟨{ (settle result).2.machine with sink }⟩) := by
  cases result with
  | ok _ after => rfl
  | error halt after => cases halt <;> rfl

theorem settle_ne_outOfFuel {result : EStateM.Result Halt Machine Unit} :
    (settle result).1 ≠ .outOfFuel ↔ Finished result := by
  cases result with
  | ok _ after => simp [settle, Finished]
  | error halt after => cases halt <;> simp [settle, Finished]

/-- Where the sink never fails, a source that is accepted ends as its statements end where nothing
was printed before, and prints what they show. -/
theorem run_plain {program : List Stmt} (accepted : compile source = .ok program)
    (willing : session.machine.sink.Willing) :
    session.run false fuel source =
      settle (atSink (session.machine.sink.take (Shown.plain (session.transcript fuel source)))
        (program.forM (executeTop false fuel)
          (unprinted { session.machine with scope := session.machine.globals }))) := by
  let top := { session.machine with scope := session.machine.globals }
  have delivered := (delivers_forM false fuel program).willing
    (show top.sink.Willing from willing)
  rw [run_eq_settle accepted, runProgram_of_willing false program willing, delivered, printed_forM,
    transcript_of_accepted accepted]

/-- In echo mode it ends the same, and prints the echoes too. -/
theorem run_echoed {program : List Stmt} (accepted : compile source = .ok program)
    (willing : session.machine.sink.Willing)
    (finished : (session.run false fuel source).1 ≠ .outOfFuel) :
    session.run true fuel source =
      settle (atSink (session.machine.sink.take (Shown.echoed (session.transcript fuel source)))
        (program.forM (executeTop false fuel)
          (unprinted { session.machine with scope := session.machine.globals }))) := by
  let top := { session.machine with scope := session.machine.globals }
  rw [run_plain accepted willing, settle_ne_outOfFuel, finished_atSink] at finished
  have echoed := forM_echo program (show top.sink.Willing from willing) finished
  rw [run_eq_settle accepted, runProgram_of_willing true program willing, echoed,
    transcript_of_accepted accepted]

/-- A source that finishes in echo mode finishes otherwise. -/
theorem finishes_of_echoed (willing : session.machine.sink.Willing)
    (finished : (session.run true fuel source).1 ≠ .outOfFuel) :
    (session.run false (fuel + 1) source).1 ≠ .outOfFuel := by
  cases accepted : compile source with
  | error diagnostics =>
    rw [run_of_rejected accepted]
    exact Outcome.noConfusion
  | ok program =>
    let top := { session.machine with scope := session.machine.globals }
    rw [run_eq_settle accepted, settle_ne_outOfFuel, runProgram_of_willing true program willing]
      at finished
    rw [run_plain accepted willing, settle_ne_outOfFuel, finished_atSink]
    exact finished_forM program (show top.sink.Willing from willing) finished

end Session

/-- At a sink that never fails, and whatever the clock shows, a source that finishes has the same
outcome in echo mode as otherwise, and leaves the same machine but for what is printed: the same
scopes with the same bindings, the same globals, as many readings of the clock. What is printed
otherwise is what the statements at the top of the source show one by one; in echo mode the echo of
each expression statement that gave a value stands right behind what the statement printed. And a
source that finishes in echo mode finishes otherwise. -/
theorem echo_adds_echoes_only {session : Session} (willing : session.machine.sink.Willing)
    (source : String) :
    (∀ fuel, (session.run false fuel source).1 ≠ .outOfFuel →
      (session.run true fuel source).1 = (session.run false fuel source).1 ∧
      (session.run true fuel source).2.machine =
        { (session.run false fuel source).2.machine with
          sink := (session.run true fuel source).2.machine.sink } ∧
      (session.run false fuel source).2.output =
        session.output ++ Shown.plain (session.transcript fuel source) ∧
      (session.run true fuel source).2.output =
        session.output ++ Shown.echoed (session.transcript fuel source)) ∧
    ∀ fuel, (session.run true fuel source).1 ≠ .outOfFuel →
      (session.run false (fuel + 1) source).1 ≠ .outOfFuel := by
  refine ⟨?_, fun fuel => Session.finishes_of_echoed willing⟩
  intro fuel finished
  cases accepted : compile source with
  | error diagnostics =>
    have nothing : session.output ++ .empty = session.output := ByteArray.append_empty
    rw [Session.run_of_rejected accepted, Session.run_of_rejected accepted,
      Session.transcript_of_rejected accepted]
    exact ⟨rfl, rfl, nothing.symm, nothing.symm⟩
  | ok program =>
    rw [Session.run_echoed accepted willing finished, Session.run_plain accepted willing,
      Session.settle_atSink, Session.settle_atSink]
    exact ⟨rfl, rfl, willing.written_take _, willing.written_take _⟩

theorem compile_of_statements : compile "\x7b nil; \x7d true; print nil; x;" =
    .ok [.block [.expression (.literal .nil)], .expression (.literal (.bool true)),
      .print (.literal .nil), .expression (.var ⟨.identifier, "x", none, 1, ⟨26, 27⟩⟩)] := by
  cbv

/-- The value of the second statement is echoed: not that of the statement in the block, nor that
of the last one, which has none. -/
theorem echo_adds_echoes_only_outside_block :
    let session := Session.start .unlimited fun _ => .ofNat 0
    let plain := session.run false 9 "\x7b nil; \x7d true; print nil; x;"
    let echoed := session.run true 9 "\x7b nil; \x7d true; print nil; x;"
    session.machine.sink.Willing ∧
      plain.1 = .failed ⟨.duringRun, "Undefined variable 'x'.", 1, none, ⟨26, 27⟩⟩ ∧
      echoed.1 = plain.1 ∧ plain.2.output = "nil\n".toUTF8 ∧
      echoed.2.output = "true\nnil\n".toUTF8 := by
  intro session plain echoed
  have willing : session.machine.sink.Willing := Sink.willing_unlimited
  have failed : plain.1 = .failed ⟨.duringRun, "Undefined variable 'x'.", 1, none, ⟨26, 27⟩⟩ := by
    show (session.run false 9 _).1 = _
    rw [Session.run_eq_settle compile_of_statements]
    rfl
  have finished : plain.1 ≠ .outOfFuel := by
    rw [failed]
    exact Outcome.noConfusion
  obtain ⟨same, -, printed, shown⟩ := (echo_adds_echoes_only willing _).1 9 finished
  rw [Session.transcript_of_accepted compile_of_statements] at printed shown
  refine ⟨willing, failed, same, printed.trans ?_, shown.trans ?_⟩
  · dsimp only [session]
    decide +kernel
  · dsimp only [session]
    decide +kernel

end Lox
