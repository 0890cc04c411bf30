import Lox.Proofs.Run.Delivery
import Lox.Proofs.Run.Fuel

/-!
# Echoes

A program that is run in echo mode does what it does otherwise, and prints what it prints otherwise,
with an echo behind what each of its expression statements printed. The two modes take different
ways through such a statement. That they meet again rests on two facts: no run looks at what was
printed before it, and a run that finished does not depend on its fuel, of which echo mode takes one
less.
-/

namespace Lox

/-- It takes everything and can be flushed. -/
structure Sink.Willing (sink : Sink) : Prop where
  unlimited : sink.limit = none
  flushes : sink.flushes = true

namespace Sink.Willing

variable {sink : Sink}

theorem take (willing : sink.Willing) (bytes : ByteArray) : (sink.take bytes).Willing :=
  ⟨willing.unlimited, willing.flushes⟩

theorem fits (willing : sink.Willing) (bytes : ByteArray) : sink.Fits bytes :=
  sink.unlimited_fits willing.unlimited bytes

theorem take_append (willing : sink.Willing) (first second : ByteArray) :
    sink.take (first ++ second) = (sink.take first).take second :=
  Sink.take_append (willing.fits first)

theorem written_take (willing : sink.Willing) (bytes : ByteArray) :
    (sink.take bytes).written = sink.written ++ bytes := by
  rw [take_of_fits (willing.fits bytes)]

end Sink.Willing

theorem Sink.willing_unlimited : Sink.unlimited.Willing :=
  ⟨rfl, rfl⟩

namespace Run

variable {α : Type} {machine : Machine} {sink : Sink}

/-! ## Sinks that never fail -/

theorem finished_atSink {result : EStateM.Result Halt Machine α} :
    Finished (atSink sink result) ↔ Finished result := by
  cases result with
  | ok a after => exact Iff.rfl
  | error halt after => cases halt <;> exact Iff.rfl

/-- The machine as it is before anything is printed. -/
def unprinted (machine : Machine) : Machine :=
  { machine with sink := .unlimited }

theorem Delivers.willing {run : Run α} (delivers : Delivers run) (willing : machine.sink.Willing) :
    run machine = atSink (machine.sink.take (printed (run (unprinted machine))))
      (run (unprinted machine)) :=
  (delivers machine machine.sink willing.flushes).whole (willing.fits _)

theorem Delivers.printed_eq {run : Run α} (delivers : Delivers run)
    (willing : machine.sink.Willing) :
    printed (run machine) = machine.sink.written ++ printed (run (unprinted machine)) := by
  rw [delivers.willing willing, printed, sink_left_atSink, willing.written_take]

/-- A run leaves the sink willing. -/
theorem Delivers.willing_of_ok {run : Run α} (delivers : Delivers run)
    (willing : machine.sink.Willing) {a : α} {after : Machine} (done : run machine = .ok a after) :
    after.sink.Willing := by
  have same : (left (run machine)).sink = _ := congrArg (fun result => (left result).sink)
    (delivers.willing willing)
  rw [done, sink_left_atSink] at same
  exact (show after.sink = _ from same) ▸ willing.take _

/-- Whether a run finishes does not hang on what was printed before. -/
theorem Delivers.finished_iff {run : Run α} (delivers : Delivers run)
    (willing : machine.sink.Willing) :
    Finished (run machine) ↔ Finished (run (unprinted machine)) := by
  rw [delivers.willing willing, finished_atSink]

/-! ## One statement -/

/-- The echo of a statement: the value of an expression statement, if it gives one, and a line
feed. -/
def echoOf (fuel : Nat) (stmt : Stmt) (machine : Machine) : ByteArray :=
  match stmt with
  | .expression expr =>
    match evaluate fuel expr machine with
    | .ok value _ => (value.text ++ "\n").toUTF8
    | .error _ _ => .empty
  | _ => .empty

theorem executeTop_false (fuel : Nat) (stmt : Stmt) :
    executeTop false fuel stmt = execute fuel stmt >>= fun _ => pure () :=
  discard_eq_bind _

theorem executeTop_expression (fuel : Nat) (expr : Expr) :
    executeTop false (fuel + 1) (.expression expr) = evaluate fuel expr >>= fun _ => pure () := by
  have evaluated : execute (fuel + 1) (.expression expr) =
      evaluate fuel expr >>= fun _ => pure .normal := rfl
  rw [executeTop_false, evaluated, bind_assoc]
  rfl

theorem executeTop_true_expression (fuel : Nat) (expr : Expr) :
    executeTop true fuel (.expression expr) = evaluate fuel expr >>= print := rfl

/-- Where an expression statement finishes, echo mode prints its value behind what it printed. -/
theorem executeTop_echo_expression {fuel : Nat} {expr : Expr} (willing : machine.sink.Willing)
    (finished : Finished (evaluate fuel expr (unprinted machine))) :
    executeTop true (fuel + 1) (.expression expr) machine =
      atSink (machine.sink.take
          (printed (executeTop false (fuel + 1) (.expression expr) (unprinted machine)) ++
            echoOf (fuel + 1) (.expression expr) (unprinted machine)))
        (executeTop false (fuel + 1) (.expression expr) (unprinted machine)) := by
  -- Echo mode evaluates with the fuel of the statement, which is one more.
  have more := (extending (Nat.le_succ fuel)).evaluate expr (unprinted machine) finished
  have evaluated := ((delivering (fuel + 1)).evaluate expr).willing willing
  rw [executeTop_true_expression, executeTop_expression, willing.take_append]
  simp only [echoOf]
  rw [more] at evaluated ⊢
  cases free : evaluate fuel expr (unprinted machine) with
  | ok value after =>
    rw [free] at evaluated
    have fits := (willing.take (printed (.ok value after))).fits (value.text ++ "\n").toUTF8
    rw [run_bind_ok evaluated, run_print, if_pos fits, run_bind_ok free]
    rfl
  | error halt after =>
    rw [free] at evaluated
    rw [run_bind_error evaluated, run_bind_error free, Sink.take_empty]
    rfl

/-- Where a statement finishes, echo mode does the same, and adds the echo to what it prints. -/
theorem executeTop_echo {fuel : Nat} {stmt : Stmt} (willing : machine.sink.Willing)
    (finished : Finished (executeTop false fuel stmt (unprinted machine))) :
    executeTop true fuel stmt machine =
      atSink (machine.sink.take (printed (executeTop false fuel stmt (unprinted machine)) ++
          echoOf fuel stmt (unprinted machine)))
        (executeTop false fuel stmt (unprinted machine)) := by
  cases stmt with
  | expression expr =>
    cases fuel with
    | zero => exact finished.elim
    | succ fuel =>
      rw [executeTop_expression] at finished
      exact executeTop_echo_expression willing (finished_of_bind finished)
  | _ =>
    simp only [echoOf]
    rw [ByteArray.append_empty]
    exact (delivers_executeTop false fuel _).willing willing

theorem extends_executeTop {fuel more : Nat} (atMost : fuel ≤ more) (echo : Bool) (stmt : Stmt) :
    Extends (executeTop echo fuel stmt) (executeTop echo more stmt) := by
  have executed : Extends (executeTop false fuel stmt) (executeTop false more stmt) := by
    rw [executeTop_false, executeTop_false]
    exact ((extending atMost).execute stmt).bind fun _ => .refl _
  cases echo with
  | false => exact executed
  | true =>
    cases stmt with
    | expression expr => exact ((extending atMost).evaluate expr).bind fun _ => .refl _
    | _ => exact executed

/-- What finishes in echo mode finishes otherwise, with the fuel that an expression statement
takes. -/
theorem finished_executeTop {fuel : Nat} {stmt : Stmt}
    (finished : Finished (executeTop true fuel stmt machine)) :
    Finished (executeTop false (fuel + 1) stmt machine) := by
  have further : Finished (executeTop false fuel stmt machine) →
      Finished (executeTop false (fuel + 1) stmt machine) := by
    intro finished
    rw [extends_executeTop (Nat.le_succ fuel) false stmt machine finished]
    exact finished
  cases stmt with
  | expression expr =>
    rw [executeTop_expression]
    have evaluated : Finished (evaluate fuel expr machine) := finished_of_bind finished
    cases result : evaluate fuel expr machine with
    | ok value after =>
      rw [run_bind_ok result]
      trivial
    | error halt after =>
      rw [result] at evaluated
      rw [run_bind_error result]
      cases halt <;> exact evaluated
  | _ => exact further finished

/-! ## Programs -/

/-- What a statement at the top of a program prints, and its echo. -/
structure Shown where
  printed : ByteArray
  echo : ByteArray

/-- What the statements of a program show one by one, up to one at which the program stops. Each is
run before anything is printed, so that what it prints is told from what others print. -/
def transcript (fuel : Nat) : List Stmt → Machine → List Shown
  | [], _ => []
  | stmt :: rest, machine =>
    let result := executeTop false fuel stmt (unprinted machine)
    ⟨printed result, echoOf fuel stmt (unprinted machine)⟩ ::
      match result with
      | .ok _ after => transcript fuel rest after
      | .error _ _ => []

/-- All that is printed. -/
def Shown.plain : List Shown → ByteArray
  | [] => .empty
  | shown :: rest => shown.printed ++ plain rest

/-- All that is printed, with each echo right behind what its statement printed. -/
def Shown.echoed : List Shown → ByteArray
  | [] => .empty
  | shown :: rest => shown.printed ++ shown.echo ++ echoed rest

variable {fuel : Nat}

theorem forM_cons (echo : Bool) (stmt : Stmt) (rest : List Stmt) :
    (stmt :: rest).forM (executeTop echo fuel) =
      executeTop echo fuel stmt >>= fun _ => rest.forM (executeTop echo fuel) :=
  rfl

/-- The statements print what the transcript shows. -/
theorem printed_forM (program : List Stmt) (machine : Machine) :
    printed (program.forM (executeTop false fuel) (unprinted machine)) =
      Shown.plain (transcript fuel program machine) := by
  induction program generalizing machine with
  | nil => rfl
  | cons stmt rest ih =>
    simp only [forM_cons, transcript, Shown.plain]
    cases result : executeTop false fuel stmt (unprinted machine) with
    | ok done after =>
      have willing := (delivers_executeTop false fuel stmt).willing_of_ok Sink.willing_unlimited
        result
      rw [run_bind_ok result, (delivers_forM false fuel rest).printed_eq willing, ih]
      rfl
    | error halt after =>
      rw [run_bind_error result]
      exact ByteArray.append_empty.symm

/-- What a program shows does not hang on what was printed before. -/
theorem transcript_withSink (program : List Stmt) (machine : Machine) (sink : Sink) :
    transcript fuel program { machine with sink } = transcript fuel program machine := by
  cases program with
  | nil => rfl
  | cons stmt rest => rfl

/-- Where the statements finish, echo mode does the same, and prints the echoes too. -/
theorem forM_echo (program : List Stmt) {machine : Machine} (willing : machine.sink.Willing)
    (finished : Finished (program.forM (executeTop false fuel) (unprinted machine))) :
    program.forM (executeTop true fuel) machine =
      atSink (machine.sink.take (Shown.echoed (transcript fuel program machine)))
        (program.forM (executeTop false fuel) (unprinted machine)) := by
  induction program generalizing machine with
  | nil =>
    show EStateM.Result.ok () machine = .ok () { machine with sink := machine.sink.take .empty }
    rw [Sink.take_empty]
  | cons stmt rest ih =>
    simp only [forM_cons, transcript, Shown.echoed] at finished ⊢
    have echoed := executeTop_echo willing (finished_of_bind finished)
    rw [willing.take_append]
    cases result : executeTop false fuel stmt (unprinted machine) with
    | ok done after =>
      rw [result] at echoed
      rw [run_bind_ok result] at finished ⊢
      -- Both modes go on from the same machine, but for what its sink holds.
      have willingPlain := (delivers_executeTop false fuel stmt).willing_of_ok
        Sink.willing_unlimited result
      have plain := delivers_forM false fuel rest
      rw [plain.finished_iff willingPlain] at finished
      rw [run_bind_ok echoed, plain.willing willingPlain, atSink_atSink]
      let shown := printed (.ok done after) ++ echoOf fuel stmt (unprinted machine)
      have next := @ih { after with sink := machine.sink.take shown } (willing.take shown) finished
      rw [transcript_withSink] at next
      exact next
    | error halt after =>
      rw [result] at echoed
      rw [run_bind_error result, run_bind_error echoed]
      rw [Shown.echoed, Sink.take_empty]
      rfl

/-- Programs that finish in echo mode finish otherwise, with a little more fuel. -/
theorem finished_forM (program : List Stmt) {machine : Machine} (willing : machine.sink.Willing)
    (finished : Finished (program.forM (executeTop true fuel) machine)) :
    Finished (program.forM (executeTop false (fuel + 1)) (unprinted machine)) := by
  induction program generalizing machine with
  | nil => trivial
  | cons stmt rest ih =>
    rw [forM_cons] at finished ⊢
    have first := finished_of_bind finished
    have plain := delivers_executeTop false (fuel + 1) stmt
    have done := (plain.finished_iff willing).mp (finished_executeTop first)
    have echoed := executeTop_echo willing done
    rw [extends_executeTop (Nat.le_succ fuel) true stmt machine first] at echoed
    cases result : executeTop false (fuel + 1) stmt (unprinted machine) with
    | ok _ after =>
      rw [result] at echoed
      rw [run_bind_ok echoed] at finished
      have willingPlain := plain.willing_of_ok Sink.willing_unlimited result
      rw [run_bind_ok result, (delivers_forM false _ rest).finished_iff willingPlain]
      exact @ih { after with sink := machine.sink.take _ } (willing.take _) finished
    | error halt after =>
      rw [run_bind_error result]
      rw [result] at done
      cases halt <;> exact done

/-- Where a sink never fails, a program is run from the global scope, and no more. -/
theorem runProgram_of_willing (echo : Bool) (program : List Stmt) (willing : machine.sink.Willing) :
    runProgram echo fuel program machine =
      program.forM (executeTop echo fuel) { machine with scope := machine.globals } := by
  let top := { machine with scope := machine.globals }
  have first : top.sink.Willing := willing
  show (program.forM (executeTop echo fuel) >>= fun _ => flush) top = _
  cases result : program.forM (executeTop echo fuel) top with
  | ok _ after =>
    have last := (delivers_forM echo fuel program).willing_of_ok first result
    rw [run_bind_ok result, flush_of_flushes last.flushes]
  | error halt after => rw [run_bind_error result]

end Run
end Lox
