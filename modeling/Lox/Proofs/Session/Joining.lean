import Lox.Proofs.Grammar.Neighbours
import Lox.Proofs.Run.Provenance
import Lox.Proofs.Session.Layout
import Lox.Proofs.Session.Scoping
import Lox.Proofs.Token.Joining

/-!
# Sources one after another

Two accepted sources can be run one after the other, or be joined by a line feed and run at once.
That makes no difference but for the places of the second source's tokens, which are those behind
the first source.
-/

namespace Lox

open Grammar Run Text Token Session

/-- A diagnostic some lines further down and some bytes further on. -/
def Diagnostic.shift (lines bytes : Nat) (diagnostic : Diagnostic) : Diagnostic :=
  { diagnostic with
    line := diagnostic.line + lines
    span := ⟨diagnostic.span.start + bytes, diagnostic.span.stop + bytes⟩ }

/-! ## Compiling -/

/-- Tokens that spell a program before their end, and further tokens in the place of the end. -/
theorem Program.parse_joined {tokens later : List Token} (correct : (parse tokens).errors = [])
    (laterCorrect : (parse later).errors = []) :
    parse (tokens.takeWhile (·.kind ≠ .eof) ++ later) =
      ⟨(parse tokens).statements ++ (parse later).statements, []⟩ := by
  have proper : ∀ token ∈ tokens.takeWhile (·.kind ≠ .eof), decide (token.kind ≠ .eof) = true :=
    fun _ => List.mem_takeWhile_imp
  have both := (derives_of_clean correct).append (derives_of_clean laterCorrect)
  rw [← List.takeWhile_append_of_pos proper] at both
  exact parse_of_derives both

/-- The joined source has the statements of both, those of the second moved on. -/
theorem compile_joined {first second : String} {early late : List Stmt}
    (accepted : compile first = .ok early) (laterAccepted : compile second = .ok late)
    (plain : Plain first.toList) :
    compile (first ++ "\n" ++ second) =
      .ok (early ++ late.map (·.relocate
        (.shift (1 + first.toList.count '\n') (byteLength first.toList + 1)))) := by
  obtain ⟨clean, correct, rfl⟩ := compile_eq_ok accepted
  obtain ⟨laterClean, laterCorrect, rfl⟩ := compile_eq_ok laterAccepted
  have apart := (Program.derives_of_clean correct).slashesLead.isChain
  have scan := scan_joined plain clean laterClean apart
  generalize Relocation.shift _ _ = move at scan ⊢
  have moved : Program.parse ((Token.scan second).tokens.map (·.relocate move)) = _ :=
    Program.parse_relocate (scan_has_end second)
  have movedCorrect :
      (Program.parse ((Token.scan second).tokens.map (·.relocate move))).errors = [] := by
    rw [moved]
    simp [Program.relocate, laterCorrect]
  rw [compile_of_clean (by rw [scan]), scan, Program.parse_joined correct movedCorrect, moved]
  rfl

/-! ## Running -/

namespace Run

/-- The statements in front are run first, and those behind them only if these end without an
error. -/
theorem runProgram_append {machine : Machine} (flushes : machine.sink.flushes = true) (echo : Bool)
    (fuel : Nat) (early late : List Stmt) :
    runProgram echo fuel (early ++ late) machine =
      match runProgram echo fuel early machine with
      | .ok _ middle => runProgram echo fuel late middle
      | .error halt after => .error halt after := by
  let start : Machine := { machine with scope := machine.globals }
  have split : (early ++ late).forM (executeTop echo fuel) =
      early.forM (executeTop echo fuel) >>= fun _ => late.forM (executeTop echo fuel) :=
    List.forM_append
  have kept := (keeps_forM echo fuel early start start.store.carries_spares_nothing).1
  rw [runProgram_eq, runProgram_eq]
  unfold runFromHere
  rw [split, bind_assoc]
  cases ran : early.forM (executeTop echo fuel) start with
  | error halt after => rw [run_bind_error ran, run_bind_error ran]
  | ok _ middle =>
    rw [ran] at kept
    have middleFlushes : middle.sink.flushes = true := kept.sinkFlushes.trans flushes
    have outside : middle.scope = middle.globals := kept.scope.trans kept.globals.symm
    rw [run_bind_ok ran, run_bind_ok ran, flush_of_flushes middleFlushes]
    exact (runProgram_of_outside outside echo fuel late).symm

end Run

/-! ## Sessions -/

/-- Only the place of the error tells where the program's own tokens are. -/
theorem settle_unmark_shift (lines bytes : Nat) (marked : EStateM.Result Halt Machine Unit) :
    (settle (relocateResult (.unmark (.shift lines bytes) .stay) marked)).1 =
      match (settle (relocateResult (.unmark .stay .stay) marked)).1 with
      | .failed diagnostic =>
        .failed (if stopsAtOwn marked then diagnostic.shift lines bytes else diagnostic)
      | outcome => outcome := by
  cases marked with
  | ok _ after => rfl
  | error halt after =>
    cases halt with
    | outOfFuel => rfl
    | error stop =>
      cases stop with
      | output failure => rfl
      | blamed cause token =>
        show Outcome.failed _ = Outcome.failed (if token.isOwn then Diagnostic.shift _ _ _ else _)
        simp only [RuntimeError.relocate]
        by_cases own : token.isOwn = true
        · rw [if_pos own, relocate_unmark_of_own _ _ own, relocate_unmark_of_own _ _ own]
          rfl
        · rw [if_neg own, relocate_unmark_of_not_own _ _ own, relocate_unmark_of_not_own _ _ own]

theorem settle_alike (move other : Relocation) (result : EStateM.Result Halt Machine Unit) :
    (settle (relocateResult move result)).2.Alike (settle (relocateResult other result)).2 := by
  have machines : ∀ move, (settle (relocateResult move result)).2.machine.relocate .forget =
      (left result).relocate .forget := by
    intro move
    cases result with
    | ok _ after => exact after.relocate_relocate move .forget
    | error halt after => cases halt <;> exact after.relocate_relocate move .forget
  exact (machines move).trans (machines other).symm

theorem settle_completed {result : EStateM.Result Halt Machine Unit}
    (completed : (settle result).1 = .completed) :
    result = .ok () (settle result).2.machine := by
  cases result with
  | ok _ after => rfl
  | error halt after => cases halt <;> cases completed

/-- Sources that are accepted one by one, the first without an opening marker before a slash, are
accepted when they are joined by a line feed. Run at once, with a sink that can be flushed, they do
what the first does, if that stops early. If it does not, they do what the second does behind the
first: they print the same, they leave the same machine, but that the tokens of the second source in
it are moved on, and they end alike, but that an error at a token of the second source, and at no
other, is moved on too. -/
theorem batches_compose {first second : String} {early late : List Stmt}
    (accepted : compile first = .ok early) (laterAccepted : compile second = .ok late)
    (plain : ¬ ['/', '*', '/'] <:+: first.toList) :
    let lines := 1 + first.toList.count '\n'
    let bytes := byteLength first.toList + 1
    let joined := first ++ "\n" ++ second
    compile joined = .ok (early ++ late.map (·.relocate (.shift lines bytes))) ∧
    ∀ (session : Session) (echo : Bool) (fuel : Nat), session.machine.sink.flushes = true →
      let between := session.run echo fuel first
      let apart := between.2.run echo fuel second
      let together := session.run echo fuel joined
      (between.1 ≠ .completed → together = between) ∧
      (between.1 = .completed →
        let marked := runMarked echo fuel late between.2.machine
        together.2.output = apart.2.output ∧ together.2.Alike apart.2 ∧
        apart = settle (relocateResult (.unmark .stay .stay) marked) ∧
        together = settle (relocateResult (.unmark (.shift lines bytes) .stay) marked) ∧
        together.1 = match apart.1 with
          | .failed diagnostic =>
            .failed (if stopsAtOwn marked then diagnostic.shift lines bytes else diagnostic)
          | outcome => outcome) := by
  intro lines bytes joined
  have joinedAccepted := compile_joined accepted laterAccepted plain
  refine ⟨joinedAccepted, ?_⟩
  intro session echo fuel flushes between apart together
  have betweenRuns : between = _ := session.run_eq_settle accepted echo fuel
  have apartRuns : apart = _ := between.2.run_eq_settle laterAccepted echo fuel
  have togetherRuns : together = _ := session.run_eq_settle joinedAccepted echo fuel
  rw [runProgram_append flushes] at togetherRuns
  constructor
  · intro stopped
    cases ran : runProgram echo fuel early session.machine with
    | ok _ middle =>
      rw [ran] at betweenRuns
      exact absurd (congrArg Prod.fst betweenRuns) stopped
    | error halt after => rw [togetherRuns, betweenRuns, ran]
  · intro completed marked
    have ran : runProgram echo fuel early session.machine = .ok () between.2.machine := by
      rw [betweenRuns] at completed ⊢
      exact settle_completed completed
    rw [ran] at togetherRuns
    rw [runProgram_unmoved] at apartRuns
    simp only [runProgram_moved] at togetherRuns
    have alike : together.2.Alike apart.2 := by
      rw [togetherRuns, apartRuns]
      exact settle_alike _ _ marked
    have sinks := congrArg (fun machine => machine.sink.written) alike
    refine ⟨sinks, alike, apartRuns, togetherRuns, ?_⟩
    rw [togetherRuns, apartRuns]
    exact settle_unmark_shift lines bytes marked

theorem compile_of_function : compile "fun f() \x7b x; \x7d // é" =
    .ok [.function ⟨.identifier, "f", none, 1, ⟨4, 5⟩⟩
      ⟨[], [.expression (.var ⟨.identifier, "x", none, 1, ⟨10, 11⟩⟩)]⟩] := by
  cbv

theorem compile_of_call : compile "f();" =
    .ok [.expression (.call (.var ⟨.identifier, "f", none, 1, ⟨0, 1⟩⟩)
      ⟨.rightParen, ")", none, 1, ⟨2, 3⟩⟩ [])] := by
  cbv

theorem compile_of_variable : compile "\nx;" =
    .ok [.expression (.var ⟨.identifier, "x", none, 2, ⟨1, 2⟩⟩)] := by
  cbv

/-- An undefined variable, met in a function of the first source and then in the second source. The
first diagnostic stays where it is; the other is moved on by one line and twenty-one bytes. -/
theorem batches_compose_undefined :
    let session := Session.start .unlimited fun _ => .ofNat 0
    let first := "fun f() \x7b x; \x7d // é"
    let between := session.run false 9 first
    ¬ ['/', '*', '/'] <:+: first.toList ∧ between.1 = .completed ∧
      (between.2.run false 9 "f();").1 =
        .failed ⟨.duringRun, "Undefined variable 'x'.", 1, none, ⟨10, 11⟩⟩ ∧
      (session.run false 9 (first ++ "\n" ++ "f();")).1 =
        .failed ⟨.duringRun, "Undefined variable 'x'.", 1, none, ⟨10, 11⟩⟩ ∧
      (between.2.run false 9 "\nx;").1 =
        .failed ⟨.duringRun, "Undefined variable 'x'.", 2, none, ⟨1, 2⟩⟩ ∧
      (session.run false 9 (first ++ "\n" ++ "\nx;")).1 =
        .failed ⟨.duringRun, "Undefined variable 'x'.", 3, none, ⟨22, 23⟩⟩ := by
  intro session first between
  have plain : ¬ ['/', '*', '/'] <:+: first.toList := by decide
  have ran : between = _ := session.run_eq_settle compile_of_function false 9
  have completed : between.1 = .completed := by
    rw [ran]
    rfl
  have inCall : (between.2.run false 9 "f();").1 =
      .failed ⟨.duringRun, "Undefined variable 'x'.", 1, none, ⟨10, 11⟩⟩ := by
    rw [between.2.run_eq_settle compile_of_call, ran]
    rfl
  have inSecond : (between.2.run false 9 "\nx;").1 =
      .failed ⟨.duringRun, "Undefined variable 'x'.", 2, none, ⟨1, 2⟩⟩ := by
    rw [between.2.run_eq_settle compile_of_variable, ran]
    rfl
  refine ⟨plain, completed, inCall, ?_, inSecond, ?_⟩
  · obtain ⟨-, runs⟩ := batches_compose compile_of_function compile_of_call plain
    obtain ⟨-, -, -, -, outcome⟩ := (runs session false 9 rfl).2 completed
    rw [outcome, inCall, session.run_eq_settle compile_of_function]
    dsimp only [session]
    decide +kernel
  · obtain ⟨-, runs⟩ := batches_compose compile_of_function compile_of_variable plain
    obtain ⟨-, -, -, -, outcome⟩ := (runs session false 9 rfl).2 completed
    rw [outcome, inSecond, session.run_eq_settle compile_of_function]
    dsimp only [session]
    decide +kernel

end Lox
