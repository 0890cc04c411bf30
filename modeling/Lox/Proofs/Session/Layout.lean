import Lox.Proofs.Parser.Relocation
import Lox.Proofs.Run.Relocation
import Lox.Proofs.Session.Completion
import Lox.Proofs.Token.Place

/-!
# Layout does not count

Two sources whose tokens are the same, up to where they stand, are the same program. They are
refused with the same errors or run alike, and whatever is reported of them differs in lines and
spans alone.
-/

namespace Lox

open Run

/-- A diagnostic without its line and its span. -/
def Diagnostic.unplaced (diagnostic : Diagnostic) : Diagnostic :=
  { diagnostic with line := 0, span := .nowhere }

def Outcome.unplaced : Outcome → Outcome
  | completed => completed
  | rejected diagnostics => rejected (diagnostics.map Diagnostic.unplaced)
  | failed diagnostic => failed diagnostic.unplaced
  | outOfFuel => outOfFuel

/-- The two sessions differ at most in the places of the tokens that their functions keep. -/
def Session.Alike (session twin : Session) : Prop :=
  session.machine.relocate .forget = twin.machine.relocate .forget

theorem Session.Alike.refl (session : Session) : session.Alike session := rfl

/-! ## Parsing -/

theorem Token.map_forget_of_content {tokens others : List Token}
    (same : tokens.map content = others.map content) :
    tokens.map (·.relocate .forget) = others.map (·.relocate .forget) := by
  let rebuild : Token.Kind × String × Option Literal → Token :=
    fun content => ⟨content.1, content.2.1, content.2.2, 0, .nowhere⟩
  have forgets : ∀ tokens : List Token,
      tokens.map (·.relocate .forget) = (tokens.map content).map rebuild := by
    intro tokens
    rw [List.map_map]
    rfl
  rw [forgets, forgets, same]

theorem Token.scan_has_end (source : String) :
    ∃ token ∈ (scan source).tokens, token.kind = .eof :=
  ⟨_, List.mem_append_right _ (List.mem_singleton_self _), rfl⟩

theorem Program.parse_forget {source other : String}
    (same : (Token.scan source).tokens.map Token.content =
      (Token.scan other).tokens.map Token.content) :
    (Program.parse (Token.scan source).tokens).relocate .forget =
      (Program.parse (Token.scan other).tokens).relocate .forget := by
  rw [← Program.parse_relocate (Token.scan_has_end source), Token.map_forget_of_content same,
    Program.parse_relocate (Token.scan_has_end other)]

/-- What an error says does not hang on the place of its token. -/
theorem SyntaxError.map_of_forget {α : Type} {errors others : List SyntaxError}
    {f : SyntaxError → α} (blind : ∀ error, f error = f (error.relocate .forget))
    (same : errors.map (·.relocate .forget) = others.map (·.relocate .forget)) :
    errors.map f = others.map f := by
  have forgets : f = f ∘ (·.relocate .forget) := funext blind
  rw [forgets, ← List.map_map, same, List.map_map]

/-! ## Running -/

theorem settle_forget (result : EStateM.Result Halt Machine Unit) :
    Session.settle (relocateResult .forget result) =
      ((Session.settle result).1.unplaced,
        ⟨(Session.settle result).2.machine.relocate .forget⟩) := by
  cases result with
  | ok _ after => rfl
  | error halt after =>
    cases halt with
    | error stop => cases stop <;> rfl
    | outOfFuel => rfl

theorem Session.run_eq_settle {source : String} {program : List Stmt}
    (accepted : compile source = .ok program) (session : Session) (echo : Bool) (fuel : Nat) :
    session.run echo fuel source = settle (runProgram echo fuel program session.machine) := by
  unfold Session.run
  rw [accepted]
  rfl

theorem Session.run_of_rejected {source : String} {diagnostics : List Diagnostic}
    (rejected : compile source = .error diagnostics) (session : Session) (echo : Bool)
    (fuel : Nat) : session.run echo fuel source = (.rejected diagnostics, session) := by
  unfold Session.run
  rw [rejected]

theorem Session.forget_run {source : String} {program : List Stmt}
    (accepted : compile source = .ok program) (session : Session) (echo : Bool) (fuel : Nat) :
    ((session.run echo fuel source).1.unplaced,
        (⟨(session.run echo fuel source).2.machine.relocate .forget⟩ : Session)) =
      settle (runProgram echo fuel (program.map (·.relocate .forget))
        (session.machine.relocate .forget)) := by
  rw [session.run_eq_settle accepted, runProgram_relocate, settle_forget]

/-- A source without lexical errors is accepted if it has no syntax errors either. -/
theorem compile_of_clean {source : String} (clean : (Token.scan source).errors = []) :
    compile source =
      if (Program.parse (Token.scan source).tokens).errors = [] then
        .ok (Program.parse (Token.scan source).tokens).statements
      else
        .error ((Program.parse (Token.scan source).tokens).errors.map (·.diagnostic)) := by
  unfold compile
  simp [clean]

/-- What two sources with the same tokens up to their places come to: two programs that are the same
up to places, or two lists of diagnostics that are. -/
theorem compile_forget {source other : String} (clean : (Token.scan source).errors = [])
    (otherClean : (Token.scan other).errors = [])
    (same : (Token.scan source).tokens.map Token.content =
      (Token.scan other).tokens.map Token.content) :
    (∃ program twin, compile source = .ok program ∧ compile other = .ok twin ∧
      program.map (·.relocate .forget) = twin.map (·.relocate .forget)) ∨
    ∃ diagnostics twins, compile source = .error diagnostics ∧ compile other = .error twins ∧
      diagnostics.map Diagnostic.unplaced = twins.map Diagnostic.unplaced := by
  have programs := Program.parse_forget same
  have statements := congrArg Program.statements programs
  have errors := congrArg Program.errors programs
  simp only [Program.relocate] at statements errors
  have none : (Program.parse (Token.scan source).tokens).errors = [] ↔
      (Program.parse (Token.scan other).tokens).errors = [] := by
    rw [← List.map_eq_nil_iff (f := (·.relocate .forget)), errors, List.map_eq_nil_iff]
  rw [compile_of_clean clean, compile_of_clean otherClean]
  by_cases correct : (Program.parse (Token.scan source).tokens).errors = []
  · rw [if_pos correct, if_pos (none.mp correct)]
    exact .inl ⟨_, _, rfl, rfl, statements⟩
  · rw [if_neg correct, if_neg fun absurd => correct (none.mpr absurd)]
    refine .inr ⟨_, _, rfl, rfl, ?_⟩
    rw [List.map_map, List.map_map]
    exact SyntaxError.map_of_forget (fun _ => rfl) errors

/-- Sources with the same tokens up to their places have the same errors in the same order; one is
accepted if and only if the other is; and from sessions that are alike, as one session is like
itself, they end alike, with the same output, and leave the sessions alike. -/
theorem layout_independent {source other : String} (clean : (Token.scan source).errors = [])
    (otherClean : (Token.scan other).errors = [])
    (same : (Token.scan source).tokens.map Token.content =
      (Token.scan other).tokens.map Token.content) :
    (Program.parse (Token.scan source).tokens).errors.map
        (fun error => (error.message, error.location)) =
      (Program.parse (Token.scan other).tokens).errors.map
        (fun error => (error.message, error.location)) ∧
    ((∃ program, compile source = .ok program) ↔ ∃ program, compile other = .ok program) ∧
    ∀ (session twin : Session) (echo : Bool) (fuel : Nat), session.Alike twin →
      (session.run echo fuel source).2.output = (twin.run echo fuel other).2.output ∧
      (session.run echo fuel source).1.unplaced = (twin.run echo fuel other).1.unplaced ∧
      (session.run echo fuel source).2.Alike (twin.run echo fuel other).2 := by
  have errors := congrArg Program.errors (Program.parse_forget same)
  refine ⟨SyntaxError.map_of_forget (fun _ => rfl) errors, ?_⟩
  rcases compile_forget clean otherClean same with
    ⟨program, programTwin, accepted, otherAccepted, alike⟩ |
    ⟨diagnostics, twins, rejected, otherRejected, unplaced⟩
  · refine ⟨⟨fun _ => ⟨_, otherAccepted⟩, fun _ => ⟨_, accepted⟩⟩, ?_⟩
    intro session twin echo fuel sessions
    have ended := session.forget_run accepted echo fuel
    rw [alike, sessions, ← twin.forget_run otherAccepted echo fuel] at ended
    obtain ⟨outcomes, after⟩ := Prod.mk.inj ended
    have machines := congrArg Session.machine after
    have sinks := congrArg (fun machine => machine.sink.written) machines
    exact ⟨sinks, outcomes, machines⟩
  · constructor
    · simp [rejected, otherRejected]
    · intro session twin echo fuel sessions
      have sinks := congrArg (fun machine => machine.sink.written) sessions
      rw [session.run_of_rejected rejected, twin.run_of_rejected otherRejected]
      exact ⟨sinks, congrArg Outcome.rejected unplaced, sessions⟩

theorem scan_on_one_line : Token.scan "print x; // none" =
    ⟨[⟨.kwPrint, "print", none, 1, ⟨0, 5⟩⟩, ⟨.identifier, "x", none, 1, ⟨6, 7⟩⟩,
      ⟨.semicolon, ";", none, 1, ⟨7, 8⟩⟩, .endOfText 1 16], []⟩ := by
  cbv

theorem scan_on_two_lines : Token.scan "print\n  x;" =
    ⟨[⟨.kwPrint, "print", none, 1, ⟨0, 5⟩⟩, ⟨.identifier, "x", none, 2, ⟨8, 9⟩⟩,
      ⟨.semicolon, ";", none, 2, ⟨9, 10⟩⟩, .endOfText 2 10], []⟩ := by
  cbv

/-- An undefined variable, told of at two places. -/
theorem layout_independent_undefined :
    let session := Session.start .unlimited fun _ => .ofNat 0
    (Token.scan "print x; // none").errors = [] ∧ (Token.scan "print\n  x;").errors = [] ∧
      (Token.scan "print x; // none").tokens.map Token.content =
        (Token.scan "print\n  x;").tokens.map Token.content ∧
      (session.run true 9 "print x; // none").1 =
        .failed ⟨.duringRun, "Undefined variable 'x'.", 1, none, ⟨6, 7⟩⟩ ∧
      (session.run true 9 "print\n  x;").1 =
        .failed ⟨.duringRun, "Undefined variable 'x'.", 2, none, ⟨8, 9⟩⟩ ∧
      (session.run true 9 "print x; // none").1.unplaced =
        (session.run true 9 "print\n  x;").1.unplaced := by
  intro session
  have clean : (Token.scan "print x; // none").errors = [] := by rw [scan_on_one_line]
  have otherClean : (Token.scan "print\n  x;").errors = [] := by rw [scan_on_two_lines]
  have same : (Token.scan "print x; // none").tokens.map Token.content =
      (Token.scan "print\n  x;").tokens.map Token.content := by
    rw [scan_on_one_line, scan_on_two_lines]
    rfl
  refine ⟨clean, otherClean, same, ?_, ?_, ?_⟩
  · unfold Session.run compile
    rw [scan_on_one_line]
    rfl
  · unfold Session.run compile
    rw [scan_on_two_lines]
    rfl
  · obtain ⟨-, -, runs⟩ := layout_independent clean otherClean same
    exact (runs session session true 9 (.refl session)).2.1

end Lox
