import Lox.Proofs.Program.Acceptance
import Lox.Proofs.Run.Completion
import Lox.Session

/-!
# What a session runs is well-formed

A source that is accepted spells a well-formed program, whose tokens are among those of the source.
So a session only ever holds functions that are well-formed.
-/

namespace Lox

open Grammar

variable {known : Token → Prop}

theorem Program.formed_of_clean {tokens : List Token} (clean : (Program.parse tokens).errors = [])
    (inside : ∀ token ∈ tokens, known token) :
    ∀ stmt ∈ (Program.parse tokens).statements, Stmt.Formed known .top stmt :=
  (Program.derives_of_clean clean).formed fun token member =>
    inside token ((List.takeWhile_prefix _).subset member)

/-- A source is accepted only if neither its characters nor its tokens have errors. -/
theorem compile_eq_ok {source : String} {program : List Stmt}
    (accepted : compile source = .ok program) :
    (Token.scan source).errors = [] ∧
      (Program.parse (Token.scan source).tokens).errors = [] ∧
      (Program.parse (Token.scan source).tokens).statements = program := by
  simp only [compile] at accepted
  split at accepted
  · next clean =>
    simp only [Bool.and_eq_true, List.isEmpty_iff] at clean
    exact ⟨clean.1, clean.2, Except.ok.inj accepted⟩
  · cases accepted

theorem compile_formed {source : String} {program : List Stmt}
    (accepted : compile source = .ok program)
    (inside : ∀ token ∈ (Token.scan source).tokens, known token) :
    ∀ stmt ∈ program, Stmt.Formed known .top stmt := by
  obtain ⟨-, clean, rfl⟩ := compile_eq_ok accepted
  exact Program.formed_of_clean clean inside

/-- Runs without a watcher keep machines well-formed. -/
theorem Run.ends_runProgram (echo : Bool) (fuel : Nat) {program : List Stmt}
    (accepted : ∀ stmt ∈ program, Stmt.Formed known .top stmt) {machine : Machine}
    (formed : machine.Formed known) :
    Ends known (fun _ => True) (runProgram echo fuel program machine) := by
  have idle : Watch.idle.Patient := fun _ _ _ => rfl
  exact (agree_runProgram idle echo fuel accepted machine formed).2

/-- The diagnostic is about the token. -/
inductive Diagnostic.Blames (token : Token) : Diagnostic → Prop
  | beforeRun (cause : SyntaxError.Cause) : Blames token (SyntaxError.mk cause token).diagnostic
  | duringRun (cause : RuntimeError.Cause) :
      Blames token (RuntimeError.blamed cause token).diagnostic

theorem Diagnostic.Blames.place {token : Token} {d : Diagnostic} (blames : d.Blames token) :
    d.line = token.line ∧ d.span = token.span := by
  cases blames <;> exact ⟨rfl, rfl⟩

/-- A source, and how it is run. -/
structure Session.Step where
  echo : Bool
  fuel : Nat
  source : String

namespace Session

theorem formed_run {session : Session} (formed : session.machine.Formed known) (echo : Bool)
    (fuel : Nat) (source : String) (inside : ∀ token ∈ (Token.scan source).tokens, known token) :
    (session.run echo fuel source).2.machine.Formed known := by
  unfold Session.run
  split
  · exact formed
  · next program accepted =>
    have ends := Run.ends_runProgram echo fuel (compile_formed accepted inside) formed
    split <;> rename_i result <;> rw [result] at ends <;> exact ends.1

/-- A run that fails blames a known token, unless the sink failed. -/
theorem blames_of_failed {session : Session} (formed : session.machine.Formed known) {echo : Bool}
    {fuel : Nat} {source : String} (inside : ∀ token ∈ (Token.scan source).tokens, known token)
    {diagnostic : Diagnostic} (failed : (session.run echo fuel source).1 = .failed diagnostic) :
    (∃ failure, diagnostic = (RuntimeError.output failure).diagnostic) ∨
      ∃ token, known token ∧ diagnostic.Blames token := by
  unfold Session.run at failed
  split at failed
  · cases failed
  · next program accepted =>
    have ends := Run.ends_runProgram echo fuel (compile_formed accepted inside) formed
    split at failed <;> rename_i result <;> rw [result] at ends <;> cases failed
    · next error machine =>
      cases error with
      | blamed cause token => exact .inr ⟨token, ends.2, .duringRun cause⟩
      | output failure => exact .inl ⟨failure, rfl⟩

/-- Runs sources one after another. -/
def runAll (session : Session) : List Step → List Outcome × Session
  | [] => ([], session)
  | step :: rest =>
    let (outcome, session) := session.run step.echo step.fuel step.source
    let (outcomes, session) := session.runAll rest
    (outcome :: outcomes, session)

theorem formed_runAll {session : Session} (formed : session.machine.Formed known)
    (steps : List Step)
    (inside : ∀ step ∈ steps, ∀ token ∈ (Token.scan step.source).tokens, known token) :
    (session.runAll steps).2.machine.Formed known := by
  induction steps generalizing session with
  | nil => exact formed
  | cons step rest ih =>
    rw [List.forall_mem_cons] at inside
    exact ih (formed_run formed step.echo step.fuel step.source inside.1) inside.2

end Session
end Lox
