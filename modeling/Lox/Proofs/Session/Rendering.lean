import Mathlib
import Lox.Proofs.Session.Formation
import Lox.Proofs.Token.Place

/-!
# Which lines of a session can be answered

What goes wrong with a line is shown with that line. All that is found before the line runs, and
every error at a token of the line itself, can be shown. A function of an earlier line, called from
this one, may fail at a token of its own, whose span counts bytes of the earlier line; that span is
cut out of the later line all the same, which fails where it begins or ends inside a character.
-/

namespace Lox

open Text

theorem Parser.endingOf_mem {tokens : List Token} {mark : Token} (member : mark ∈ tokens)
    (isEnd : mark.kind = .eof) : endingOf tokens ∈ tokens := by
  unfold endingOf
  split
  · next token found => exact List.mem_of_find?_eq_some found
  · next absent => exact absurd isEnd (by simpa using List.find?_eq_none.mp absent mark member)

/-- Errors of a source are blamed on its tokens, of which the last marks the end. -/
theorem Program.parse_scan_blamed {source : String} {error : SyntaxError}
    (member : error ∈ (Program.parse (Token.scan source).tokens).errors) :
    error.token ∈ (Token.scan source).tokens := by
  obtain ⟨pieces, fall, -, errors⟩ := Program.program_pieces (Token.scan source).tokens
  rw [errors] at member
  rcases fall.blamed error member with inside | ending
  · exact (List.takeWhile_prefix _).subset inside
  · rw [ending]
    exact Parser.endingOf_mem (List.mem_append_right _ List.mem_cons_self) rfl

/-- What is found before a source runs is a lexical error or blames a token. -/
theorem compile_error_cases {source : String} {diagnostics : List Diagnostic}
    (rejected : compile source = .error diagnostics) :
    ∀ d ∈ diagnostics, (∃ error ∈ (Token.scan source).errors, d = error.diagnostic) ∨
      ∃ token ∈ (Token.scan source).tokens, d.Blames token := by
  intro d member
  simp only [compile] at rejected
  split at rejected
  · cases rejected
  · cases rejected
    rcases List.mem_append.mp member with lexical | syntactic
    · obtain ⟨error, found, rfl⟩ := List.mem_map.mp lexical
      exact .inl ⟨error, found, rfl⟩
    · obtain ⟨error, found, rfl⟩ := List.mem_map.mp syntactic
      exact .inr ⟨error.token, Program.parse_scan_blamed found, .beforeRun error.cause⟩

/-- What is found before a source runs can be shown with it. -/
theorem compile_error_shownIn {source : String} {diagnostics : List Diagnostic}
    (rejected : compile source = .error diagnostics) :
    ∀ d ∈ diagnostics, d.span.ShownIn source.toList := by
  intro d member
  rcases compile_error_cases rejected d member with ⟨error, found, rfl⟩ | ⟨token, found, blames⟩
  · exact (Token.scan_errors_partOf found).shownIn
  · rw [blames.place.2]
    exact (Token.scan_tokens_partOf found).shownIn

namespace Session

/-- The diagnostics of a rejected source are those of its text. -/
theorem compile_of_rejected {session : Session} {echo : Bool} {fuel : Nat} {source : String}
    {diagnostics : List Diagnostic}
    (rejected : (session.run echo fuel source).1 = .rejected diagnostics) :
    compile source = .error diagnostics := by
  unfold Session.run at rejected
  split at rejected
  · next accepted => cases rejected; exact accepted
  · split at rejected <;> cases rejected

/-- A diagnostic that cannot be shown with a line comes from an error, during the run, at a token of
an earlier source. -/
theorem blames_earlier_of_unshown {sink : Sink} {clock : Nat → Number} {earlier : List Step}
    {echo : Bool} {fuel : Nat} {line : String} {outcome : Outcome} {d : Diagnostic}
    (ran : (((Session.start sink clock).runAll earlier).2.run echo fuel line).1 = outcome)
    (reported : d ∈ outcome.diagnostics) (unshown : ¬ d.span.ShownIn line.toList) :
    outcome = .failed d ∧
      ∃ step ∈ earlier, ∃ token ∈ (Token.scan step.source).tokens, d.span = token.span := by
  -- The tokens of the session: those of the earlier sources, and those of the line.
  let known : Token → Prop := fun token =>
    (∃ step ∈ earlier, token ∈ (Token.scan step.source).tokens) ∨ token ∈ (Token.scan line).tokens
  have formed : ((Session.start sink clock).runAll earlier).2.machine.Formed known :=
    formed_runAll (Machine.formed_fresh sink clock) earlier
      fun step member token found => .inl ⟨step, member, found⟩
  cases outcome with
  | completed | outOfFuel => cases reported
  | rejected diagnostics =>
    exact absurd (compile_error_shownIn (compile_of_rejected ran) d reported) unshown
  | failed diagnostic =>
    obtain rfl : d = diagnostic := List.mem_singleton.mp reported
    rcases blames_of_failed formed (fun _ found => .inr found) ran with
      ⟨failure, rfl⟩ | ⟨token, ⟨step, member, found⟩ | own, blames⟩
    · exact absurd (.inl rfl) unshown
    · exact ⟨rfl, step, member, token, found, blames.place.2⟩
    · exact absurd (blames.place.2 ▸ (Token.scan_tokens_partOf own).shownIn) unshown

end Session

/-- The exact condition on which the answer to a line cannot be shown: its run fails at a token of
an earlier source whose span cannot be shown with the line. -/
theorem unshown_iff_blames_earlier (sink : Sink) (clock : Nat → Number)
    (earlier : List Session.Step) (fuel : Nat) {line : String} (single : '\n' ∉ line.toList)
    (proper : trim line.toList ≠ []) (style : Diagnostic.Style) (file : String) :
    let session := ((Session.start sink clock).runAll earlier).2
    let outcome := (session.run true fuel line).1
    Diagnostic.renderAll? style line file outcome.diagnostics = none ↔
      ∃ d, outcome = .failed d ∧ ∃ step ∈ earlier, ∃ token ∈ (Token.scan step.source).tokens,
        d.span = token.span ∧ ¬ token.span.ShownIn line.toList := by
  intro session outcome
  have some_char : line.toList ≠ [] := fun empty => proper (by rw [empty]; rfl)
  rw [Diagnostic.renderAll?_eq_none_iff]
  constructor
  · rintro ⟨d, reported, unshown⟩
    rw [Diagnostic.render?_eq_none_iff single some_char] at unshown
    obtain ⟨failed, step, member, token, found, span⟩ :=
      Session.blames_earlier_of_unshown rfl reported unshown
    exact ⟨d, failed, step, member, token, found, span, span ▸ unshown⟩
  · rintro ⟨d, failed, step, member, token, found, span, unshown⟩
    refine ⟨d, ?_, (Diagnostic.render?_eq_none_iff single some_char d).mpr (span ▸ unshown)⟩
    rw [failed]
    exact List.mem_cons_self

/-! ## A line that cannot be answered -/

theorem compile_earlier_line : compile "fun f() \x7b x; \x7d" =
    .ok [.function ⟨.identifier, "f", none, 1, ⟨4, 5⟩⟩
      ⟨[], [.expression (.var ⟨.identifier, "x", none, 1, ⟨10, 11⟩⟩)]⟩] := by
  cbv

theorem compile_call_line : compile "f(); // éé" =
    .ok [.expression (.call (.var ⟨.identifier, "f", none, 1, ⟨0, 1⟩⟩)
      ⟨.rightParen, ")", none, 1, ⟨2, 3⟩⟩ [])] := by
  cbv

/-- The variable stands at byte 10 of the first line. A character of the second line begins there,
and byte 11 is inside it. -/
theorem run_call_of_earlier_line :
    (((Session.start .unlimited fun _ => .ofNat 0).runAll
      [⟨true, 9, "fun f() \x7b x; \x7d"⟩]).2.run true 9 "f(); // éé").1 =
      .failed ⟨.duringRun, "Undefined variable 'x'.", 1, none, ⟨10, 11⟩⟩ := by
  simp only [Session.runAll, Session.run, compile_earlier_line, compile_call_line]
  rfl

theorem renderAll?_call_of_earlier_line (style : Diagnostic.Style) (file : String) :
    Diagnostic.renderAll? style "f(); // éé" file
      [⟨.duringRun, "Undefined variable 'x'.", 1, none, ⟨10, 11⟩⟩] = none := by
  rw [Diagnostic.renderAll?_eq_none_iff]
  exact ⟨_, List.mem_cons_self, rfl⟩

/-- Two lines, neither blank, of which the second cannot be answered in any style. -/
theorem call_of_earlier_line_unshown :
    let session := ((Session.start .unlimited fun _ => .ofNat 0).runAll
      [⟨true, 9, "fun f() \x7b x; \x7d"⟩]).2
    let line := "f(); // éé"
    let outcome := (session.run true 9 line).1
    '\n' ∉ line.toList ∧ trim line.toList ≠ [] ∧ outcome.diagnostics ≠ [] ∧
      ∀ style file, Diagnostic.renderAll? style line file outcome.diagnostics = none := by
  intro session line outcome
  have failed := run_call_of_earlier_line
  refine ⟨by decide, by decide, ?_, ?_⟩
  · rw [show outcome = _ from failed]
    exact List.cons_ne_nil _ _
  · intro style file
    rw [show outcome = _ from failed]
    exact renderAll?_call_of_earlier_line style file

/-- The condition met at these two lines. -/
theorem unshown_iff_blames_earlier_at_call :
    let earlier : List Session.Step := [⟨true, 9, "fun f() \x7b x; \x7d"⟩]
    let session := ((Session.start .unlimited fun _ => .ofNat 0).runAll earlier).2
    let line := "f(); // éé"
    '\n' ∉ line.toList ∧ trim line.toList ≠ [] ∧
      ∃ d, (session.run true 9 line).1 = .failed d ∧ ∃ step ∈ earlier,
        ∃ token ∈ (Token.scan step.source).tokens,
          d.span = token.span ∧ ¬ token.span.ShownIn line.toList := by
  intro earlier session line
  have single : '\n' ∉ line.toList := by decide
  have proper : trim line.toList ≠ [] := by decide
  refine ⟨single, proper, ?_⟩
  have exact_condition := unshown_iff_blames_earlier .unlimited (fun _ => .ofNat 0) earlier 9 single
    proper .plain "<repl>"
  apply exact_condition.mp
  rw [run_call_of_earlier_line]
  exact renderAll?_call_of_earlier_line .plain "<repl>"

end Lox
