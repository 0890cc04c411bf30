import Lox.Proofs.Session.Rendering
import Lox.Proofs.Token.Partition

/-!
# Diagnostics point into their source

In a fresh session every token that can be blamed is one of the source that runs. So whatever is
reported of the source has a place in it, on the line that is given, and can be shown with it. Only
a failure of the sink has no place.
-/

namespace Lox

open Text

/-- The offset lies on a line of a text, between two characters or at an end. -/
def Text.OnLine (text : List Char) (offset line : Nat) : Prop :=
  ∃ front back, text = front ++ back ∧ byteLength front = offset ∧ line = 1 + front.count '\n'

/-- The line is that of the first character of a token or, if it is a string, of its closing
quote. -/
def Token.ReportedOn (text : List Char) (token : Token) (line : Nat) : Prop :=
  if token.kind = .string then
    ∃ front back, text = front ++ '"' :: back ∧ byteLength front + 1 = token.span.stop ∧
      line = 1 + front.count '\n'
  else OnLine text token.span.start line

/-- The diagnostic points into a source: to a stray character or to a token. -/
structure Diagnostic.PointsInto (source : String) (d : Diagnostic) : Prop where
  bounds : d.span.InBounds source.toList
  line : (∃ error ∈ (Token.scan source).errors, d = error.diagnostic) ∧
      OnLine source.toList d.span.start d.line ∨
    ∃ token ∈ (Token.scan source).tokens, d.Blames token ∧ d.span = token.span ∧
      token.ReportedOn source.toList d.line

/-! ## Lines -/

theorem Text.onLine_lineOf {text : List Char} {offset : Nat} (boundary : IsBoundary text offset) :
    OnLine text offset ((LineIndex.ofText text).lineOf offset) := by
  obtain ⟨front, back, rfl, rfl⟩ := boundary
  exact ⟨front, back, rfl, rfl, LineIndex.lineOf_boundary front back⟩

theorem Token.scan_errors_onLine {source : String} {error : LexicalError}
    (member : error ∈ (scan source).errors) :
    OnLine source.toList error.span.start error.line := by
  have starts := (scan_errors_partOf member).inBounds.starts
  obtain ⟨stray, -, rfl⟩ := List.mem_map.mp member
  exact onLine_lineOf starts

theorem Token.StandsBetween.reportedOn {front back : List Char} {token : Token}
    (stands : token.StandsBetween front back) :
    token.ReportedOn (front ++ token.lexeme.toList ++ back) token.line := by
  unfold Token.ReportedOn
  split
  · next isString =>
    obtain ⟨body, quoted, -⟩ := stands.quoted isString
    have chars : token.lexeme.toList = '"' :: (body.toList ++ ['"']) := by simp [quoted]
    have inner : token.lexeme.toList.dropLast = '"' :: body.toList := by
      rw [chars, ← List.cons_append, List.dropLast_concat]
    have size : '"'.utf8Size = 1 := rfl
    refine ⟨front ++ '"' :: body.toList, back, ?_, ?_, ?_⟩
    · simp [chars]
    · rw [stands.span, chars]
      simp only [byteLength_append, byteLength_cons, byteLength_nil, size]
      omega
    · rw [stands.line, if_pos isString, inner]
  · next other =>
    refine ⟨front, token.lexeme.toList ++ back, List.append_assoc _ _ _, ?_, ?_⟩
    · rw [stands.span]
    · rw [stands.line, if_neg other, List.append_nil]

theorem Token.scan_tokens_reportedOn {source : String} {token : Token}
    (member : token ∈ (scan source).tokens) : token.ReportedOn source.toList token.line := by
  obtain ⟨pieces, kept, tokens⟩ := scan_tokens source
  rw [tokens] at member
  rcases List.mem_append.mp member with read | last
  · obtain ⟨piece, found, rfl⟩ := List.mem_map.mp read
    obtain ⟨front, back, whole, stands⟩ := (readText_readIn _ piece (kept.subset found)).stands
    have reported := stands.reportedOn
    rw [Piece.toList_lexeme_toToken, ← whole] at reported
    exact reported
  · rw [List.mem_singleton.mp last]
    exact ⟨source.toList, [], (List.append_nil _).symm, rfl, LineIndex.lineCount_ofText _⟩

/-! ## Diagnostics -/

theorem Token.LexicalError.pointsInto {source : String} {error : LexicalError}
    (found : error ∈ (scan source).errors) : error.diagnostic.PointsInto source where
  bounds := (scan_errors_partOf found).inBounds
  line := .inl ⟨⟨error, found, rfl⟩, scan_errors_onLine found⟩

theorem Diagnostic.Blames.pointsInto {source : String} {token : Token} {d : Diagnostic}
    (blames : d.Blames token) (found : token ∈ (Token.scan source).tokens) :
    d.PointsInto source := by
  obtain ⟨line, span⟩ := blames.place
  constructor
  · rw [span]
    exact (Token.scan_tokens_partOf found).inBounds
  · rw [line]
    exact .inr ⟨token, found, blames, span, Token.scan_tokens_reportedOn found⟩

theorem Session.fresh_run_points {sink : Sink} {clock : Nat → Number} {echo : Bool} {fuel : Nat}
    {source : String} {outcome : Outcome}
    (ran : ((Session.start sink clock).run echo fuel source).1 = outcome) :
    ∀ d ∈ outcome.diagnostics,
      (∃ failure, d = (RuntimeError.output failure).diagnostic ∧ outcome = .failed d) ∨
        d.PointsInto source := by
  intro d reported
  cases outcome with
  | completed | outOfFuel => cases reported
  | rejected diagnostics =>
    rcases compile_error_cases (compile_of_rejected ran) d reported with
      ⟨error, found, rfl⟩ | ⟨token, found, blames⟩
    · exact .inr (Token.LexicalError.pointsInto found)
    · exact .inr (blames.pointsInto found)
  | failed diagnostic =>
    obtain rfl : d = diagnostic := List.mem_singleton.mp reported
    -- A fresh machine holds no functions, so all that runs is of this source.
    have formed : (Session.start sink clock).machine.Formed (· ∈ (Token.scan source).tokens) :=
      Machine.formed_fresh sink clock
    rcases blames_of_failed formed (fun _ found => found) ran with
      ⟨failure, output⟩ | ⟨token, found, blames⟩
    · exact .inl ⟨failure, output, rfl⟩
    · exact .inr (blames.pointsInto found)

/-- Every diagnostic of a source in a fresh session points into the source, unless the sink failed:
its span is in bounds and its ends are between characters, and its line is that of the beginning of
the span, or that of the closing quote if the token at fault is a string. So all diagnostics can be
shown, in any style and under any file name. -/
theorem diagnostics_point_into_source (sink : Sink) (clock : Nat → Number) (echo : Bool)
    (fuel : Nat) (source : String) :
    let outcome := ((Session.start sink clock).run echo fuel source).1
    (∀ d ∈ outcome.diagnostics,
      (∃ failure, d = (RuntimeError.output failure).diagnostic ∧ outcome = .failed d) ∨
        d.PointsInto source) ∧
    ∀ style file, (Diagnostic.renderAll? style source file outcome.diagnostics).isSome := by
  intro outcome
  have placed := Session.fresh_run_points (show _ = outcome from rfl)
  refine ⟨placed, fun style file => Diagnostic.renderAll?_isSome fun d reported => ?_⟩
  rcases placed d reported with ⟨failure, rfl, -⟩ | points
  · exact .inl rfl
  · exact points.bounds.shownIn

end Lox
