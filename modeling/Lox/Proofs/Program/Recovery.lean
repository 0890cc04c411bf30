import Lox.Proofs.Parser.Soundness

/-!
# What survives errors

The tokens of a program fall into pieces. A piece is kept, and then it spells a statement of the
program, or it is lost, and then there are errors to show for it. Two lost pieces are never
neighbours, so a lost piece is all that is lost between two statements.
-/

namespace Lox.Program

open Lox.Grammar Lox.Parser

/-- A stretch of tokens, with the statement read from it or the errors found in it. -/
inductive Piece where
  | kept (tokens : List Token) (stmt : Stmt)
  | lost (tokens : List Token) (errors : List SyntaxError)

namespace Piece

def tokens : Piece → List Token
  | kept tokens _ | lost tokens _ => tokens

def stmt? : Piece → Option Stmt
  | kept _ stmt => some stmt
  | lost _ _ => none

def errors : Piece → List SyntaxError
  | kept _ _ => []
  | lost _ errors => errors

end Piece

/-- A piece with `rest` behind it. The errors of a lost piece are blamed on its own tokens or on the
one right behind them. -/
def Piece.Before (ending : Token) (rest : List Token) : Piece → Prop
  | kept tokens stmt => Derives (.declaration .top) tokens stmt
  | lost tokens errors => tokens ≠ [] ∧ errors ≠ [] ∧
      ∀ error ∈ errors, error.token ∈ tokens ++ [rest.headD ending] ∧ error.cause ≠ .tooDeep

/-- All tokens of a text fall into pieces, of which no two neighbours are lost. -/
inductive FallInto (ending : Token) : List Token → List Piece → Prop
  | done : FallInto ending [] []
  | next {rest : List Token} {piece : Piece} {pieces : List Piece}
      (first : piece.Before ending rest) (others : FallInto ending rest pieces)
      (apart : piece.stmt? = none → ∀ next, pieces.head? = some next → next.stmt? ≠ none) :
      FallInto ending (piece.tokens ++ rest) (piece :: pieces)

variable {ending : Token} {rest : List Token}

/-- Two lost pieces side by side are one. -/
theorem Piece.Before.join {tokens more : List Token} {errors further : List SyntaxError}
    (first : (Piece.lost tokens errors).Before ending (more ++ rest))
    (second : (Piece.lost more further).Before ending rest) :
    (Piece.lost (tokens ++ more) (errors ++ further)).Before ending rest := by
  obtain ⟨some_tokens, some_errors, blamed⟩ := first
  obtain ⟨some_more, -, blamed_more⟩ := second
  refine ⟨by simp [some_tokens], by simp [some_errors], ?_⟩
  intro error member
  rcases List.mem_append.mp member with old | new
  · obtain ⟨seen, proper⟩ := blamed error old
    obtain ⟨next, others, rfl⟩ := List.exists_cons_of_ne_nil some_more
    refine ⟨?_, proper⟩
    simp only [List.cons_append, List.headD_cons, List.mem_append, List.mem_singleton] at seen
    simp only [List.mem_append, List.mem_cons]
    exact .inl (seen.imp id .inl)
  · obtain ⟨seen, proper⟩ := blamed_more error new
    exact ⟨by simpa using .inr (by simpa using seen), proper⟩

/-- A piece in front of others, joined with the next one if both are lost. -/
theorem FallInto.cons {piece : Piece} {pieces : List Piece} (first : piece.Before ending rest)
    (others : FallInto ending rest pieces) :
    ∃ joined, FallInto ending (piece.tokens ++ rest) joined ∧
      joined.filterMap Piece.stmt? = piece.stmt?.toList ++ pieces.filterMap Piece.stmt? ∧
      joined.flatMap Piece.errors = piece.errors ++ pieces.flatMap Piece.errors := by
  cases piece with
  | kept tokens stmt =>
    exact ⟨_, .next first others (fun absurd => nomatch absurd), rfl, rfl⟩
  | lost tokens errors =>
    cases others with
    | done => exact ⟨_, .next first .done (fun _ _ absurd => nomatch absurd), rfl, rfl⟩
    | @next left next pieces second others apart =>
      cases next with
      | kept more stmt =>
        refine ⟨_, .next first (.next second others apart) ?_, rfl, rfl⟩
        intro _ next same
        cases same
        exact Option.some_ne_none stmt
      | lost more further =>
        refine ⟨.lost (tokens ++ more) (errors ++ further) :: pieces, ?_, rfl, ?_⟩
        · simpa [Piece.tokens] using FallInto.next (first.join second) others apart
        · simp [Piece.errors]

/-- One declaration reads one piece, and then stands outside of all loops and routines again. -/
theorem declaration_piece {depth : Nat} {state : State} (isEnd : state.ending.kind = .eof)
    (outside : state.place = .top) (short : state.rest.length ≤ depth)
    (unfinished : state.rest ≠ []) :
    ∃ (piece : Piece) (after : State), declaration (rules depth) state = .ok piece.stmt? after ∧
      state.rest = piece.tokens ++ after.rest ∧ piece.tokens ≠ [] ∧
      piece.Before state.ending after.rest ∧ after.errors = state.errors ++ piece.errors ∧
      after.ending = state.ending ∧ after.place = .top := by
  -- The source is what is left, so the errors are blamed on nothing in front of the piece.
  let source : Source := ⟨state.rest, state.ending, isEnd⟩
  have start : At source .top state.rest state := ⟨rfl, outside, rfl, List.suffix_rfl⟩
  have ends := reads_declaration (rules_sound source depth) short state start
  cases result : declaration (rules depth) state with
  | error error after =>
    unfold declaration at result
    split at result <;> cases result
  | ok found after =>
    rw [result] at ends
    obtain ⟨used, added, moved, moves, holds⟩ := ends
    have taken : used ≠ [] := by
      intro nothing
      apply unfinished
      rw [moved.rest, nothing, moves nothing, List.nil_append]
    have place := (moved.stillAt start).samePlace
    cases found with
    | some stmt =>
      obtain ⟨rfl, derives⟩ := holds
      exact ⟨.kept used stmt, after, rfl, moved.rest, taken, derives, moved.errors, moved.ending,
        place⟩
    | none =>
      refine ⟨.lost used added, after, rfl, moved.rest, taken, ⟨taken, holds, ?_⟩, moved.errors,
        moved.ending, place⟩
      intro error member
      obtain ⟨⟨passed, whole, seen⟩, proper⟩ := moved.blamed error member
      obtain rfl : used = passed := List.append_cancel_right (moved.rest.symm.trans whole)
      exact ⟨seen, proper⟩

/-- One more item of a program, unless its end is reached. -/
def programItem (rules : Rules) : Parser (Option (Option Stmt)) := do
  if ← atEnd then return none
  return some (← declaration rules)

theorem programItem_end (rules : Rules) {state : State} (finished : state.rest = []) :
    programItem rules state = .ok none state := by
  rw [programItem, run_bind_ok (run_atEnd state), finished]
  rfl

theorem programItem_declaration {rules : Rules} {state after : State} {found : Option Stmt}
    (unfinished : state.rest ≠ []) (run : declaration rules state = .ok found after) :
    programItem rules state = .ok (some found) after := by
  have more : state.rest.isEmpty = false := by simpa using unfinished
  rw [programItem, run_bind_ok (run_atEnd state), more]
  exact run_bind_ok run

/-- Rounds enough for all tokens read all of them. -/
theorem collectFor_pieces {depth : Nat} (rounds : Nat) {state : State}
    (isEnd : state.ending.kind = .eof) (outside : state.place = .top)
    (short : state.rest.length ≤ depth) (enough : state.rest.length ≤ rounds) :
    ∃ pieces found after,
      collectFor (programItem (rules depth)) rounds state = .ok found after ∧
      FallInto state.ending state.rest pieces ∧
      found.reduceOption = pieces.filterMap Piece.stmt? ∧
      after.errors = state.errors ++ pieces.flatMap Piece.errors := by
  induction rounds generalizing state with
  | zero =>
    have finished : state.rest = [] := List.eq_nil_of_length_eq_zero (Nat.le_zero.mp enough)
    exact ⟨[], [], state, rfl, finished ▸ .done, rfl, by simp⟩
  | succ rounds ih =>
    by_cases finished : state.rest = []
    · refine ⟨[], [], state, ?_, finished ▸ .done, rfl, by simp⟩
      rw [collectFor, run_bind_ok (programItem_end _ finished)]
      rfl
    · obtain ⟨piece, middle, run, whole, taken, first, errors, ending, place⟩ :=
        declaration_piece isEnd outside short finished
      have fewer : middle.rest.length < state.rest.length := by
        rw [whole, List.length_append]
        have := List.length_pos_iff.mpr taken
        omega
      obtain ⟨pieces, found, after, later, fall, kept, further⟩ :=
        ih (ending ▸ isEnd) place (by omega) (by omega)
      rw [ending] at fall
      obtain ⟨joined, fallen, statements, reported⟩ := FallInto.cons first fall
      refine ⟨joined, piece.stmt? :: found, after, ?_, whole ▸ fallen, ?_, ?_⟩
      · rw [collectFor, run_bind_ok (programItem_declaration finished run)]
        exact run_bind_ok later
      · rw [statements, ← kept]
        cases piece <;> rfl
      · rw [further, errors, reported, List.append_assoc]

theorem endingOf_kind (tokens : List Token) : (endingOf tokens).kind = .eof := by
  unfold endingOf
  split
  · next token found => simpa using List.find?_some found
  · split <;> rfl

/-- The run of the parser over a whole text. -/
theorem program_pieces (tokens : List Token) :
    ∃ pieces, FallInto (endingOf tokens) (tokens.takeWhile (·.kind ≠ .eof)) pieces ∧
      (parse tokens).statements = pieces.filterMap Piece.stmt? ∧
      (parse tokens).errors = pieces.flatMap Piece.errors := by
  obtain ⟨pieces, found, after, run, fall, kept, errors⟩ :=
    collectFor_pieces (State.start tokens).rest.length (endingOf_kind tokens)
      (show (State.start tokens).place = .top from rfl) (Nat.le_refl _) (Nat.le_refl _)
  refine ⟨pieces, fall, ?_⟩
  have whole : program (rules (State.start tokens).rest.length) (State.start tokens) =
      .ok found.reduceOption after :=
    run_bind_ok ((run_bind_ok (run_get _)).trans run)
  simp only [parse, whole]
  exact ⟨kept, errors⟩

/-! ## The pieces one by one -/

namespace FallInto

variable {tokens : List Token} {pieces : List Piece}

theorem flatMap_tokens (fall : FallInto ending tokens pieces) :
    pieces.flatMap Piece.tokens = tokens := by
  induction fall with
  | done => rfl
  | next _ _ _ ih => rw [List.flatMap_cons, ih]

theorem isChain (fall : FallInto ending tokens pieces) :
    pieces.IsChain fun first second => first.stmt? = none → second.stmt? ≠ none := by
  induction fall with
  | done => exact .nil
  | @next rest piece pieces _ _ apart ih =>
    cases pieces with
    | nil => exact .singleton piece
    | cons next others => exact .cons_cons (fun lost => apart lost next rfl) ih

/-- A piece has the tokens of the later pieces behind it. -/
theorem before_of_split {piece : Piece} {early late : List Piece}
    (fall : FallInto ending tokens pieces) (split : pieces = early ++ piece :: late) :
    piece.Before ending (late.flatMap Piece.tokens) := by
  induction fall generalizing early with
  | done => simp at split
  | next first others _ ih =>
    cases early with
    | nil =>
      obtain ⟨rfl, rfl⟩ := List.cons.inj split
      rw [others.flatMap_tokens]
      exact first
    | cons _ early => exact ih (List.cons.inj split).2

/-- Errors are blamed on tokens of the text, or on its end. -/
theorem blamed (fall : FallInto ending tokens pieces) :
    ∀ error ∈ pieces.flatMap Piece.errors, error.token ∈ tokens ∨ error.token = ending := by
  induction fall with
  | done => exact fun _ absurd => nomatch absurd
  | @next rest piece pieces first _ _ ih =>
    intro error member
    rw [List.flatMap_cons, List.mem_append] at member
    rcases member with own | later
    · cases piece with
      | kept tokens stmt => cases own
      | lost tokens errors =>
        obtain ⟨seen, -⟩ := first.2.2 error own
        cases rest with
        | nil => simpa [Piece.tokens] using seen
        | cons next others =>
          rw [List.headD_cons, List.mem_append, List.mem_singleton] at seen
          rcases seen with inside | behind
          · exact .inl (List.mem_append_left _ inside)
          · exact .inl (List.mem_append_right _ (behind ▸ List.mem_cons_self))
    · exact (ih error later).imp (List.mem_append_right _) id

end FallInto

/-- Whatever the tokens, those before the first end fall into pieces: a slice for each statement, in
order, which spells that statement at the top of a program, and between slices what is lost, which
is all that is lost there, with at least one error to show for it. -/
theorem parse_statements_have_slices (tokens : List Token) :
    ∃ pieces : List Piece,
      pieces.flatMap Piece.tokens = tokens.takeWhile (·.kind ≠ .eof) ∧
      pieces.filterMap Piece.stmt? = (parse tokens).statements ∧
      pieces.flatMap Piece.errors = (parse tokens).errors ∧
      (pieces.IsChain fun first second => first.stmt? = none → second.stmt? ≠ none) ∧
      (∀ slice stmt, .kept slice stmt ∈ pieces → Derives (.declaration .top) slice stmt) ∧
      ∀ early stretch errors late, pieces = early ++ .lost stretch errors :: late →
        stretch ≠ [] ∧ errors ≠ [] ∧ ∀ error ∈ errors,
          error.token ∈ stretch ++ [(late.flatMap Piece.tokens).headD (endingOf tokens)] := by
  obtain ⟨pieces, fall, statements, errors⟩ := program_pieces tokens
  refine ⟨pieces, fall.flatMap_tokens, statements.symm, errors.symm, fall.isChain, ?_, ?_⟩
  · intro slice stmt member
    obtain ⟨early, late, split⟩ := List.append_of_mem member
    exact fall.before_of_split split
  · intro early stretch errors late split
    obtain ⟨some_tokens, some_errors, blamed⟩ := fall.before_of_split split
    exact ⟨some_tokens, some_errors, fun error member => (blamed error member).1⟩

end Lox.Program
