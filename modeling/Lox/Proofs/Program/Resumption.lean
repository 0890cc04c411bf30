import Lox.Proofs.Parser.Depth
import Lox.Proofs.Program.Sequence

/-!
# A program behind its first declaration

Whatever the first declaration of a program is, good or bad, and wherever it ends: behind it the
parser reads what it would read of the rest alone. It may nest deeper there than the rest alone
would need, it has errors to keep, and nothing else is left of what is in front.
-/

namespace Lox.Program

open Lox.Grammar Lox.Parser

variable {tokens rest : List Token} {state after : State} {found : List (Option Stmt)}

/-- The made-up end of a text is that of each part at its end. -/
theorem endingOf_suffix (proper : Proper tokens) (part : rest <:+ tokens) (some_token : rest ≠ []) :
    endingOf tokens = endingOf rest := by
  have endless : ∀ {some_tokens : List Token}, Proper some_tokens →
      some_tokens.find? (·.kind = .eof) = none := by
    intro some_tokens proper
    rw [List.find?_eq_none]
    exact fun token member => by simpa using proper token member
  have properRest : Proper rest := fun token member => proper token (part.subset member)
  obtain ⟨front, rfl⟩ := part
  simp only [endingOf, endless proper, endless properRest]
  rw [List.getLast?_append_of_ne_nil _ some_token]

/-- Declarations lead to the end of any text. -/
theorem exists_passes {depth : Nat} (isEnd : state.ending.kind = .eof)
    (outside : state.place = .top) (short : state.rest.length ≤ depth) :
    ∃ found after, Passes (rules depth) state found after ∧ after.rest = [] := by
  induction size : state.rest.length using Nat.strongRecOn generalizing state with
  | _ length ih =>
    by_cases finished : state.rest = []
    · exact ⟨[], state, .done state, finished⟩
    · obtain ⟨piece, middle, run, whole, taken, -, -, ending, place⟩ :=
        declaration_piece isEnd outside short finished
      have takes : middle.rest.length < state.rest.length := by
        have some_taken := List.length_pos_iff.mpr taken
        rw [whole, List.length_append]
        omega
      obtain ⟨found, after, later, atEnd⟩ :=
        ih middle.rest.length (by omega) (ending ▸ isEnd) place (by omega) rfl
      exact ⟨piece.stmt? :: found, after, .next run takes later, atEnd⟩

/-- The same declarations lead to the same end under rules nested deep enough, whatever was found
before. -/
theorem Passes.behind {depth other : Nat} (passes : Passes (rules depth) state found after)
    (isEnd : state.ending.kind = .eof) (enough : state.rest.length ≤ depth)
    (enoughOther : state.rest.length ≤ other) (early : List SyntaxError) :
    Passes (rules other) (state.behind early) found (after.behind early) := by
  induction passes with
  | done state => exact .done _
  | next run takes _ ih =>
    obtain ⟨same, stillEnd, -⟩ := declaration_behind run isEnd enough enoughOther
    exact .next same takes (ih stillEnd (by omega) (by omega))

/-- A state outside of all loops and routines is the start of the text that is left, but for the
errors found. -/
theorem eq_start_behind (proper : Proper state.rest) (outside : state.place = .top)
    (ending : state.ending = endingOf state.rest) :
    state = (State.start state.rest).behind state.errors := by
  obtain ⟨rest, end', errors, loops, routines⟩ := state
  have depths : loops = 0 ∧ routines = 0 := by simpa [State.place, Place.top] using outside
  obtain ⟨rfl, rfl⟩ := depths
  rw [State.start, takeWhile_of_proper proper, ← ending]
  simp [State.behind]

/-- From such a state, declarations lead to what is read of the rest by itself. -/
theorem passes_resumed {depth : Nat} (proper : Proper state.rest) (outside : state.place = .top)
    (ending : state.rest ≠ [] → state.ending = endingOf state.rest)
    (short : state.rest.length ≤ depth) :
    ∃ found after, Passes (rules depth) state found after ∧ after.rest = [] ∧
      found.reduceOption = (parse state.rest).statements ∧
      after.errors = state.errors ++ (parse state.rest).errors := by
  by_cases finished : state.rest = []
  · have nothing : parse [] = ⟨[], []⟩ := rfl
    exact ⟨[], state, .done state, finished, by simp [finished, nothing],
      by simp [finished, nothing]⟩
  · have before := rest_start proper
    have isEnd : (State.start state.rest).ending.kind = .eof := endingOf_kind state.rest
    obtain ⟨found, after, passes, atEnd⟩ := exists_passes isEnd rfl (Nat.le_refl _)
    have read := parse_of_passes passes atEnd
    have resumed := passes.behind isEnd (Nat.le_refl _) (before ▸ short) state.errors
    rw [← eq_start_behind proper outside (ending finished)] at resumed
    exact ⟨found, _, resumed, atEnd, by rw [read], by rw [read]; rfl⟩

/-- The statements and the errors of a program are those of its first declaration, and then those of
the rest by itself. -/
theorem parse_declaration (proper : Proper tokens) (some_token : tokens ≠ []) {item : Option Stmt}
    (run : declaration (rules tokens.length) (State.start tokens) = .ok item after) :
    parse tokens = ⟨item.toList ++ (parse after.rest).statements,
      after.errors ++ (parse after.rest).errors⟩ := by
  have before := rest_start proper
  have enough : (State.start tokens).rest.length ≤ tokens.length :=
    Nat.le_of_eq (congrArg List.length before)
  have unfinished : (State.start tokens).rest ≠ [] := by rwa [before]
  obtain ⟨piece, middle, again, whole, taken, -, -, ending, outside⟩ :=
    declaration_piece (endingOf_kind tokens) rfl enough unfinished
  obtain ⟨rfl, rfl⟩ : piece.stmt? = item ∧ middle = after := by
    simpa using again.symm.trans run
  have part : middle.rest <:+ tokens := ⟨piece.tokens, by rw [← whole, before]⟩
  have properRest : Proper middle.rest := fun token member => proper token (part.subset member)
  have sameEnding : middle.rest ≠ [] → middle.ending = endingOf middle.rest :=
    fun some_rest => ending.trans (endingOf_suffix proper part some_rest)
  obtain ⟨found, final, passes, finished, statements, errors⟩ :=
    passes_resumed properRest outside sameEnding part.length_le
  have takes : middle.rest.length < (State.start tokens).rest.length := by
    have some_taken := List.length_pos_iff.mpr taken
    rw [whole, List.length_append]
    omega
  have all := Passes.next run takes passes
  rw [← congrArg List.length before] at all
  rw [parse_of_passes all finished, errors, ← statements]
  cases piece.stmt? <;> rfl

end Lox.Program
