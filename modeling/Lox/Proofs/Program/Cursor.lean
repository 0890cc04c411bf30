import Lox.Proofs.Parser.Reader
import Lox.Proofs.Parser.Repetition
import Lox.Proofs.Program.Sequence

/-!
# The parser's cursor

The state of the parser holds the tokens still to come. Seen from the whole list of tokens it is a
cursor, which stands on one of them: on the first end, or before it. No function of the parser moves
the cursor back or beyond the first end, and none loses count of loops and routines. Every function
comes to a result of its own accord: not because it has run out of levels, nor because a repetition
has run out of rounds.
-/

namespace Lox.Parser

open Lox.Grammar (Proper)
open Lox.Program (programItem programItem_end programItem_declaration takeWhile_before_end
  takeWhile_of_proper)

variable {α : Type} {tokens : List Token} {cursor : Nat} {state after : State}

/-! ## The first end -/

/-- The tokens as they are read, with an end behind them unless the last one is an end. -/
def terminated (tokens : List Token) : List Token :=
  match tokens.getLast? with
  | none => [.endOfText 1 0]
  | some last =>
    if last.kind = .eof then tokens else tokens ++ [.endOfText last.line last.span.stop]

/-- Where the first end stands. -/
def firstEnd (tokens : List Token) : Nat :=
  (terminated tokens).findIdx (·.kind = .eof)

theorem endingOf_before_end {body others : List Token} {ending : Token} (proper : Proper body)
    (isEnd : ending.kind = .eof) : endingOf (body ++ ending :: others) = ending := by
  have missing : body.find? (·.kind = .eof) = none := by simpa [Proper] using proper
  simp [endingOf, List.find?_append, missing, isEnd]

/-- The tokens before the first end. -/
def beforeEnd (tokens : List Token) : List Token :=
  tokens.takeWhile (·.kind ≠ .eof)

theorem proper_beforeEnd (tokens : List Token) : Proper (beforeEnd tokens) := by
  intro token member
  simpa using List.all_eq_true.mp List.all_takeWhile token member

/-- Behind the tokens before the first end comes the end, and then others. -/
theorem terminated_eq (tokens : List Token) :
    ∃ others, terminated tokens = beforeEnd tokens ++ endingOf tokens :: others := by
  cases found : tokens.find? (·.kind = .eof) with
  | some ending =>
    obtain ⟨isEnd, before, behind, rfl, proper⟩ := List.find?_eq_some_iff_append.mp found
    have proper : Proper before := by simpa [Proper] using proper
    have isEnd : ending.kind = .eof := by simpa using isEnd
    rw [beforeEnd, takeWhile_before_end proper isEnd, endingOf_before_end proper isEnd]
    unfold terminated
    split
    · simp_all
    · split
      · exact ⟨behind, rfl⟩
      · exact ⟨behind ++ [_], List.append_assoc ..⟩
  | none =>
    have proper : Proper tokens := by simpa [Proper] using found
    rw [beforeEnd, takeWhile_of_proper proper, endingOf, found, terminated]
    cases last : tokens.getLast? with
    | none => exact ⟨[], by simp [List.getLast?_eq_none_iff.mp last]⟩
    | some token =>
      have inside : token.kind ≠ .eof := proper token (List.mem_of_getLast? last)
      exact ⟨[], by simp [inside]⟩

theorem firstEnd_eq (tokens : List Token) : firstEnd tokens = (beforeEnd tokens).length := by
  obtain ⟨others, whole⟩ := terminated_eq tokens
  have isEnd := Program.endingOf_kind tokens
  have none : (beforeEnd tokens).findIdx (·.kind = .eof) = (beforeEnd tokens).length :=
    List.findIdx_eq_length.mpr (by simpa [Proper] using proper_beforeEnd tokens)
  rw [firstEnd, whole, List.findIdx_append, none]
  simp [List.findIdx_cons, isEnd]

/-- What is read of the tokens. -/
theorem take_firstEnd (tokens : List Token) :
    (terminated tokens).take (firstEnd tokens + 1) = beforeEnd tokens ++ [endingOf tokens] := by
  obtain ⟨others, whole⟩ := terminated_eq tokens
  rw [whole, firstEnd_eq, List.take_length_add_append]
  simp

/-! ## Where the cursor stands -/

/-- The tokens to come are those from the cursor up to the first end. -/
structure State.StandsAt (tokens : List Token) (cursor : Nat) (state : State) : Prop where
  within : cursor ≤ firstEnd tokens
  ahead : state.rest ++ [state.ending] =
    ((terminated tokens).take (firstEnd tokens + 1)).drop cursor

theorem standsAt_iff : state.StandsAt tokens cursor ↔
    cursor ≤ firstEnd tokens ∧ state.rest = (beforeEnd tokens).drop cursor ∧
      state.ending = endingOf tokens := by
  have split : cursor ≤ firstEnd tokens →
      ((terminated tokens).take (firstEnd tokens + 1)).drop cursor =
        (beforeEnd tokens).drop cursor ++ [endingOf tokens] := by
    intro within
    rw [take_firstEnd, List.drop_append_of_le_length (firstEnd_eq tokens ▸ within)]
  constructor
  · rintro ⟨within, ahead⟩
    rw [split within] at ahead
    obtain ⟨rest, ending⟩ := List.append_inj' ahead rfl
    exact ⟨within, rest, List.singleton_inj.mp ending⟩
  · rintro ⟨within, rest, ending⟩
    refine ⟨within, ?_⟩
    rw [split within, rest, ending]

theorem standsAt_start (tokens : List Token) : (State.start tokens).StandsAt tokens 0 :=
  standsAt_iff.mpr ⟨Nat.zero_le _, rfl, rfl⟩

namespace State.StandsAt

theorem isEnd (stands : state.StandsAt tokens cursor) : state.ending.kind = .eof := by
  rw [(standsAt_iff.mp stands).2.2]
  exact Program.endingOf_kind tokens

theorem length_rest (stands : state.StandsAt tokens cursor) :
    state.rest.length = firstEnd tokens - cursor := by
  rw [(standsAt_iff.mp stands).2.1, List.length_drop, firstEnd_eq]

theorem short (stands : state.StandsAt tokens cursor) {depth : Nat}
    (enough : firstEnd tokens - cursor < depth) : state.Short depth :=
  ⟨stands.isEnd, stands.length_rest ▸ enough⟩

/-- Tokens that were taken are behind the cursor. -/
theorem taken (stands : state.StandsAt tokens cursor) {used : List Token}
    (split : state.rest = used ++ after.rest) (sameEnd : after.ending = state.ending) :
    after.StandsAt tokens (cursor + used.length) := by
  obtain ⟨within, rest, ending⟩ := standsAt_iff.mp stands
  have size := stands.length_rest
  rw [split, List.length_append] at size
  refine standsAt_iff.mpr ⟨by omega, ?_, sameEnd.trans ending⟩
  rw [← List.drop_drop, ← rest, split, List.drop_left]

/-- Any token but the end may be passed. -/
theorem pass (stands : state.StandsAt tokens cursor) {token : Token} {tail : List Token}
    (next : state.rest = token :: tail) :
    ({ state with rest := tail } : State).StandsAt tokens (cursor + 1) := by
  have passed : ({ state with rest := tail } : State).StandsAt tokens
      (cursor + [token].length) := stands.taken next rfl
  exact passed

/-- The cursor is on a token. -/
theorem token (stands : state.StandsAt tokens cursor) :
    (terminated tokens)[cursor]? = some (state.rest.headD state.ending) := by
  have within := stands.within
  have first : (state.rest ++ [state.ending])[0]? = some (state.rest.headD state.ending) := by
    cases state.rest <;> rfl
  rw [stands.ahead, List.getElem?_drop, List.getElem?_take_of_lt (by omega)] at first
  exact first

/-- Only the first end is an end. -/
theorem token_isEnd_iff (stands : state.StandsAt tokens cursor) :
    (state.rest.headD state.ending).kind = .eof ↔ cursor = firstEnd tokens := by
  have within := stands.within
  have size := stands.length_rest
  cases next : state.rest with
  | nil =>
    rw [next, List.length_nil] at size
    exact ⟨fun _ => by omega, fun _ => stands.isEnd⟩
  | cons token tail =>
    rw [next, List.length_cons] at size
    have member : token ∈ beforeEnd tokens := by
      have rest := (standsAt_iff.mp stands).2.1
      exact List.mem_of_mem_drop (rest ▸ next ▸ List.mem_cons_self)
    exact ⟨fun isEnd => absurd isEnd (proper_beforeEnd tokens token member), fun _ => by omega⟩

/-- A token that `choose` has a use for is passed without a look at where the first end is. -/
theorem run_accept? (stands : state.StandsAt tokens cursor) (choose : Token → Option α)
    (refuses : ∀ ending : Token, ending.kind = .eof → choose ending = none) :
    ∃ after, accept? choose state = .ok (choose (state.rest.headD state.ending)) after ∧
      after.StandsAt tokens
        (if (choose (state.rest.headD state.ending)).isSome then cursor + 1 else cursor) := by
  cases next : state.rest with
  | nil =>
    have refused : choose state.ending = none := refuses _ stands.isEnd
    refine ⟨state, ?_, ?_⟩
    · rw [run_accept?_nil next, List.headD_nil, refused]
    · rw [List.headD_nil, refused]
      exact stands
  | cons token tail =>
    rw [List.headD_cons]
    cases chosen : choose token with
    | none => exact ⟨state, run_accept?_none next chosen, stands⟩
    | some a => exact ⟨_, run_accept?_some next chosen, stands.pass next⟩

end State.StandsAt

/-! ## How a function ends -/

/-- The state in which a run ended, however it ended. -/
def stateOf : EStateM.Result SyntaxError State α → State
  | .ok _ after | .error _ after => after

/-- From the state `before` at the cursor, a run ended with the cursor where it was or further on,
its errors behind those found before, and the counts of loops and routines as they were. No error is
due to the number of levels. -/
structure EndsInOrder (tokens : List Token) (cursor : Nat) (before : State)
    (result : EStateM.Result SyntaxError State α) : Prop where
  moved : ∃ next, cursor ≤ next ∧ (stateOf result).StandsAt tokens next
  errors : ∃ added, (stateOf result).errors = before.errors ++ added ∧
    ∀ error ∈ added, error.cause ≠ .tooDeep
  thrown : ∀ error after, result = .error error after → error.cause ≠ .tooDeep
  loopDepth : (stateOf result).loopDepth = before.loopDepth
  functionDepth : (stateOf result).functionDepth = before.functionDepth

theorem Ends.inOrder {source : Source} {post : Post α} {result : EStateM.Result SyntaxError State α}
    (ends : Ends source state post result) (stands : state.StandsAt tokens cursor) :
    EndsInOrder tokens cursor state result := by
  have orderly : ∀ {used added}, Moved source state used added (stateOf result) →
      (∀ error after, result = .error error after → error.cause ≠ .tooDeep) →
      EndsInOrder tokens cursor state result := by
    intro used added moved thrown
    refine ⟨⟨_, Nat.le_add_right .., stands.taken moved.rest moved.ending⟩, ?_, thrown,
      moved.loopDepth, moved.functionDepth⟩
    exact ⟨added, moved.errors, fun error member => (moved.blamed error member).2⟩
  cases result with
  | ok a after =>
    obtain ⟨used, added, moved, -⟩ := ends
    refine orderly moved fun _ _ same => ?_
    cases same
  | error error after =>
    obtain ⟨used, added, moved, -, proper⟩ := ends
    refine orderly moved fun other _ same => ?_
    cases same
    exact proper

/-- A run with levels enough. -/
theorem reader_inOrder (reader : Reader) (stands : state.StandsAt tokens cursor) {depth : Nat}
    (enough : firstEnd tokens - cursor < depth) :
    EndsInOrder tokens cursor state (reader.parser (rules depth) state) := by
  -- The tokens that the function is given count as seen, wherever they come from.
  let source : Source := ⟨reader.given ++ state.rest, state.ending, stands.isEnd⟩
  have start : At source state.place state.rest state :=
    ⟨rfl, rfl, rfl, List.suffix_append _ _⟩
  have known : ∀ token ∈ reader.given, source.Seen state.rest token :=
    fun token member => ⟨reader.given, rfl, List.mem_append_left _ member⟩
  have ends := reads_reader reader (stands.short enough).length_lt known state start
  exact ends.inOrder stands

theorem Agrees.run_eq {bound : Nat} {parser other : Parser α}
    (agrees : Agrees [] bound parser other) (short : state.Short bound) :
    other state = parser state := by
  have alike := agrees state short
  cases result : parser state with
  | ok a after =>
    rw [result] at alike
    exact alike.1
  | error error after =>
    rw [result] at alike
    exact alike.1

/-- Any two numbers of levels that are enough give the same result. -/
theorem reader_depth (reader : Reader) (stands : state.StandsAt tokens cursor) {depth other : Nat}
    (enough : firstEnd tokens - cursor < depth) (enoughOther : firstEnd tokens - cursor < other) :
    reader.parser (rules other) state = reader.parser (rules depth) state :=
  (agrees_reader (rules_agree enough enoughOther) reader).run_eq
    (stands.short (Nat.lt_succ_self _))

/-! ## Declarations and programs -/

theorem declaration_ok (rules : Rules) (state : State) :
    ∃ found after, declaration rules state = .ok found after := by
  unfold declaration
  split <;> exact ⟨_, _, rfl⟩

/-- Before the first end a declaration takes a token, also where it finds an error. -/
theorem declaration_takes (stands : state.StandsAt tokens cursor)
    (unfinished : cursor < firstEnd tokens) {depth : Nat}
    (enough : firstEnd tokens - cursor ≤ depth) :
    ∃ found after next, declaration (rules depth) state = .ok found after ∧
      after.StandsAt tokens next ∧ cursor < next := by
  have start := (stands.short (Nat.lt_succ_self _)).at_start
  have ends := reads_declaration (rules_sound _ depth) (stands.length_rest ▸ enough) state start
  obtain ⟨found, after, run⟩ := declaration_ok (rules depth) state
  rw [run] at ends
  obtain ⟨used, added, moved, moves, -⟩ := ends
  refine ⟨found, after, _, run, stands.taken moved.rest moved.ending, ?_⟩
  have some_token : used ≠ [] := by
    intro nothing
    have empty : state.rest = [] := by rw [moved.rest, nothing, moves nothing, List.nil_append]
    have size := stands.length_rest
    rw [empty, List.length_nil] at size
    omega
  have positive := List.length_pos_iff.mpr some_token
  omega

/-- One round of a program is the last exactly if nothing is left, and it never fails. -/
theorem run_collecting_programItem (rules : Rules) (found : List (Option Stmt)) (state : State) :
    (state.rest = [] ∧ collecting (programItem rules) found state = .ok (.done found) state) ∨
      ∃ more after, collecting (programItem rules) found state = .ok (.yield more) after := by
  by_cases finished : state.rest = []
  · exact .inl ⟨finished, run_bind_ok (programItem_end rules finished)⟩
  · obtain ⟨item, after, run⟩ := declaration_ok rules state
    exact .inr ⟨found ++ [item], after, run_bind_ok (programItem_declaration finished run)⟩

/-- The declarations of a program go on until nothing is left. -/
theorem loops_declarations {rules : Rules} {found : List (Option Stmt)}
    {result : EStateM.Result SyntaxError State (List (Option Stmt))}
    (loops : Loops (collecting (programItem rules)) found state result) :
    ∃ all final, result = .ok all final ∧ final.rest = [] := by
  induction loops with
  | @done value last before after run =>
    rcases run_collecting_programItem rules value before with
      ⟨finished, stops⟩ | ⟨more, middle, goes⟩
    · cases stops.symm.trans run
      exact ⟨_, _, rfl, finished⟩
    · cases goes.symm.trans run
  | @failed value before after error run =>
    rcases run_collecting_programItem rules value before with
      ⟨-, stops⟩ | ⟨more, middle, goes⟩
    · cases stops.symm.trans run
    · cases goes.symm.trans run
  | again _ _ ih => exact ih

/-- A program is read up to the first end, with any number of levels that is enough. -/
theorem program_reaches_end (tokens : List Token) :
    ∃ statements final, final.StandsAt tokens (firstEnd tokens) ∧
      ∀ depth, firstEnd tokens ≤ depth →
        program (rules depth) (State.start tokens) = .ok statements final := by
  have stands := standsAt_start tokens
  have room : firstEnd tokens - 0 < firstEnd tokens + 1 := Nat.lt_succ_self _
  have loops := (loops_iff .declarations (stands.short room) _).mpr rfl
  obtain ⟨all, final, items, finished⟩ := loops_declarations loops
  have whole : program (rules (firstEnd tokens + 1)) (State.start tokens) =
      .ok all.reduceOption final := run_bind_ok items
  refine ⟨all.reduceOption, final, ?_, fun depth enough => ?_⟩
  · have inOrder := reader_inOrder .program stands room
    simp only [Reader.parser, whole] at inOrder
    obtain ⟨next, -, reached⟩ := inOrder.moved
    have left : final.rest.length = firstEnd tokens - next := reached.length_rest
    have within := reached.within
    rw [finished, List.length_nil] at left
    exact (show next = firstEnd tokens by omega) ▸ reached
  · have agree : (rules (firstEnd tokens + 1)).Agree [] (firstEnd tokens) (rules depth) :=
      rules_agree (Nat.le_succ _) enough
    exact ((agrees_program agree).run_eq (stands.short room)).trans whole

/-- What stands behind the first end makes no difference to the state at the start. -/
theorem start_of_take (tokens others : List Token) :
    State.start ((terminated tokens).take (firstEnd tokens + 1) ++ others) =
      State.start tokens := by
  have proper := proper_beforeEnd tokens
  have isEnd := Program.endingOf_kind tokens
  rw [take_firstEnd, List.append_assoc, List.singleton_append]
  simp only [State.start, takeWhile_before_end proper isEnd, endingOf_before_end proper isEnd]
  rfl

/-! ## Everywhere -/

/-- What the functions of the parser do from a state at the cursor. -/
structure State.InOrder (tokens : List Token) (cursor : Nat) (state : State) : Prop where
  /-- The cursor is on a token, which is an end only if it is the first end. -/
  onToken : ∃ token, (terminated tokens)[cursor]? = some token ∧ peek state = .ok token state ∧
    (token.kind = .eof ↔ cursor = firstEnd tokens)
  /-- Whoever has no use for an end may take what is useful, without checking for the end. -/
  takes : ∀ {α : Type} (choose : Token → Option α) (token : Token),
    (∀ ending : Token, ending.kind = .eof → choose ending = none) →
    (terminated tokens)[cursor]? = some token →
    ∃ after, accept? choose state = .ok (choose token) after ∧
      after.StandsAt tokens (if (choose token).isSome then cursor + 1 else cursor)
  /-- Every function comes to a result, which is the same for all depths that exceed the number of
  tokens left. -/
  readers : ∀ reader : Reader, ∃ result, EndsInOrder tokens cursor state result ∧
    ∀ depth, firstEnd tokens - cursor < depth → reader.parser (rules depth) state = result
  /-- Inside a loop or a routine, a function leaves a count that can be lowered again. -/
  counts : ∀ (reader : Reader) (depth : Nat), firstEnd tokens - cursor < depth →
    (stateOf (reader.parser (rules depth)
      { state with loopDepth := state.loopDepth + 1 })).loopDepth = state.loopDepth + 1 ∧
    (stateOf (reader.parser (rules depth)
      { state with loopDepth := 0, functionDepth := state.functionDepth + 1 })).functionDepth =
        state.functionDepth + 1
  /-- Every repetition is the one without a bound. -/
  repetitions : ∀ (loop : Repetition) (depth : Nat), firstEnd tokens - cursor < depth →
    ∀ result, Loops (loop.round (rules depth)) loop.start state result ↔
      result = loop.parser (rules depth) state
  /-- Before the first end, a declaration moves the cursor on. -/
  declarations : cursor < firstEnd tokens → ∀ depth, firstEnd tokens - cursor ≤ depth →
    ∃ found after next, declaration (rules depth) state = .ok found after ∧
      after.StandsAt tokens next ∧ cursor < next

theorem State.StandsAt.inOrder (stands : state.StandsAt tokens cursor) :
    state.InOrder tokens cursor where
  onToken := ⟨_, stands.token, run_peek state, stands.token_isEnd_iff⟩
  takes := by
    intro α choose token refuses known
    obtain rfl : state.rest.headD state.ending = token :=
      Option.some.inj (stands.token.symm.trans known)
    exact stands.run_accept? choose refuses
  readers reader :=
    ⟨_, reader_inOrder reader stands (Nat.lt_succ_self _), fun depth enough =>
      reader_depth reader stands (Nat.lt_succ_self _) enough⟩
  counts reader depth enough := by
    have inLoop : ({ state with loopDepth := state.loopDepth + 1 } : State).StandsAt tokens
        cursor := ⟨stands.within, stands.ahead⟩
    have inFunction : ({ state with loopDepth := 0, functionDepth := state.functionDepth + 1 } :
        State).StandsAt tokens cursor := ⟨stands.within, stands.ahead⟩
    exact ⟨(reader_inOrder reader inLoop enough).loopDepth,
      (reader_inOrder reader inFunction enough).functionDepth⟩
  repetitions loop depth enough := loops_iff loop (stands.short enough)
  declarations unfinished _ enough := declaration_takes stands unfinished enough

end Lox.Parser

namespace Lox.Program

open Lox.Parser

/-- Whatever the tokens, the parser starts at the first of them, all its functions work in order
from wherever the cursor may stand, and the program is read up to the first end. What stands behind
the first end makes no difference. -/
theorem parser_stays_in_order (tokens : List Token) :
    (State.start tokens).StandsAt tokens 0 ∧
    (∀ (cursor : Nat) (state : State), state.StandsAt tokens cursor →
      state.InOrder tokens cursor) ∧
    (∃ statements final, final.StandsAt tokens (firstEnd tokens) ∧
      (∀ depth, firstEnd tokens ≤ depth →
        program (rules depth) (State.start tokens) = .ok statements final) ∧
      parse tokens = ⟨statements, final.errors⟩) ∧
    ∀ others, parse ((terminated tokens).take (firstEnd tokens + 1) ++ others) = parse tokens := by
  refine ⟨standsAt_start tokens, fun _ _ stands => stands.inOrder, ?_, fun others => ?_⟩
  · obtain ⟨statements, final, reached, runs⟩ := program_reaches_end tokens
    refine ⟨statements, final, reached, runs, ?_⟩
    have size : firstEnd tokens = (State.start tokens).rest.length := firstEnd_eq tokens
    simp only [parse, runs _ (Nat.le_of_eq size)]
  · simp only [parse, start_of_take]

/-- A `break` is due a semicolon, but the one behind the first end is not read. -/
theorem parser_stays_in_order_two_ends :
    let keyword := bareToken .kwBreak
    let ending := bareToken .eof
    let tokens := [keyword, ending, bareToken .semicolon]
    (State.start tokens).StandsAt tokens 0 ∧ 0 < firstEnd tokens ∧
      (∃ found after next, declaration (rules 1) (State.start tokens) = .ok found after ∧
        after.StandsAt tokens next ∧ 0 < next) ∧
      parse [keyword, ending] = parse tokens ∧
      (parse tokens).errors =
        [⟨.jumpOutsideLoop "", keyword⟩, ⟨.expected (.afterJump ""), ending⟩] := by
  intro keyword ending tokens
  obtain ⟨start, inOrder, -, same⟩ := parser_stays_in_order tokens
  have unfinished : 0 < firstEnd tokens := Nat.zero_lt_one
  exact ⟨start, unfinished, (inOrder 0 _ start).declarations unfinished 1 (Nat.le_refl _), same [],
    rfl⟩

end Lox.Program
