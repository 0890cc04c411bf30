import Lox.Proofs.Program.Cursor

/-!
# The parser's cursor as an index

The parser can also be seen as working on the whole list of tokens with an index into it, where a
token of a kind that is looked for is passed without asking for the end, and where the tokens behind
the first end are there to be read. Each of the functions that touch the tokens has a counterpart
that works so, and gives the same result from wherever the cursor may stand. The counterparts have
no result at an index without a token, nor where a loop does not end, so neither ever happens.
-/

namespace Lox.Parser

/-- All tokens, and the index of the next one. -/
structure Cursor where
  tokens : List Token
  current : Nat

namespace Cursor

/-- A step ends with a value or an error, or not at all. -/
abbrev Step (α : Type) := ExceptT SyntaxError (StateT Cursor Option) α

/-- The token at an index into all tokens. -/
def tokenAt (index : Cursor → Nat) : Step Token :=
  fun cursor => (cursor.tokens[index cursor]?).map fun token => (.ok token, cursor)

def peek : Step Token :=
  tokenAt (·.current)

def previous : Step Token :=
  tokenAt (·.current - 1)

def atEnd : Step Bool :=
  return (← peek).kind = .eof

def check (kind : Token.Kind) : Step Bool :=
  return (← peek).kind = kind

/-- Here no token is no error. -/
def checkNext (kind : Token.Kind) : Step Bool :=
  return (← get).tokens[(← get).current + 1]?.any (·.kind = kind)

/-- Moves on, wherever the first end is. -/
def move : Step Unit :=
  modify fun cursor => { cursor with current := cursor.current + 1 }

/-- Moves on before the end. -/
def advance : Step Token := do
  if !(← atEnd) then move
  previous

/-- Moves on over a token of one of the kinds. Whether it is an end is not asked. -/
def matchKind (kinds : List Token.Kind) : Step Bool := do
  if (← peek).kind ∈ kinds then
    move
    return true
  else return false

def consume (kind : Token.Kind) (what : Expectation) : Step Token := do
  if ← check kind then advance else throw ⟨.expected what, ← peek⟩

/-- Moves on to the next place where a statement may begin, in fewer than `rounds` rounds. -/
def skipFor : (rounds : Nat) → Step Unit
  | 0 => fun _ => none
  | rounds + 1 => do
    if ← atEnd then return
    if (← previous).kind = .semicolon then return
    if beginsStatement (← peek).kind then return
    let _ ← advance
    skipFor rounds

def synchronize : Step Unit := do
  let _ ← advance
  skipFor (← get).tokens.length

variable {α β : Type} {cursor after : Cursor} {token : Token}

theorem run_bind {step : Step α} {next : α → Step β} {a : α}
    (done : step cursor = some (.ok a, after)) : (step >>= next) cursor = next a after := by
  change (step cursor).bind (fun ended => ExceptT.bindCont next ended.1 ended.2) = _
  rw [done]
  rfl

theorem run_bind_error {step : Step α} {next : α → Step β} {error : SyntaxError}
    (done : step cursor = some (.error error, after)) :
    (step >>= next) cursor = some (.error error, after) := by
  change (step cursor).bind (fun ended => ExceptT.bindCont next ended.1 ended.2) = _
  rw [done]
  rfl

theorem run_peek (here : cursor.tokens[cursor.current]? = some token) :
    peek cursor = some (.ok token, cursor) := by
  simp [peek, tokenAt, here]

theorem run_previous (passed : cursor.tokens[cursor.current - 1]? = some token) :
    previous cursor = some (.ok token, cursor) := by
  simp [previous, tokenAt, passed]

theorem run_atEnd (here : cursor.tokens[cursor.current]? = some token) :
    atEnd cursor = some (.ok (token.kind = .eof), cursor) :=
  run_bind (run_peek here)

theorem run_check (kind : Token.Kind) (here : cursor.tokens[cursor.current]? = some token) :
    check kind cursor = some (.ok (token.kind = kind), cursor) :=
  run_bind (run_peek here)

theorem run_checkNext (kind : Token.Kind)
    (behind : cursor.tokens[cursor.current + 1]? = some token) :
    checkNext kind cursor = some (.ok (token.kind = kind), cursor) := by
  show some _ = _
  rw [behind]
  rfl

/-- Before the end, the token passed is the one that was next. -/
theorem run_advance (here : cursor.tokens[cursor.current]? = some token)
    (unfinished : token.kind ≠ .eof) :
    advance cursor = some (.ok token, { cursor with current := cursor.current + 1 }) := by
  rw [advance, run_bind (run_atEnd here), decide_eq_false unfinished]
  exact run_previous here

/-- At the end, nothing is passed. -/
theorem run_advance_end (here : cursor.tokens[cursor.current]? = some token)
    (finished : token.kind = .eof) {last : Token}
    (passed : cursor.tokens[cursor.current - 1]? = some last) :
    advance cursor = some (.ok last, cursor) := by
  rw [advance, run_bind (run_atEnd here), decide_eq_true finished]
  exact run_previous passed

theorem run_matchKind (here : cursor.tokens[cursor.current]? = some token)
    (kinds : List Token.Kind) :
    matchKind kinds cursor =
      some (.ok (decide (token.kind ∈ kinds)), if token.kind ∈ kinds then
        { cursor with current := cursor.current + 1 } else cursor) := by
  rw [matchKind, run_bind (run_peek here)]
  by_cases sought : token.kind ∈ kinds
  · simp only [sought, if_true, decide_true]
    rfl
  · simp only [sought, if_false, decide_false]
    rfl

end Cursor

/-! ## The same from everywhere -/

variable {α β : Type} {tokens : List Token} {current : Nat} {state : State}

/-- A step and a function of the parser ended alike, and at the same token. -/
def Coincide (tokens : List Token) :
    EStateM.Result SyntaxError State α → Option (Except SyntaxError α × Cursor) → Prop
  | .ok a after, step =>
    ∃ next, after.StandsAt tokens next ∧ step = some (.ok a, ⟨terminated tokens, next⟩)
  | .error error after, step =>
    ∃ next, after.StandsAt tokens next ∧ step = some (.error error, ⟨terminated tokens, next⟩)

/-- From wherever the cursor may stand, a step does what a function of the parser does. -/
def Follows (step : Cursor.Step α) (parser : Parser α) : Prop :=
  ∀ (tokens : List Token) (current : Nat) (state : State), state.StandsAt tokens current →
    Coincide tokens (parser state) (step ⟨terminated tokens, current⟩)

namespace Follows

protected theorem pure (a : α) : Follows (pure a) (pure a) :=
  fun _ current _ stands => ⟨current, stands, rfl⟩

protected theorem throw (error : SyntaxError) : Follows (α := α) (throw error) (throw error) :=
  fun _ current _ stands => ⟨current, stands, rfl⟩

protected theorem bind {step : Cursor.Step α} {parser : Parser α} (first : Follows step parser)
    {steps : α → Cursor.Step β} {parsers : α → Parser β}
    (next : ∀ a, Follows (steps a) (parsers a)) :
    Follows (step >>= steps) (parser >>= parsers) := by
  intro tokens current state stands
  have alike := first tokens current state stands
  cases run : parser state with
  | ok a after =>
    rw [run] at alike
    obtain ⟨middle, standing, done⟩ := alike
    rw [run_bind_ok run, Cursor.run_bind done]
    exact next a tokens middle after standing
  | error error after =>
    rw [run] at alike
    obtain ⟨middle, standing, done⟩ := alike
    rw [run_bind_error run, Cursor.run_bind_error done]
    exact ⟨middle, standing, rfl⟩

end Follows

/-! ## Looking -/

theorem follows_peek : Follows Cursor.peek peek :=
  fun _ current _ stands => ⟨current, stands, Cursor.run_peek stands.token⟩

theorem follows_check (kind : Token.Kind) : Follows (Cursor.check kind) (check kind) :=
  follows_peek.bind fun _ => Follows.pure _

theorem follows_fail (cause : SyntaxError.Cause) :
    Follows (α := α) (do throw ⟨cause, ← Cursor.peek⟩) (fail cause) :=
  follows_peek.bind fun _ => Follows.throw _

theorem follows_atEnd : Follows Cursor.atEnd atEnd := by
  intro tokens current state stands
  have same : state.rest.isEmpty = decide ((state.rest.headD state.ending).kind = .eof) := by
    have size := stands.length_rest
    have within := stands.within
    rw [Bool.eq_iff_iff, List.isEmpty_iff_length_eq_zero, size, decide_eq_true_iff,
      stands.token_isEnd_iff]
    omega
  exact ⟨current, stands, same ▸ Cursor.run_atEnd stands.token⟩

namespace State.StandsAt

/-- Where tokens are left, the cursor is on the first of them, which is no end. -/
theorem here (stands : state.StandsAt tokens current) {token : Token} {tail : List Token}
    (next : state.rest = token :: tail) :
    (terminated tokens)[current]? = some token ∧ token.kind ≠ .eof := by
  have onToken := stands.token
  have isEnd := stands.token_isEnd_iff
  have size := stands.length_rest
  rw [next, List.headD_cons] at onToken isEnd
  rw [next, List.length_cons] at size
  exact ⟨onToken, fun finished => by have := isEnd.mp finished; omega⟩

/-- Where none are left, it is on the end. -/
theorem atEnd (stands : state.StandsAt tokens current) (none : state.rest = []) :
    ∃ ending, (terminated tokens)[current]? = some ending ∧ ending.kind = .eof := by
  have onToken := stands.token
  rw [none, List.headD_nil] at onToken
  exact ⟨_, onToken, stands.isEnd⟩

/-- Some token is the last one passed, or else the first of all. -/
theorem previous (stands : state.StandsAt tokens current) :
    ∃ last, (terminated tokens)[current - 1]? = some last := by
  have known := (List.getElem?_eq_some_iff.mp stands.token).1
  exact ⟨_, List.getElem?_eq_getElem (show current - 1 < _ by omega)⟩

end State.StandsAt

/-- A second token is only asked for behind one that is no end, so what stands behind the first end
does not matter. -/
theorem follows_nextKinds :
    Follows (do if ← Cursor.check .kwFun then Cursor.checkNext .identifier else return false)
      (return (← nextKinds) = (.kwFun, .identifier)) := by
  intro tokens current state stands
  cases next : state.rest with
  | nil =>
    obtain ⟨ending, here, isEnd⟩ := stands.atEnd next
    rw [run_bind_ok (run_nextKinds_nil next), Cursor.run_bind (Cursor.run_check .kwFun here), isEnd]
    exact ⟨current, stands, rfl⟩
  | cons first tail =>
    obtain ⟨here, -⟩ := stands.here next
    rw [run_bind_ok (run_nextKinds_cons next), Cursor.run_bind (Cursor.run_check .kwFun here)]
    refine ⟨current, stands, ?_⟩
    by_cases isFun : first.kind = .kwFun
    · have behind := (stands.pass next).token
      have second : (tail.head?.map (·.kind)).getD .eof = (tail.headD state.ending).kind := by
        cases tail with
        | nil => exact stands.isEnd.symm
        | cons => rfl
      simp only [isFun, second, decide_true, if_true, Prod.mk.injEq, true_and]
      exact Cursor.run_checkNext .identifier behind
    · simp only [isFun, decide_false, Prod.mk.injEq, false_and]
      rfl

/-! ## Moving -/

theorem follows_advance : Follows (discard Cursor.advance) skip := by
  intro tokens current state stands
  rw [run_skip]
  cases next : state.rest with
  | nil =>
    obtain ⟨ending, here, isEnd⟩ := stands.atEnd next
    obtain ⟨last, passed⟩ := stands.previous
    have same : ({ state with rest := [] } : State) = state := next ▸ rfl
    refine ⟨current, same.symm ▸ stands, ?_⟩
    exact Cursor.run_bind (Cursor.run_advance_end here isEnd passed)
  | cons token tail =>
    obtain ⟨here, unfinished⟩ := stands.here next
    exact ⟨current + 1, stands.pass next, Cursor.run_bind (Cursor.run_advance here unfinished)⟩

/-- The kinds of the operators that group to the left. -/
def Level.kinds : Level → List Token.Kind
  | .comma => [.comma]
  | .or => [.kwOr]
  | .and => [.kwAnd]
  | .equality => [.bangEqual, .equalEqual]
  | .comparison => [.greater, .greaterEqual, .less, .lessEqual]
  | .term => [.minus, .plus]
  | .factor => [.slash, .star]

theorem Level.isSome_join?_iff (level : Level) (operator : Token) :
    (level.join? operator).isSome ↔ operator.kind ∈ level.kinds := by
  cases level <;> simp only [Level.join?, Level.kinds] <;> split <;> simp_all

theorem isSome_sign?_iff (operator : Token) :
    (sign? operator).isSome ↔ operator.kind ∈ [.bang, .minus] := by
  unfold sign?
  split <;> simp_all

/-- What the functions of the parser look for where they pass a token only if they have a use for
it: the kinds, and what they make of a token of one of them. -/
inductive Sought : {α : Type} → List Token.Kind → (Token → Option α) → Prop
  | kind {kind : Token.Kind} (proper : kind ≠ .eof) :
    Sought [kind] fun token => if token.kind = kind then some token else none
  | sign : Sought [.bang, .minus] sign?
  | operator (level : Level) : Sought level.kinds level.join?

namespace Sought

variable {kinds : List Token.Kind} {choose : Token → Option α}

/-- An end is never looked for. -/
theorem eof_not_mem (sought : Sought kinds choose) : .eof ∉ kinds := by
  cases sought with
  | kind proper => simpa using proper.symm
  | sign => decide
  | operator level => cases level <;> decide

theorem isSome_iff (sought : Sought kinds choose) (token : Token) :
    (choose token).isSome ↔ token.kind ∈ kinds := by
  cases sought with
  | kind _ => simp
  | sign => exact isSome_sign?_iff token
  | operator level => exact level.isSome_join?_iff token

theorem refuses (sought : Sought kinds choose) (ending : Token) (isEnd : ending.kind = .eof) :
    choose ending = none := by
  rw [← Option.not_isSome_iff_eq_none, sought.isSome_iff, isEnd]
  exact sought.eof_not_mem

end Sought

/-- Where an end is not looked for, the index stays within the first end unasked. -/
theorem follows_accept? {kinds : List Token.Kind} {choose : Token → Option α}
    (sought : Sought kinds choose) :
    Follows (do if ← Cursor.matchKind kinds then return choose (← Cursor.previous) else return none)
      (accept? choose) := by
  intro tokens current state stands
  obtain ⟨after, run, standing⟩ := stands.run_accept? choose sought.refuses
  have here := stands.token
  have useful := sought.isSome_iff (state.rest.headD state.ending)
  rw [run, Cursor.run_bind (Cursor.run_matchKind here kinds)]
  by_cases found : (state.rest.headD state.ending).kind ∈ kinds
  · simp only [found, useful.mpr found, if_true, decide_true] at standing ⊢
    exact ⟨_, standing, Cursor.run_bind (Cursor.run_previous here)⟩
  · have useless := Option.not_isSome_iff_eq_none.mp (mt useful.mp found)
    simp only [found, useless, if_false, decide_false] at standing ⊢
    exact ⟨_, standing, rfl⟩

theorem follows_accept {kind : Token.Kind} (proper : kind ≠ .eof) :
    Follows (Cursor.matchKind [kind]) (accept kind) := by
  intro tokens current state stands
  have sought := Sought.kind proper
  obtain ⟨after, run, standing⟩ := stands.run_accept? _ sought.refuses
  have here := stands.token
  have useful := sought.isSome_iff (state.rest.headD state.ending)
  rw [accept, run_bind_ok run, Cursor.run_matchKind here]
  refine ⟨_, standing, ?_⟩
  by_cases found : (state.rest.headD state.ending).kind ∈ [kind]
  · simp only [found, useful.mpr found, if_true, decide_true]
  · simp only [found, mt useful.mp found, if_false, decide_false, Bool.false_eq_true]

theorem follows_expect {kind : Token.Kind} (proper : kind ≠ .eof) (what : Expectation) :
    Follows (Cursor.consume kind what) (expect kind what) := by
  intro tokens current state stands
  have sought := Sought.kind proper
  obtain ⟨after, run, standing⟩ := stands.run_accept? _ sought.refuses
  have here := stands.token
  rw [expect, run_bind_ok run, Cursor.consume, Cursor.run_bind (Cursor.run_check kind here)]
  by_cases found : (state.rest.headD state.ending).kind = kind
  · simp only [found, if_true, decide_true, Option.isSome_some] at standing ⊢
    exact ⟨_, standing, Cursor.run_advance here (found ▸ proper)⟩
  · simp only [found, if_false, decide_false] at standing ⊢
    exact ⟨current, standing, Cursor.run_bind (Cursor.run_peek standing.token)⟩

/-! ## Resuming -/

theorem State.StandsAt.skipFor (stands : state.StandsAt tokens current) {last : Token}
    (passed : (terminated tokens)[current - 1]? = some last) {rounds : Nat}
    (enough : state.rest.length < rounds) :
    ∃ next, ({ state with rest := skipTo last state.rest } : State).StandsAt tokens next ∧
      Cursor.skipFor rounds ⟨terminated tokens, current⟩ =
        some (.ok (), ⟨terminated tokens, next⟩) := by
  induction rounds generalizing state current last with
  | zero => exact absurd enough (Nat.not_lt_zero _)
  | succ rounds ih =>
    cases next : state.rest with
    | nil =>
      obtain ⟨ending, here, isEnd⟩ := stands.atEnd next
      refine ⟨current, ?_, ?_⟩
      · simpa [skipTo, ← next] using stands
      · rw [Cursor.skipFor, Cursor.run_bind (Cursor.run_atEnd here)]
        simp only [isEnd, decide_true, if_true]
        rfl
    | cons token tail =>
      obtain ⟨here, unfinished⟩ := stands.here next
      rw [Cursor.skipFor, Cursor.run_bind (Cursor.run_atEnd here), skipTo]
      simp only [unfinished, decide_false, Bool.false_eq_true, if_false, Bool.or_eq_true,
        decide_eq_true_eq]
      rw [Cursor.run_bind (Cursor.run_previous passed)]
      by_cases isLast : last.kind = .semicolon
      · simp only [isLast, true_or, if_true]
        exact ⟨current, next ▸ stands, rfl⟩
      rw [if_neg isLast, Cursor.run_bind (Cursor.run_peek here)]
      by_cases begins : beginsStatement token.kind
      · simp only [begins, or_true, if_true]
        exact ⟨current, next ▸ stands, rfl⟩
      -- The token that is passed now is the last one passed in the next round.
      rw [if_neg begins, Cursor.run_bind (Cursor.run_advance here unfinished),
        if_neg (not_or.mpr ⟨isLast, begins⟩)]
      rw [next, List.length_cons] at enough
      exact ih (stands.pass next) here (Nat.lt_of_succ_lt_succ enough)

/-- There are rounds enough for the tokens before the first end. -/
theorem firstEnd_lt (tokens : List Token) : firstEnd tokens < (terminated tokens).length := by
  obtain ⟨others, whole⟩ := terminated_eq tokens
  rw [whole, firstEnd_eq, List.length_append, List.length_cons]
  omega

/-- The loop that looks for the next statement ends, and finds the place that the list of tokens
gives. -/
theorem follows_synchronize :
    Follows Cursor.synchronize
      (modify fun state => { state with rest := synchronize state.rest }) := by
  intro tokens current state stands
  have size := stands.length_rest
  have room := firstEnd_lt tokens
  cases next : state.rest with
  | nil =>
    obtain ⟨ending, here, isEnd⟩ := stands.atEnd next
    obtain ⟨last, passed⟩ := stands.previous
    obtain ⟨reached, standing, run⟩ := stands.skipFor passed
      (show state.rest.length < (terminated tokens).length by omega)
    refine ⟨reached, ?_, ?_⟩
    · rw [next] at standing
      show ({ state with rest := synchronize state.rest } : State).StandsAt tokens reached
      rwa [next]
    rw [Cursor.synchronize, Cursor.run_bind (Cursor.run_advance_end here isEnd passed)]
    exact run
  | cons token tail =>
    obtain ⟨here, unfinished⟩ := stands.here next
    rw [next, List.length_cons] at size
    obtain ⟨reached, standing, run⟩ := (stands.pass next).skipFor here
      (show tail.length < (terminated tokens).length by omega)
    refine ⟨reached, ?_, ?_⟩
    · show ({ state with rest := synchronize state.rest } : State).StandsAt tokens reached
      rw [next]
      exact standing
    rw [Cursor.synchronize, Cursor.run_bind (Cursor.run_advance here unfinished)]
    exact run

end Lox.Parser
