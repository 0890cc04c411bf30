import Lox.Program.Parse
import Lox.Proofs.Control.Step
import Lox.Proofs.Grammar.Rules

/-!
# What a parser does to its state

A parser takes tokens from the front of the rest, adds errors at the end of the list, and leaves the
counts of loops and routines as they were. This holds however it ends, so it is part of one
judgement: `Reads source place rest parser post` says that `parser`, started at `place` before
`rest`, moves the state in this way, blames its errors on tokens of `source` that it has seen, and,
when it gives a result, gives one that satisfies `post`.

The rules of the judgement follow the steps of a parser from the first to the last.
-/

namespace Lox.Parser

open Lox.Grammar (Place)

/-- The place of the next token, as far as the grammar cares. -/
def State.place (state : State) : Place :=
  ⟨decide (0 < state.loopDepth), decide (0 < state.functionDepth)⟩

/-- The tokens that are parsed, and the one that stands for their end. -/
structure Source where
  tokens : List Token
  ending : Token
  isEnd : ending.kind = .eof

namespace Source

/-- The tokens seen before `rest`: those in front of it, and the next one. -/
def Seen (source : Source) (rest : List Token) (token : Token) : Prop :=
  ∃ passed, source.tokens = passed ++ rest ∧ token ∈ passed ++ [rest.headD source.ending]

/-- Before `rest`, an error is blamed on a token seen, and never on the depth. -/
def Blames (source : Source) (rest : List Token) (error : SyntaxError) : Prop :=
  source.Seen rest error.token ∧ error.cause ≠ .tooDeep

theorem seen_next {source : Source} {rest : List Token} (known : rest <:+ source.tokens) :
    source.Seen rest (rest.headD source.ending) := by
  obtain ⟨passed, whole⟩ := known
  exact ⟨passed, whole.symm, List.mem_append_right _ (List.mem_singleton.mpr rfl)⟩

/-- What is seen stays seen. -/
theorem Seen.after {source : Source} {used rest : List Token} {token : Token}
    (seen : source.Seen (used ++ rest) token) : source.Seen rest token := by
  obtain ⟨passed, whole, member⟩ := seen
  refine ⟨passed ++ used, by rw [whole, List.append_assoc], ?_⟩
  cases used with
  | nil => simpa using member
  | cons first others =>
    rw [List.cons_append, List.headD_cons] at member
    grind

end Source

/-- How a parser moves the state: it takes `used` and adds `added`. -/
structure Moved (source : Source) (before : State) (used : List Token) (added : List SyntaxError)
    (after : State) : Prop where
  rest : before.rest = used ++ after.rest
  ending : after.ending = before.ending
  errors : after.errors = before.errors ++ added
  loopDepth : after.loopDepth = before.loopDepth
  functionDepth : after.functionDepth = before.functionDepth
  blamed : ∀ error ∈ added, source.Blames after.rest error

/-- What is known of the tokens taken, the errors added, the tokens left and the result. -/
abbrev Post (α : Type) := List Token → List SyntaxError → List Token → α → Prop

/-- A parser started in `before` ended as it may. -/
def Ends {α : Type} (source : Source) (before : State) (post : Post α) :
    EStateM.Result SyntaxError State α → Prop
  | .ok a after =>
    ∃ used added, Moved source before used added after ∧ post used added after.rest a
  | .error error after =>
    ∃ used added, Moved source before used added after ∧ source.Blames after.rest error

/-- A state before `rest` at `place`. -/
structure At (source : Source) (place : Place) (rest : List Token) (state : State) : Prop where
  sameEnding : state.ending = source.ending
  samePlace : state.place = place
  sameRest : state.rest = rest
  known : rest <:+ source.tokens

def Reads {α : Type} (source : Source) (place : Place) (rest : List Token) (parser : Parser α)
    (post : Post α) : Prop :=
  ∀ state, At source place rest state → Ends source state post (parser state)

variable {α β : Type} {source : Source} {place : Place} {rest : List Token}

namespace Moved

theorem refl (state : State) : Moved source state [] [] state :=
  ⟨rfl, rfl, by simp, rfl, rfl, by simp⟩

theorem trans {before middle after : State} {used more : List Token}
    {added further : List SyntaxError} (first : Moved source before used added middle)
    (second : Moved source middle more further after) :
    Moved source before (used ++ more) (added ++ further) after where
  rest := by rw [first.rest, second.rest, List.append_assoc]
  ending := second.ending.trans first.ending
  errors := by rw [second.errors, first.errors, List.append_assoc]
  loopDepth := second.loopDepth.trans first.loopDepth
  functionDepth := second.functionDepth.trans first.functionDepth
  blamed := by
    intro error member
    rcases List.mem_append.mp member with old | new
    · obtain ⟨seen, proper⟩ := first.blamed error old
      exact ⟨(second.rest ▸ seen).after, proper⟩
    · exact second.blamed error new

/-- A parser leaves the place as it found it. -/
theorem stillAt {before after : State} {used : List Token} {added : List SyntaxError}
    (moved : Moved source before used added after) (start : At source place rest before) :
    At source place after.rest after where
  sameEnding := moved.ending.trans start.sameEnding
  samePlace := by
    rw [← start.samePlace, State.place, State.place, moved.loopDepth, moved.functionDepth]
  sameRest := rfl
  known := by
    have whole := moved.rest
    rw [start.sameRest] at whole
    exact (whole ▸ List.suffix_append used after.rest).trans start.known

end Moved

/-- What was done before is done before all that follows. -/
theorem Ends.after {before middle : State} {used : List Token} {added : List SyntaxError}
    {post : Post α} {result : EStateM.Result SyntaxError State α}
    (moved : Moved source before used added middle)
    (ends : Ends source middle (fun more further => post (used ++ more) (added ++ further))
      result) : Ends source before post result := by
  cases result with
  | ok a after =>
    obtain ⟨more, further, next, holds⟩ := ends
    exact ⟨_, _, moved.trans next, holds⟩
  | error error after =>
    obtain ⟨more, further, next, blames⟩ := ends
    exact ⟨_, _, moved.trans next, blames⟩

theorem length_le_of_split {used left : List Token} {bound : Nat} (split : rest = used ++ left)
    (short : rest.length ≤ bound) : left.length ≤ bound := by
  rw [split, List.length_append] at short
  omega

theorem length_lt_of_next {token : Token} {tail : List Token} {bound : Nat}
    (next : rest = token :: tail) (short : rest.length ≤ bound) : tail.length < bound := by
  rw [next] at short
  exact short

namespace Reads

theorem mono {parser : Parser α} {post weaker : Post α}
    (reads : Reads source place rest parser post)
    (implies : ∀ used added left a, rest = used ++ left → post used added left a →
      weaker used added left a) : Reads source place rest parser weaker := by
  intro state start
  have ends := reads state start
  cases result : parser state with
  | ok a after =>
    rw [result] at ends
    obtain ⟨used, added, moved, holds⟩ := ends
    exact ⟨used, added, moved, implies _ _ _ _ (start.sameRest ▸ moved.rest) holds⟩
  | error error after =>
    rw [result] at ends
    exact ends

theorem pure {post : Post α} {a : α} (holds : post [] [] rest a) :
    Reads source place rest (Pure.pure a) post := by
  intro state start
  exact ⟨[], [], .refl state, start.sameRest ▸ holds⟩

theorem bind {parser : Parser α} {next : α → Parser β} {middle : Post α} {post : Post β}
    (first : Reads source place rest parser middle)
    (second : ∀ used added left a, rest = used ++ left → middle used added left a →
      Reads source place left (next a) fun more further => post (used ++ more) (added ++ further)) :
    Reads source place rest (parser >>= next) post := by
  intro state start
  have ends := first state start
  cases result : parser state with
  | ok a after =>
    rw [result] at ends
    obtain ⟨used, added, moved, holds⟩ := ends
    rw [run_bind_ok result]
    exact .after moved
      (second used added _ a (start.sameRest ▸ moved.rest) holds after (moved.stillAt start))
  | error error after =>
    rw [result] at ends
    rw [run_bind_error result]
    exact ends

theorem map {parser : Parser α} {f : α → β} {post : Post β}
    (reads : Reads source place rest parser fun used added left a => post used added left (f a)) :
    Reads source place rest (f <$> parser) post := by
  rw [map_eq_pure_bind]
  refine bind reads fun used added left a _ holds => pure ?_
  simpa using holds

/-- Only how the state is moved matters. -/
theorem anyhow {parser : Parser α} {post : Post α} (reads : Reads source place rest parser post) :
    Reads source place rest parser fun _ _ _ _ => True :=
  reads.mono fun _ _ _ _ _ _ => trivial

/-- A result that nobody looks at. -/
theorem discard {parser : Parser α} {post : Post α}
    (reads : Reads source place rest parser post) :
    Reads source place rest (Functor.discard parser) fun _ _ _ _ => True :=
  map reads.anyhow

/-- The rest is known to hold tokens of the source. -/
theorem of_known {parser : Parser α} {post : Post α}
    (reads : rest <:+ source.tokens → Reads source place rest parser post) :
    Reads source place rest parser post :=
  fun state start => reads start.known state start

end Reads

/-! ## Single steps -/

/-- Whether the next token is of the given kind. -/
def headIs (kind : Token.Kind) : List Token → Bool
  | [] => false
  | token :: _ => token.kind = kind

@[simp] theorem headIs_nil (kind : Token.Kind) : headIs kind [] = false := rfl

@[simp] theorem headIs_cons (kind : Token.Kind) (token : Token) (tail : List Token) :
    headIs kind (token :: tail) = decide (token.kind = kind) := rfl

theorem run_peek (state : State) : peek state = .ok (state.rest.headD state.ending) state := rfl

theorem run_atEnd (state : State) : atEnd state = .ok state.rest.isEmpty state := rfl

theorem run_skip (state : State) : skip state = .ok () { state with rest := state.rest.tail } :=
  rfl

theorem run_check {kind : Token.Kind} (proper : kind ≠ .eof) {state : State}
    (isEnd : state.ending.kind = .eof) : check kind state = .ok (headIs kind state.rest) state := by
  show EStateM.Result.ok (decide ((state.rest.headD state.ending).kind = kind)) state = _
  cases state.rest with
  | nil => simp [isEnd, proper.symm]
  | cons token tail => rfl

theorem run_nextKinds_nil {state : State} (empty : state.rest = []) :
    nextKinds state = .ok (.eof, .eof) state := by
  rw [nextKinds, run_bind_ok (run_get state), empty]
  rfl

theorem run_nextKinds_cons {state : State} {token : Token} {tail : List Token}
    (next : state.rest = token :: tail) :
    nextKinds state = .ok (token.kind, (tail.head?.map (·.kind)).getD .eof) state := by
  rw [nextKinds, run_bind_ok (run_get state), next]
  cases tail <;> rfl

theorem run_accept?_nil {choose : Token → Option α} {state : State} (empty : state.rest = []) :
    accept? choose state = .ok none state := by
  rw [accept?, run_bind_ok (run_get state), empty]
  rfl

theorem run_accept?_none {choose : Token → Option α} {state : State} {token : Token}
    {tail : List Token} (next : state.rest = token :: tail) (refused : choose token = none) :
    accept? choose state = .ok none state := by
  rw [accept?, run_bind_ok (run_get state), next]
  simp only [refused]
  rfl

theorem run_accept?_some {choose : Token → Option α} {state : State} {token : Token}
    {tail : List Token} {a : α} (next : state.rest = token :: tail)
    (chosen : choose token = some a) :
    accept? choose state = .ok (some a) { state with rest := tail } := by
  rw [accept?, run_bind_ok (run_get state), next]
  simp only [chosen]
  rw [run_bind_ok (run_skip state), next]
  rfl

theorem run_accept_some {kind : Token.Kind} {state : State} {token : Token} {tail : List Token}
    (next : state.rest = token :: tail) (isKind : token.kind = kind) :
    accept kind state = .ok true { state with rest := tail } := by
  rw [accept, run_bind_ok (run_accept?_some next (if_pos isKind))]
  rfl

theorem run_accept_none {kind : Token.Kind} {state : State}
    (other : headIs kind state.rest = false) :
    accept kind state = .ok false state := by
  cases next : state.rest with
  | nil =>
    rw [accept, run_bind_ok (run_accept?_nil next)]
    rfl
  | cons token tail =>
    rw [next, headIs_cons, decide_eq_false_iff_not] at other
    rw [accept, run_bind_ok (run_accept?_none next (if_neg other))]
    rfl

theorem run_expect_ok {kind : Token.Kind} {what : Expectation} {state : State} {token : Token}
    {tail : List Token} (next : state.rest = token :: tail) (isKind : token.kind = kind) :
    expect kind what state = .ok token { state with rest := tail } := by
  rw [expect, run_bind_ok (run_accept?_some next (if_pos isKind))]
  rfl

theorem run_expect_error {kind : Token.Kind} {what : Expectation} {state : State}
    (other : headIs kind state.rest = false) :
    expect kind what state = .error ⟨.expected what, state.rest.headD state.ending⟩ state := by
  cases next : state.rest with
  | nil =>
    rw [expect, run_bind_ok (run_accept?_nil next), ← next]
    rfl
  | cons token tail =>
    rw [next, headIs_cons, decide_eq_false_iff_not] at other
    rw [expect, run_bind_ok (run_accept?_none next (if_neg other)), ← next]
    rfl

theorem At.seen_next {state : State} (start : At source place rest state) :
    source.Seen state.rest (state.rest.headD state.ending) := by
  rw [start.sameRest, start.sameEnding]
  exact Source.seen_next start.known

theorem At.isEnd {state : State} (start : At source place rest state) :
    state.ending.kind = .eof :=
  start.sameEnding ▸ source.isEnd

theorem Moved.one {state : State} {token : Token} {tail : List Token}
    (next : state.rest = token :: tail) :
    Moved source state [token] [] { state with rest := tail } :=
  ⟨next, rfl, by simp, rfl, rfl, by simp⟩

namespace Reads

variable {next : α → Parser β} {post : Post β}

/-- A step that only looks. -/
theorem look {parser : Parser α} {a : α}
    (run : ∀ state, At source place rest state → parser state = .ok a state)
    (reads : Reads source place rest (next a) post) :
    Reads source place rest (parser >>= next) post := by
  intro state start
  rw [run_bind_ok (run state start)]
  exact reads state start

/-- A step that takes one token. -/
theorem take {parser : Parser α} {a : α} {token : Token} {tail : List Token}
    (run : ∀ state : State, state.rest = token :: tail →
      parser state = .ok a { state with rest := tail })
    (reads : source.Seen tail token →
      Reads source place tail (next a) fun more => post (token :: more)) :
    Reads source place (token :: tail) (parser >>= next) post := by
  intro state start
  have moved : Moved source state [token] [] { state with rest := tail } := .one start.sameRest
  rw [run_bind_ok (run state start.sameRest)]
  have seen : source.Seen ([token] ++ tail) token := Source.seen_next start.known
  exact .after moved (reads seen.after _ (moved.stillAt start))

theorem peek_cons {next : Token → Parser β} {token : Token} {tail : List Token}
    (reads : Reads source place (token :: tail) (next token) post) :
    Reads source place (token :: tail) (peek >>= next) post :=
  look (fun state start => by rw [run_peek, start.sameRest]; rfl) reads

theorem peek_nil {next : Token → Parser β}
    (reads : Reads source place [] (next source.ending) post) :
    Reads source place [] (peek >>= next) post :=
  look (fun state start => by rw [run_peek, start.sameRest, start.sameEnding]; rfl) reads

theorem peek {next : Token → Parser β}
    (reads : ∀ token, source.Seen rest token → Reads source place rest (next token) post) :
    Reads source place rest (Parser.peek >>= next) post := by
  intro state start
  rw [run_bind_ok (run_peek state)]
  exact reads _ (start.sameRest ▸ start.seen_next) state start

theorem get {next : State → Parser β}
    (reads : ∀ state, State.place state = place → Reads source place rest (next state) post) :
    Reads source place rest (MonadState.get >>= next) post := by
  intro state start
  rw [run_bind_ok (run_get state)]
  exact reads state start.samePlace state start

theorem check {next : Bool → Parser β} {kind : Token.Kind} (proper : kind ≠ .eof)
    (reads : Reads source place rest (next (headIs kind rest)) post) :
    Reads source place rest (Parser.check kind >>= next) post :=
  look (fun state start => by rw [run_check proper start.isEnd, start.sameRest]) reads

theorem atEnd {next : Bool → Parser β}
    (reads : Reads source place rest (next rest.isEmpty) post) :
    Reads source place rest (Parser.atEnd >>= next) post :=
  look (fun state start => by rw [run_atEnd, start.sameRest]) reads

theorem skip {next : Unit → Parser β} {token : Token} {tail : List Token}
    (reads : source.Seen tail token →
      Reads source place tail (next ()) fun more => post (token :: more)) :
    Reads source place (token :: tail) (Parser.skip >>= next) post :=
  take (fun state start => by rw [run_skip, start]; rfl) reads

theorem accept? {choose : Token → Option α} {next : Option α → Parser β}
    (yes : ∀ token tail a, rest = token :: tail → choose token = some a → source.Seen tail token →
      Reads source place tail (next (some a)) fun more => post (token :: more))
    (no : (∀ token tail, rest = token :: tail → choose token = none) →
      Reads source place rest (next none) post) :
    Reads source place rest (Parser.accept? choose >>= next) post := by
  cases rest with
  | nil =>
    exact look (fun state start => run_accept?_nil start.sameRest) (no fun _ _ same => nomatch same)
  | cons token tail =>
    cases chosen : choose token with
    | none =>
      refine look (fun state start => run_accept?_none start.sameRest chosen) (no ?_)
      intro first others same
      cases same
      exact chosen
    | some a =>
      exact take (fun state start => run_accept?_some start chosen) (yes token tail a rfl chosen)

theorem accept {kind : Token.Kind} {next : Bool → Parser β}
    (yes : ∀ token tail, rest = token :: tail → token.kind = kind → source.Seen tail token →
      Reads source place tail (next true) fun more => post (token :: more))
    (no : headIs kind rest = false → Reads source place rest (next false) post) :
    Reads source place rest (Parser.accept kind >>= next) post := by
  by_cases other : headIs kind rest = false
  · exact look (fun state start => run_accept_none (start.sameRest ▸ other)) (no other)
  · cases rest with
    | nil => simp at other
    | cons token tail =>
      have isKind : token.kind = kind := by simpa using other
      exact take (fun state start => run_accept_some start isKind) (yes token tail rfl isKind)

theorem expect {kind : Token.Kind} {what : Expectation} {next : Token → Parser β}
    (reads : ∀ token tail, rest = token :: tail → token.kind = kind →
      Reads source place tail (next token) fun more => post (token :: more)) :
    Reads source place rest (Parser.expect kind what >>= next) post := by
  by_cases other : headIs kind rest = false
  · intro state start
    rw [run_bind_error (run_expect_error (start.sameRest ▸ other))]
    exact ⟨[], [], .refl state, start.seen_next, by simp⟩
  · cases rest with
    | nil => simp at other
    | cons token tail =>
      have isKind : token.kind = kind := by simpa using other
      exact take (fun state start => run_expect_ok start isKind)
        fun _ => reads token tail rfl isKind

theorem reportAt {token : Token} {cause : SyntaxError.Cause} {next : Unit → Parser β}
    (known : source.Seen rest token) (proper : cause ≠ .tooDeep)
    (reads : Reads source place rest (next ()) fun used added =>
      post used (⟨cause, token⟩ :: added)) :
    Reads source place rest (Parser.reportAt token cause >>= next) post := by
  intro state start
  have moved : Moved source state [] [⟨cause, token⟩]
      { state with errors := state.errors ++ [⟨cause, token⟩] } :=
    ⟨rfl, rfl, rfl, rfl, rfl, by simpa [start.sameRest] using ⟨known, proper⟩⟩
  rw [run_bind_ok (show Parser.reportAt token cause state = .ok () _ from rfl)]
  exact .after moved (reads _ (start.sameRest ▸ moved.stillAt start))

theorem failAt {token : Token} {cause : SyntaxError.Cause} (known : source.Seen rest token)
    (proper : cause ≠ .tooDeep) : Reads source place rest (Parser.failAt token cause) post := by
  intro state start
  exact ⟨[], [], .refl state, start.sameRest ▸ known, proper⟩

end Reads

/-! ## Loops and routines -/

theorem Reads.inLoop {parser : Parser α} {post : Post α}
    (reads : Reads source place.loopBody rest parser post) :
    Reads source place rest (Parser.inLoop parser) post := by
  intro state start
  have ends := reads { state with loopDepth := state.loopDepth + 1 }
    ⟨start.sameEnding, by simp [← start.samePlace, State.place, Place.loopBody], start.sameRest,
      start.known⟩
  unfold Parser.inLoop
  split <;> rename_i result <;> rw [result] at ends
  · obtain ⟨used, added, moved, holds⟩ := ends
    have back := moved.loopDepth
    exact ⟨used, added, ⟨moved.rest, moved.ending, moved.errors, by simp [back],
      moved.functionDepth, moved.blamed⟩, holds⟩
  · obtain ⟨used, added, moved, blames⟩ := ends
    have back := moved.loopDepth
    exact ⟨used, added, ⟨moved.rest, moved.ending, moved.errors, by simp [back],
      moved.functionDepth, moved.blamed⟩, blames⟩

theorem Reads.inFunction {parser : Parser α} {post : Post α}
    (reads : Reads source .routineBody rest parser post) :
    Reads source place rest (Parser.inFunction parser) post := by
  intro state start
  have ends := reads { state with loopDepth := 0, functionDepth := state.functionDepth + 1 }
    ⟨start.sameEnding, by simp [State.place, Place.routineBody], start.sameRest, start.known⟩
  unfold Parser.inFunction
  split <;> rename_i result <;> rw [result] at ends
  · obtain ⟨used, added, moved, holds⟩ := ends
    have back := moved.functionDepth
    exact ⟨used, added, ⟨moved.rest, moved.ending, moved.errors, rfl, by simp [back],
      moved.blamed⟩, holds⟩
  · obtain ⟨used, added, moved, blames⟩ := ends
    have back := moved.functionDepth
    exact ⟨used, added, ⟨moved.rest, moved.ending, moved.errors, rfl, by simp [back],
      moved.blamed⟩, blames⟩

/-! ## Repetition -/

/-- Items up to a closing brace or the end of the tokens. -/
def untilBrace (item : Parser α) : Parser (Option α) := do
  if (← check .rightBrace) || (← atEnd) then return none
  return some (← item)

namespace Reads

/-- What holds of the tokens taken so far and the value grown from them is kept round by round. -/
theorem growFor {step : α → Parser (Option α)} {post : Post α}
    (keeps : ∀ used added left a, rest = used ++ left → post used added left a →
      Reads source place left (step a) fun more further left grown =>
        post (used ++ more) (added ++ further) left (grown.getD a))
    (rounds : Nat) {used : List Token} {added : List SyntaxError} {left : List Token} {a : α}
    (whole : rest = used ++ left) (holds : post used added left a) :
    Reads source place left (Parser.growFor step rounds a) fun more further =>
      post (used ++ more) (added ++ further) := by
  induction rounds generalizing used added left a with
  | zero => exact pure (by simpa using holds)
  | succ rounds ih =>
    refine bind (keeps used added left a whole holds) fun more further left' grown split kept => ?_
    have whole' : rest = (used ++ more) ++ left' := by rw [whole, split, List.append_assoc]
    cases grown with
    | none => exact pure (by simpa using kept)
    | some b => simpa only [Option.getD_some, List.append_assoc] using ih whole' kept

theorem grow {step : α → Parser (Option α)} {post : Post α} {a : α} (holds : post [] [] rest a)
    (keeps : ∀ used added left a, rest = used ++ left → post used added left a →
      Reads source place left (step a) fun more further left grown =>
        post (used ++ more) (added ++ further) left (grown.getD a)) :
    Reads source place rest (Parser.grow step a) post := by
  intro state start
  rw [Parser.grow, run_bind_ok (run_get state)]
  have reads := growFor keeps state.rest.length (List.nil_append rest).symm holds
  simpa using reads state start

/-- `ends` closes a list where the items or the rounds stop, and `adds` puts an item in front. -/
theorem collectFor {item : Parser (Option α)} (one : Post (Option α)) {post : Post (List α)}
    (reads : ∀ left, left.length ≤ rest.length → Reads source place left item one)
    (stops : ∀ left, post [] [] left [])
    (ends : ∀ used added left, one used added left none → post used added left [])
    (adds : ∀ used added left a more further left' as, one used added left (some a) →
      left = more ++ left' → post more further left' as →
      post (used ++ more) (added ++ further) left' (a :: as))
    (rounds : Nat) : Reads source place rest (Parser.collectFor item rounds) post := by
  induction rounds generalizing rest with
  | zero => exact pure (stops rest)
  | succ rounds ih =>
    refine bind (reads rest (Nat.le_refl _)) fun used added left found split holds => ?_
    cases found with
    | none => exact pure (by simpa using ends used added left holds)
    | some a =>
      have shorter := length_le_of_split split (Nat.le_refl _)
      refine bind (ih fun left' short => reads left' (Nat.le_trans short shorter))
        fun more further left' as split' others => pure ?_
      simpa using adds used added left a more further left' as holds split' others

theorem collect {item : Parser (Option α)} (one : Post (Option α)) {post : Post (List α)}
    (reads : ∀ left, left.length ≤ rest.length → Reads source place left item one)
    (stops : ∀ left, post [] [] left [])
    (ends : ∀ used added left, one used added left none → post used added left [])
    (adds : ∀ used added left a more further left' as, one used added left (some a) →
      left = more ++ left' → post more further left' as →
      post (used ++ more) (added ++ further) left' (a :: as)) :
    Reads source place rest (Parser.collect item) post := by
  intro state start
  rw [Parser.collect, run_bind_ok (run_get state)]
  exact collectFor one reads stops ends adds state.rest.length state start

theorem collect_untilBrace {item : Parser α} (one : Post α) {post : Post (List α)}
    (reads : ∀ left, left.length ≤ rest.length → Reads source place left item one)
    (stops : ∀ left, post [] [] left [])
    (adds : ∀ used added left a more further left' as, one used added left a →
      post more further left' as → post (used ++ more) (added ++ further) left' (a :: as)) :
    Reads source place rest (Parser.collect (untilBrace item)) post := by
  refine collect (fun used added left found => match found with
    | none => used = [] ∧ added = []
    | some a => one used added left a) (fun left shorter => check (by decide) (atEnd ?_)) stops ?_
    fun used added left a more further left' as holds _ others => adds _ _ _ a _ _ _ as holds others
  · split
    · exact pure ⟨rfl, rfl⟩
    · refine bind (reads left shorter) fun used added left' a _ holds => pure ?_
      rw [List.append_nil, List.append_nil]
      exact holds
  · rintro used added left ⟨rfl, rfl⟩
    exact stops left

/-- Elements between commas. A list that is too long is an error at its first surplus element. -/
theorem separatedFor {excess : SyntaxError.Cause} (proper : excess ≠ .tooDeep)
    {element : Parser α} (one : List Token → α → Prop) (many : List Token → List α → Prop)
    (last : ∀ used a, one used a → many used [a])
    (more : ∀ used a comma others as, one used a → comma.kind = .comma → many others as →
      many (used ++ comma :: others) (a :: as))
    (reads : ∀ left, left.length ≤ rest.length →
      Reads source place left element fun used added _ a => used ≠ [] ∧ (added = [] → one used a))
    (count rounds : Nat) (enough : rest.length < rounds) :
    Reads source place rest (Parser.separatedFor excess element count rounds)
      fun used added _ as => used ≠ [] ∧ (added = [] → many used as ∧ count + as.length ≤ 255) := by
  induction rounds generalizing rest count with
  | zero => omega
  | succ rounds ih =>
    -- An element and what follows it. Only the report depends on whether it is one too many.
    have element_then : Reads source place rest
        (do
          let first ← element
          if ← Parser.accept .comma then
            return first :: (← Parser.separatedFor excess element (count + 1) rounds)
          else return [first])
        fun used added _ as => used ≠ [] ∧
          (added = [] → many used as ∧ (count < 255 → count + as.length ≤ 255)) := by
      refine bind (reads rest (Nat.le_refl _)) fun used added left a split ⟨taken, found⟩ => ?_
      refine accept (fun comma tail next isComma _ => ?_) fun _ => pure ?_
      · have shorter := length_lt_of_next next (length_le_of_split split (Nat.le_refl _))
        refine bind (ih (fun left short => reads left (by omega)) (count + 1) (by omega))
          fun others further left' as _ ⟨_, rest⟩ => pure ?_
        refine ⟨by simp [taken], fun clean => ?_⟩
        simp only [List.append_eq_nil_iff] at clean
        obtain ⟨between, few⟩ := rest (by simpa using clean.2.1)
        refine ⟨?_, fun _ => ?_⟩
        · simpa using more used a comma others as (found clean.1) isComma between
        · simpa using (by omega : count + (as.length + 1) ≤ 255)
      · refine ⟨by simpa using taken, fun clean => ⟨?_, Nat.succ_le_of_lt⟩⟩
        simpa using last used a (found (by simpa using clean))
    unfold Parser.separatedFor
    by_cases full : maxItems ≤ count
    · simp only [full, if_true]
      refine peek fun token known => reportAt known proper (element_then.mono ?_)
      intro used added left as _ ⟨taken, _⟩
      exact ⟨taken, fun clean => nomatch clean⟩
    · simp only [full, if_false]
      refine element_then.mono ?_
      intro used added left as _ ⟨taken, found⟩
      exact ⟨taken, fun clean => ⟨(found clean).1, (found clean).2 (Nat.lt_of_not_le full)⟩⟩

/-- Elements up to a closing parenthesis. -/
theorem untilParen {excess : SyntaxError.Cause} (proper : excess ≠ .tooDeep)
    {element : Parser α} (one : List Token → α → Prop) (many : List Token → List α → Prop)
    (last : ∀ used a, one used a → many used [a])
    (more : ∀ used a comma others as, one used a → comma.kind = .comma → many others as →
      many (used ++ comma :: others) (a :: as))
    (reads : ∀ left, left.length ≤ rest.length →
      Reads source place left element fun used added _ a =>
        used ≠ [] ∧ (added = [] → one used a)) :
    Reads source place rest (Parser.untilParen excess element) fun used added _ as =>
      added = [] → (used = [] ∧ as = []) ∨ (many used as ∧ as.length ≤ 255) := by
  unfold Parser.untilParen
  refine check (by decide) ?_
  split
  · exact pure fun _ => .inl ⟨rfl, rfl⟩
  · intro state start
    rw [separated, run_bind_ok (run_get state), start.sameRest]
    refine (separatedFor proper one many last more reads 0 (rest.length + 1)
      (Nat.lt_succ_self _)).mono ?_ state start
    intro used added left as _ ⟨_, found⟩ clean
    simpa using Or.inr (found clean)

end Reads

end Lox.Parser
