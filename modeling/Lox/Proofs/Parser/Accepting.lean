import Lox.Proofs.Parser.Reading

/-!
# Parsers that take what they are given

`Accepts place parser tokens rest a` says that `parser`, at `place` and before `tokens` and then
`rest`, takes the tokens, gives `a` and adds no error. The rules of this judgement follow the steps
of a parser, as those of `Reads` do, but each is about the turn that the tokens call for.

A parser that grows its result round by round is followed by `Grows`, which holds between rounds.
-/

namespace Lox.Parser

open Lox.Grammar (Place)
open Lox.Token (Kind)

/-- Before `tokens` and then `rest`, `parser` takes the tokens, gives `a` and changes nothing
else. -/
def Accepts {α : Type} (place : Place) (parser : Parser α) (tokens rest : List Token) (a : α) :
    Prop :=
  ∀ state, state.ending.kind = .eof → state.place = place → state.rest = tokens ++ rest →
    parser state = .ok a { state with rest }

variable {α β : Type} {place : Place} {tokens more rest : List Token}

namespace Accepts

theorem pure (a : α) : Accepts place (Pure.pure a) [] rest a := by
  intro state _ _ next
  rw [List.nil_append] at next
  subst next
  rfl

theorem bind {parser : Parser α} {next : α → Parser β} {a : α} {b : β}
    (first : Accepts place parser tokens (more ++ rest) a)
    (second : Accepts place (next a) more rest b) :
    Accepts place (parser >>= next) (tokens ++ more) rest b := by
  intro state isEnd samePlace before
  rw [run_bind_ok (first state isEnd samePlace (by rw [before, List.append_assoc]))]
  exact second _ isEnd samePlace rfl

/-- Last steps that take nothing. -/
theorem bind_nil {parser : Parser α} {next : α → Parser β} {a : α} {b : β}
    (first : Accepts place parser tokens rest a) (second : Accepts place (next a) [] rest b) :
    Accepts place (parser >>= next) tokens rest b := by
  intro state isEnd samePlace before
  rw [run_bind_ok (first state isEnd samePlace before)]
  exact second _ isEnd samePlace rfl

theorem map {parser : Parser α} {f : α → β} {a : α} (reads : Accepts place parser tokens rest a) :
    Accepts place (f <$> parser) tokens rest (f a) := by
  rw [map_eq_pure_bind]
  exact bind_nil reads (pure (f a))

section Steps

variable {b : β}

/-- A step that only looks. -/
theorem look {parser : Parser α} {next : α → Parser β} {a : α}
    (run : ∀ state : State, state.ending.kind = .eof → state.place = place →
      state.rest = tokens ++ rest → parser state = .ok a state)
    (second : Accepts place (next a) tokens rest b) :
    Accepts place (parser >>= next) tokens rest b := by
  intro state isEnd samePlace before
  rw [run_bind_ok (run state isEnd samePlace before)]
  exact second state isEnd samePlace before

/-- A step that takes one token. -/
theorem take {parser : Parser α} {next : α → Parser β} {a : α} {token : Token}
    (run : ∀ state : State, state.rest = token :: (tokens ++ rest) →
      parser state = .ok a { state with rest := tokens ++ rest })
    (second : Accepts place (next a) tokens rest b) :
    Accepts place (parser >>= next) (token :: tokens) rest b := by
  intro state isEnd samePlace before
  rw [run_bind_ok (run state before)]
  exact second _ isEnd samePlace rfl

theorem peek {next : Token → Parser β} {token : Token}
    (second : Accepts place (next token) (token :: tokens) rest b) :
    Accepts place (Parser.peek >>= next) (token :: tokens) rest b :=
  look (fun state _ _ before => by rw [run_peek, before]; rfl) second

theorem skip {next : Unit → Parser β} {token : Token}
    (second : Accepts place (next ()) tokens rest b) :
    Accepts place (Parser.skip >>= next) (token :: tokens) rest b :=
  take (fun state before => by rw [run_skip, before]; rfl) second

theorem check {next : Bool → Parser β} {kind : Kind} (proper : kind ≠ .eof)
    (second : Accepts place (next (headIs kind (tokens ++ rest))) tokens rest b) :
    Accepts place (Parser.check kind >>= next) tokens rest b :=
  look (fun state isEnd _ before => by rw [run_check proper isEnd, before]) second

theorem atEnd {next : Bool → Parser β}
    (second : Accepts place (next (tokens ++ rest).isEmpty) tokens rest b) :
    Accepts place (Parser.atEnd >>= next) tokens rest b :=
  look (fun state _ _ before => by rw [run_atEnd, before]) second

theorem accept?_some {choose : Token → Option α} {next : Option α → Parser β} {token : Token}
    {a : α} (chosen : choose token = some a)
    (second : Accepts place (next (some a)) tokens rest b) :
    Accepts place (Parser.accept? choose >>= next) (token :: tokens) rest b :=
  take (fun _ before => run_accept?_some before chosen) second

theorem accept?_none {choose : Token → Option α} {next : Option α → Parser β}
    (refused : ∀ token, (tokens ++ rest).head? = some token → choose token = none)
    (second : Accepts place (next none) tokens rest b) :
    Accepts place (Parser.accept? choose >>= next) tokens rest b := by
  refine look (fun state _ _ before => ?_) second
  cases known : tokens ++ rest with
  | nil => exact run_accept?_nil (before.trans known)
  | cons token tail =>
    exact run_accept?_none (before.trans known) (refused token (by rw [known]; rfl))

theorem accept {next : Bool → Parser β} {kind : Kind} {token : Token} (isKind : token.kind = kind)
    (second : Accepts place (next true) tokens rest b) :
    Accepts place (Parser.accept kind >>= next) (token :: tokens) rest b :=
  take (fun _ before => run_accept_some before isKind) second

theorem accept_not {next : Bool → Parser β} {kind : Kind}
    (other : headIs kind (tokens ++ rest) = false)
    (second : Accepts place (next false) tokens rest b) :
    Accepts place (Parser.accept kind >>= next) tokens rest b :=
  look (fun _ _ _ before => run_accept_none (before ▸ other)) second

theorem expect {next : Token → Parser β} {kind : Kind} {what : Expectation} {token : Token}
    (isKind : token.kind = kind) (second : Accepts place (next token) tokens rest b) :
    Accepts place (Parser.expect kind what >>= next) (token :: tokens) rest b :=
  take (fun _ before => run_expect_ok before isKind) second

theorem get {next : State → Parser β}
    (second : ∀ state, State.place state = place → State.rest state = tokens ++ rest →
      Accepts place (next state) tokens rest b) :
    Accepts place (MonadState.get >>= next) tokens rest b := by
  intro state isEnd samePlace before
  rw [run_bind_ok (run_get state)]
  exact second state samePlace before state isEnd samePlace before

end Steps

theorem inLoop {parser : Parser α} {a : α}
    (reads : Accepts place.loopBody parser tokens rest a) :
    Accepts place (Parser.inLoop parser) tokens rest a := by
  intro state isEnd samePlace before
  have run := reads { state with loopDepth := state.loopDepth + 1 } isEnd
    (by simp [← samePlace, State.place, Place.loopBody]) before
  rw [Parser.inLoop, run]
  rfl

theorem inFunction {parser : Parser α} {a : α}
    (reads : Accepts .routineBody parser tokens rest a) :
    Accepts place (Parser.inFunction parser) tokens rest a := by
  intro state isEnd samePlace before
  have run := reads { state with loopDepth := 0, functionDepth := state.functionDepth + 1 } isEnd
    (by simp [State.place, Place.routineBody]) before
  rw [Parser.inFunction, run]
  rfl

end Accepts

/-! ## Growth -/

/-- Before `tokens` and then `rest`, `parser` comes to `a` and goes on to grow it by `step`, with
rounds enough for all that is left. -/
def Grows {α : Type} (place : Place) (parser : Parser α) (step : α → Parser (Option α))
    (tokens rest : List Token) (a : α) : Prop :=
  ∀ state, state.ending.kind = .eof → state.place = place → state.rest = tokens ++ rest →
    ∃ rounds, rest.length ≤ rounds ∧ parser state = growFor step rounds a { state with rest }

namespace Grows

variable {parser : Parser α} {step : α → Parser (Option α)} {a : α}

theorem start (first : Accepts place parser tokens rest a) :
    Grows place (parser >>= grow step) step tokens rest a := by
  intro state isEnd samePlace before
  refine ⟨rest.length, Nat.le_refl _, ?_⟩
  rw [run_bind_ok (first state isEnd samePlace before), grow, run_bind_ok (run_get _)]

theorem again {grown : α} (grows : Grows place parser step tokens (more ++ rest) a)
    (some_more : more ≠ []) (adds : Accepts place (step a) more rest (some grown)) :
    Grows place parser step (tokens ++ more) rest grown := by
  intro state isEnd samePlace before
  obtain ⟨rounds, enough, run⟩ := grows state isEnd samePlace (by rw [before, List.append_assoc])
  have positive := List.length_pos_iff.mpr some_more
  rw [List.length_append] at enough
  obtain ⟨fewer, rfl⟩ : ∃ fewer, rounds = fewer + 1 := ⟨rounds - 1, by omega⟩
  refine ⟨fewer, by omega, ?_⟩
  rw [run, growFor]
  exact run_bind_ok (adds { state with rest := more ++ rest } isEnd samePlace rfl)

theorem stop (grows : Grows place parser step tokens rest a)
    (stops : Accepts place (step a) [] rest none) : Accepts place parser tokens rest a := by
  intro state isEnd samePlace before
  obtain ⟨rounds, -, run⟩ := grows state isEnd samePlace before
  rw [run]
  cases rounds with
  | zero => rfl
  | succ fewer =>
    rw [growFor]
    exact run_bind_ok (stops { state with rest } isEnd samePlace rfl)

end Grows

/-! ## Lists -/

section Separated

variable {excess : SyntaxError.Cause} {element : Parser α} {a : α} {as : List α}
variable {count rounds : Nat}

theorem Accepts.lastElement (read : Accepts place element tokens rest a)
    (stops : headIs .comma rest = false) (room : count < 255) (enough : 0 < rounds) :
    Accepts place (separatedFor excess element count rounds) tokens rest [a] := by
  obtain ⟨fewer, rfl⟩ : ∃ fewer, rounds = fewer + 1 := ⟨rounds - 1, by omega⟩
  unfold separatedFor
  simp only [show ¬ maxItems ≤ count from Nat.not_le.mpr room, if_false]
  exact .bind_nil read (.accept_not stops (.pure _))

theorem Accepts.moreElements {comma : Token} {others : List Token}
    (read : Accepts place element tokens (comma :: others ++ rest) a)
    (isComma : comma.kind = .comma) (room : count < 255)
    (between : Accepts place (separatedFor excess element (count + 1) rounds) others rest as) :
    Accepts place (separatedFor excess element count (rounds + 1)) (tokens ++ comma :: others) rest
      (a :: as) := by
  unfold separatedFor
  simp only [show ¬ maxItems ≤ count from Nat.not_le.mpr room, if_false]
  exact .bind read (.accept isComma (.bind_nil between (.pure _)))

theorem Accepts.untilParen_nil (closes : headIs .rightParen rest = true) :
    Accepts place (untilParen excess element) [] rest [] := by
  refine .check (by decide) ?_
  rw [List.nil_append, closes]
  exact .pure _

theorem Accepts.untilParen (opens : headIs .rightParen (tokens ++ rest) = false)
    (between : ∀ {rounds}, tokens.length < rounds →
      Accepts place (separatedFor excess element 0 rounds) tokens rest as) :
    Accepts place (Parser.untilParen excess element) tokens rest as := by
  refine .check (by decide) ?_
  rw [opens]
  refine .get fun state _ before => between ?_
  rw [before, List.length_append]
  omega

end Separated

theorem Accepts.untilBrace_stop {item : Parser α} (closes : headIs .rightBrace rest = true) :
    Accepts place (untilBrace item) [] rest none := by
  refine .check (by decide) (.atEnd ?_)
  simp only [List.nil_append, closes, Bool.true_or, if_true]
  exact .pure _

theorem Accepts.untilBrace {item : Parser α} {a : α} (read : Accepts place item tokens rest a)
    (some_token : tokens ≠ []) (opens : headIs .rightBrace (tokens ++ rest) = false) :
    Accepts place (untilBrace item) tokens rest (some a) := by
  refine .check (by decide) (.atEnd ?_)
  simp only [opens, Bool.false_or, List.isEmpty_iff, List.append_eq_nil_iff, some_token, false_and,
    if_false]
  exact .bind_nil read (.pure _)

end Lox.Parser
