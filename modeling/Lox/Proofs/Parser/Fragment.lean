import Lox.Proofs.Parser.Completeness

/-!
# What stands behind a semicolon

A fragment is a list of tokens, good or bad, up to and with its only semicolon. It has no braces in
it, and no keyword behind its first token begins another statement. Whatever a parser makes of a
fragment, it does not look behind the semicolon, so it does the same before any other tokens.

`Twins beyond rest parser other post` compares two runs. The first has nothing behind `rest`, the
second has what is `beyond`. They end alike, and the state of the second is that of the first with
the same tokens behind it. The rules may be nested to different depths, as long as both suffice for
the fragment.
-/

namespace Lox.Parser

open Lox.Token (Kind)

variable {α β : Type} {rest left tail : List Token} {token : Token}

/-! ## Fragments -/

/-- The kinds that may stand before the semicolon of a fragment. -/
def staysOpen : Kind → Bool
  | .semicolon | .leftBrace | .rightBrace | .kwFor => false
  | _ => true

inductive Fragment : List Token → Prop
  | last {semicolon : Token} (ends : semicolon.kind = .semicolon) : Fragment [semicolon]
  | more {token next : Token} {tail : List Token} (stays : staysOpen token.kind = true)
      (calm : beginsStatement next.kind = false) (others : Fragment (next :: tail)) :
      Fragment (token :: next :: tail)

namespace Fragment

theorem length_pos (fragment : Fragment rest) : 0 < rest.length := by
  cases fragment <;> simp

theorem tail_of_ne (fragment : Fragment (token :: tail)) (inside : token.kind ≠ .semicolon) :
    Fragment tail := by
  cases fragment with
  | last ends => exact absurd ends inside
  | more _ _ others => exact others

theorem nil_of_semicolon (fragment : Fragment (token :: tail)) (ends : token.kind = .semicolon) :
    tail = [] := by
  cases fragment with
  | last _ => rfl
  | more stays => simp [ends, staysOpen] at stays

/-- No block and no `for` begins in a fragment. -/
theorem kind_ne (fragment : Fragment (token :: tail)) {kind : Kind} (inside : kind ≠ .semicolon)
    (closed : staysOpen kind = false) : token.kind ≠ kind := by
  rintro rfl
  cases fragment with
  | last ends => exact inside ends
  | more stays => simp [closed] at stays

/-- Recovery resumes behind the semicolon, whatever stands there. -/
theorem skipTo_append (fragment : Fragment (token :: tail)) (more : List Token) :
    skipTo token (tail ++ more) = more := by
  generalize whole : token :: tail = tokens at fragment
  induction fragment generalizing token tail with
  | last ends =>
    cases whole
    cases more with
    | nil => rfl
    | cons next others => simp [skipTo, ends]
  | @more token next tail stays calm _ ih =>
    cases whole
    have inside : token.kind ≠ .semicolon := by
      intro ends
      simp [ends, staysOpen] at stays
    rw [List.cons_append, skipTo]
    simpa [inside, calm] using ih rfl

theorem synchronize_append (fragment : Fragment rest) (more : List Token) :
    synchronize (rest ++ more) = more := by
  obtain ⟨token, tail, rfl⟩ := List.exists_cons_of_length_pos fragment.length_pos
  exact fragment.skipTo_append more

end Fragment

/-! ## Two runs -/

/-- What one run has behind a fragment and the other has not. -/
structure Beyond where
  tokens : List Token
  ending : Token
  parted : headIs .kwElse tokens = false

def Beyond.behind (beyond : Beyond) (state : State) : State :=
  { state with rest := state.rest ++ beyond.tokens, ending := beyond.ending }

variable {beyond : Beyond}

/-- Both ended alike. After an error there is still a semicolon to come. -/
def Alike {α : Type} (beyond : Beyond) (post : List Token → α → Prop)
    (result other : EStateM.Result SyntaxError State α) : Prop :=
  match result with
  | .ok a after => other = .ok a (beyond.behind after) ∧ post after.rest a
  | .error error after => other = .error error (beyond.behind after) ∧ Fragment after.rest

def Twins {α : Type} (beyond : Beyond) (rest : List Token) (parser other : Parser α)
    (post : List Token → α → Prop) : Prop :=
  ∀ state : State, state.rest = rest →
    Alike beyond post (parser state) (other (beyond.behind state))

/-- Some of a fragment is left, with its semicolon. -/
structure Within (rest left : List Token) : Prop where
  fragment : Fragment left
  length_le : left.length ≤ rest.length

theorem Within.trans {further : List Token} (first : Within rest left)
    (second : Within left further) : Within rest further :=
  ⟨second.fragment, Nat.le_trans second.length_le first.length_le⟩

theorem Fragment.within (fragment : Fragment rest) : Within rest rest :=
  ⟨fragment, Nat.le_refl _⟩

/-- Both rules read what is left of a fragment alike, and stop before its semicolon. -/
def TwinExprs (beyond : Beyond) (bound : Nat) (parser other : Parser α) : Prop :=
  ∀ ⦃rest : List Token⦄, Fragment rest → rest.length ≤ bound →
    Twins beyond rest parser other fun left _ => Within rest left

namespace Twins

section

variable {parser other : Parser α} {post : List Token → α → Prop}

theorem pure {a : α} (holds : post rest a) :
    Twins beyond rest (Pure.pure a) (Pure.pure a) post := by
  rintro state rfl
  exact ⟨rfl, holds⟩

theorem mono {weaker : List Token → α → Prop} (twins : Twins beyond rest parser other post)
    (implies : ∀ left a, post left a → weaker left a) :
    Twins beyond rest parser other weaker := by
  intro state before
  have alike := twins state before
  cases result : parser state with
  | ok a after =>
    rw [result] at alike
    exact ⟨alike.1, implies _ _ alike.2⟩
  | error error after =>
    rw [result] at alike
    exact alike

theorem bind {next after : α → Parser β} {last : List Token → β → Prop}
    (first : Twins beyond rest parser other post)
    (second : ∀ left a, post left a → Twins beyond left (next a) (after a) last) :
    Twins beyond rest (parser >>= next) (other >>= after) last := by
  intro state before
  have alike := first state before
  cases result : parser state with
  | ok a middle =>
    rw [result] at alike
    rw [run_bind_ok result, run_bind_ok alike.1]
    exact second _ a alike.2 middle rfl
  | error error middle =>
    rw [result] at alike
    rw [run_bind_error result, run_bind_error alike.1]
    exact ⟨rfl, alike.2⟩

theorem map {f : α → β} {last : List Token → β → Prop}
    (twins : Twins beyond rest parser other fun left a => last left (f a)) :
    Twins beyond rest (f <$> parser) (f <$> other) last := by
  rw [map_eq_pure_bind, map_eq_pure_bind]
  exact twins.bind fun _ _ holds => pure holds

theorem inLoop (twins : Twins beyond rest parser other post) :
    Twins beyond rest (Parser.inLoop parser) (Parser.inLoop other) post := by
  intro state before
  have alike := twins { state with loopDepth := state.loopDepth + 1 } before
  unfold Parser.inLoop
  simp only [Beyond.behind] at alike ⊢
  cases result : parser { state with loopDepth := state.loopDepth + 1 } with
  | ok a after =>
    rw [result] at alike
    rw [alike.1]
    exact ⟨rfl, alike.2⟩
  | error error after =>
    rw [result] at alike
    rw [alike.1]
    exact ⟨rfl, alike.2⟩

end

/-! ### Single steps -/

section

variable {next after : α → Parser β} {post : List Token → β → Prop}

/-- A step that depends only on the tokens up to `left`. -/
theorem step {parser : Parser α} {a : α}
    (run : ∀ (more : List Token) (state : State), state.rest = rest ++ more →
      parser state = .ok a { state with rest := left ++ more })
    (second : Twins beyond left (next a) (after a) post) :
    Twins beyond rest (parser >>= next) (parser >>= after) post := by
  rintro state rfl
  have alone := run [] state (List.append_nil _).symm
  rw [List.append_nil] at alone
  rw [run_bind_ok alone, run_bind_ok (run beyond.tokens (beyond.behind state) rfl)]
  exact second { state with rest := left } rfl

theorem look {parser : Parser α} {a : α}
    (run : ∀ (more : List Token) (state : State), state.rest = rest ++ more →
      parser state = .ok a state)
    (second : Twins beyond rest (next a) (after a) post) :
    Twins beyond rest (parser >>= next) (parser >>= after) post := by
  refine step (fun more state before => ?_) second
  rw [run more state before, ← before]

theorem peek {next after : Token → Parser β}
    (second : Twins beyond (token :: tail) (next token) (after token) post) :
    Twins beyond (token :: tail) (Parser.peek >>= next) (Parser.peek >>= after) post :=
  look (fun more state before => by rw [run_peek, before]; rfl) second

theorem skip {next after : Unit → Parser β} (second : Twins beyond tail (next ()) (after ()) post) :
    Twins beyond (token :: tail) (Parser.skip >>= next) (Parser.skip >>= after) post :=
  step (fun more state before => by rw [run_skip, before]; rfl) second

theorem reportAt {next after : Unit → Parser β} {cause : SyntaxError.Cause}
    (second : Twins beyond rest (next ()) (after ()) post) :
    Twins beyond rest (Parser.reportAt token cause >>= next)
      (Parser.reportAt token cause >>= after) post := by
  rintro state rfl
  exact second { state with errors := state.errors ++ [⟨cause, token⟩] } rfl

theorem failAt {post : List Token → α → Prop} {cause : SyntaxError.Cause}
    (fragment : Fragment rest) :
    Twins beyond rest (Parser.failAt token cause) (Parser.failAt token cause) post := by
  rintro state rfl
  exact ⟨rfl, fragment⟩

/-- Steps that look at the counts of loops and routines. -/
theorem get {next after : State → Parser β}
    (second : ∀ state, state.rest = rest →
      Twins beyond rest (next state) (after (beyond.behind state)) post) :
    Twins beyond rest (MonadState.get >>= next) (MonadState.get >>= after) post := by
  intro state before
  exact second state before state before

theorem check {next after : Bool → Parser β} {kind : Kind} (fragment : Fragment rest)
    (second : Twins beyond rest (next (headIs kind rest)) (after (headIs kind rest)) post) :
    Twins beyond rest (Parser.check kind >>= next) (Parser.check kind >>= after) post := by
  obtain ⟨token, tail, rfl⟩ := List.exists_cons_of_length_pos fragment.length_pos
  refine look (fun more state before => ?_) second
  rw [Parser.check, run_bind_ok (run_peek state), before]
  rfl

theorem accept? {choose : Token → Option α} {next after : Option α → Parser β}
    (fragment : Fragment rest) (ends : ∀ token, token.kind = .semicolon → choose token = none)
    (yes : ∀ {tail} a, Fragment tail → tail.length < rest.length →
      Twins beyond tail (next (some a)) (after (some a)) post)
    (no : Twins beyond rest (next none) (after none) post) :
    Twins beyond rest (Parser.accept? choose >>= next) (Parser.accept? choose >>= after) post := by
  obtain ⟨token, tail, rfl⟩ := List.exists_cons_of_length_pos fragment.length_pos
  cases chosen : choose token with
  | none => exact look (fun more state before => run_accept?_none before chosen) no
  | some a =>
    have inside : token.kind ≠ .semicolon := by
      intro isEnd
      simp [ends token isEnd] at chosen
    exact step (fun more state before => run_accept?_some before chosen)
      (yes a (fragment.tail_of_ne inside) (Nat.lt_succ_self _))

theorem accept {next after : Bool → Parser β} {kind : Kind} (fragment : Fragment rest)
    (inside : kind ≠ .semicolon)
    (yes : ∀ {tail}, Fragment tail → tail.length < rest.length →
      Twins beyond tail (next true) (after true) post)
    (no : Twins beyond rest (next false) (after false) post) :
    Twins beyond rest (Parser.accept kind >>= next) (Parser.accept kind >>= after) post := by
  obtain ⟨token, tail, rfl⟩ := List.exists_cons_of_length_pos fragment.length_pos
  by_cases isKind : token.kind = kind
  · exact step (fun more state before => run_accept_some before isKind)
      (yes (fragment.tail_of_ne (isKind ▸ inside)) (Nat.lt_succ_self _))
  · refine look (fun more state before => run_accept_none ?_) no
    rw [before]
    exact decide_eq_false isKind

theorem expect_error {next after : Token → Parser β} {kind : Kind} {what : Expectation}
    (fragment : Fragment (token :: tail)) (other : token.kind ≠ kind) :
    Twins beyond (token :: tail) (Parser.expect kind what >>= next)
      (Parser.expect kind what >>= after) post := by
  have run : ∀ (more : List Token) (state : State), state.rest = token :: tail ++ more →
      Parser.expect kind what state = .error ⟨.expected what, token⟩ state := by
    intro more state before
    have refused := @run_expect_error kind what state (by rw [before]; exact decide_eq_false other)
    rw [refused, before]
    rfl
  intro state before
  have alone := run [] state (by rw [before, List.append_nil])
  have behind := run beyond.tokens (beyond.behind state) (by rw [← before]; rfl)
  rw [run_bind_error alone, run_bind_error behind]
  exact ⟨rfl, before ▸ fragment⟩

theorem expect {next after : Token → Parser β} {kind : Kind} {what : Expectation}
    (fragment : Fragment rest) (inside : kind ≠ .semicolon)
    (second : ∀ {tail} token, Fragment tail → tail.length < rest.length →
      Twins beyond tail (next token) (after token) post) :
    Twins beyond rest (Parser.expect kind what >>= next) (Parser.expect kind what >>= after)
      post := by
  obtain ⟨token, tail, rfl⟩ := List.exists_cons_of_length_pos fragment.length_pos
  by_cases isKind : token.kind = kind
  · exact step (fun more state before => run_expect_ok before isKind)
      (second token (fragment.tail_of_ne (isKind ▸ inside)) (Nat.lt_succ_self _))
  · exact expect_error fragment isKind

/-- Where a block would have to begin, the statement fails. -/
theorem expect_brace {next after : Token → Parser β} {what : Expectation}
    (fragment : Fragment rest) :
    Twins beyond rest (Parser.expect .leftBrace what >>= next)
      (Parser.expect .leftBrace what >>= after) post := by
  obtain ⟨token, tail, rfl⟩ := List.exists_cons_of_length_pos fragment.length_pos
  exact expect_error fragment (fragment.kind_ne (by decide) rfl)

/-- The semicolon is the last token. -/
theorem expect_semicolon {next after : Token → Parser β} {what : Expectation}
    (fragment : Fragment rest)
    (second : ∀ token, Twins beyond [] (next token) (after token) post) :
    Twins beyond rest (Parser.expect .semicolon what >>= next)
      (Parser.expect .semicolon what >>= after) post := by
  obtain ⟨token, tail, rfl⟩ := List.exists_cons_of_length_pos fragment.length_pos
  by_cases ends : token.kind = .semicolon
  · obtain rfl := fragment.nil_of_semicolon ends
    exact step (fun more state before => run_expect_ok before ends) (second token)
  · exact expect_error fragment ends

/-- A token by itself. -/
theorem expect_within {kind : Kind} {what : Expectation} (fragment : Fragment rest)
    (inside : kind ≠ .semicolon) :
    Twins beyond rest (Parser.expect kind what) (Parser.expect kind what)
      fun left _ => Within rest left := by
  rw [← bind_pure (Parser.expect kind what)]
  exact expect fragment inside fun _ others shorter => pure ⟨others, Nat.le_of_lt shorter⟩

end

/-! ### Repetition -/

/-- A round of growth leaves a part of the fragment, a smaller one if it adds something. -/
def Round (rest left : List Token) (found : Option α) : Prop :=
  Within rest left ∧ (found.isSome → left.length < rest.length)

theorem growFor {step other : α → Parser (Option α)} {bound : Nat}
    (steps : ∀ {rest} a, Fragment rest → rest.length ≤ bound →
      Twins beyond rest (step a) (other a) (Round rest))
    {rounds others : Nat} (fragment : Fragment rest) (short : rest.length ≤ bound)
    (enough : rest.length ≤ rounds) (enoughOthers : rest.length ≤ others) (a : α) :
    Twins beyond rest (Parser.growFor step rounds a) (Parser.growFor other others a)
      fun left _ => Within rest left := by
  have some_token := fragment.length_pos
  induction rounds generalizing rest others a with
  | zero => omega
  | succ rounds ih =>
    obtain ⟨fewer, rfl⟩ : ∃ fewer, others = fewer + 1 := ⟨others - 1, by omega⟩
    refine (steps a fragment short).bind fun left found round => ?_
    cases found with
    | none => exact pure round.1
    | some grown =>
      have shorter := round.2 rfl
      have some_left := round.1.fragment.length_pos
      refine (ih round.1.fragment (by omega) (by omega) (by omega) grown some_left).mono ?_
      exact fun _ _ within => round.1.trans within

theorem grow {step other : α → Parser (Option α)} {bound : Nat}
    (steps : ∀ {rest} a, Fragment rest → rest.length ≤ bound →
      Twins beyond rest (step a) (other a) (Round rest))
    (fragment : Fragment rest) (short : rest.length ≤ bound) (a : α) :
    Twins beyond rest (Parser.grow step a) (Parser.grow other a)
      fun left _ => Within rest left := by
  refine get fun state before => ?_
  have longer : state.rest.length ≤ (beyond.behind state).rest.length := by
    simp [Beyond.behind]
  exact growFor steps fragment short (before ▸ Nat.le_refl _) (before ▸ longer) a

theorem separatedFor {excess : SyntaxError.Cause} {element other : Parser α} {bound : Nat}
    (elements : TwinExprs beyond bound element other)
    {count rounds others : Nat} (fragment : Fragment rest) (short : rest.length ≤ bound)
    (enough : rest.length < rounds) (enoughOthers : rest.length < others) :
    Twins beyond rest (Parser.separatedFor excess element count rounds)
      (Parser.separatedFor excess other count others) fun left _ => Within rest left := by
  induction rounds generalizing rest count others with
  | zero => omega
  | succ rounds ih =>
    obtain ⟨fewer, rfl⟩ : ∃ fewer, others = fewer + 1 := ⟨others - 1, by omega⟩
    have read : Twins beyond rest
        (do
          let first ← element
          if ← Parser.accept .comma then
            return first :: (← Parser.separatedFor excess element (count + 1) rounds)
          else return [first])
        (do
          let first ← other
          if ← Parser.accept .comma then
            return first :: (← Parser.separatedFor excess other (count + 1) fewer)
          else return [first])
        fun left _ => Within rest left := by
      refine (elements fragment short).bind fun left first within => ?_
      have shorter := within.length_le
      refine accept within.fragment (by decide) (fun {tail} more fewer => ?_) (pure within)
      refine (ih more (by omega) (by omega) (by omega)).bind fun _ _ further => pure ?_
      exact ⟨further.fragment, by have := further.length_le; omega⟩
    obtain ⟨token, tail, rfl⟩ := List.exists_cons_of_length_pos fragment.length_pos
    unfold Parser.separatedFor
    split
    · exact peek (reportAt read)
    · exact read

theorem untilParen {excess : SyntaxError.Cause} {element other : Parser α} {bound : Nat}
    (elements : TwinExprs beyond bound element other)
    (fragment : Fragment rest) (short : rest.length ≤ bound) :
    Twins beyond rest (Parser.untilParen excess element) (Parser.untilParen excess other)
      fun left _ => Within rest left := by
  refine check fragment ?_
  split
  · exact pure fragment.within
  · refine get fun state before => ?_
    have longer : state.rest.length ≤ (beyond.behind state).rest.length := by
      simp [Beyond.behind]
    rw [before] at longer ⊢
    exact separatedFor elements fragment short (Nat.lt_succ_self _) (Nat.lt_succ_of_le longer)

end Twins

/-! ## Expressions -/

/-- Both rules read a fragment alike, with its semicolon. -/
def TwinStmts (beyond : Beyond) (bound : Nat) (parser other : Parser α) : Prop :=
  ∀ ⦃rest : List Token⦄, Fragment rest → rest.length ≤ bound →
    Twins beyond rest parser other fun left _ => left = []

/-- Both sets of rules suffice for fragments of at most `bound` tokens. Blocks are not read. -/
structure Rules.Twin (beyond : Beyond) (bound : Nat) (rules others : Rules) : Prop where
  expression : TwinExprs beyond bound rules.expression others.expression
  assignment : TwinExprs beyond bound rules.assignment others.assignment
  conditional : TwinExprs beyond bound rules.conditional others.conditional
  conjunction : TwinExprs beyond bound rules.conjunction others.conjunction
  equality : TwinExprs beyond bound rules.equality others.equality
  comparison : TwinExprs beyond bound rules.comparison others.comparison
  term : TwinExprs beyond bound rules.term others.term
  factor : TwinExprs beyond bound rules.factor others.factor
  unary : TwinExprs beyond bound rules.unary others.unary
  statement : TwinStmts beyond bound rules.statement others.statement

variable {bound : Nat}

theorem TwinExprs.discard {parser other : Parser α} (twins : TwinExprs beyond bound parser other) :
    TwinExprs beyond bound (Functor.discard parser) (Functor.discard other) :=
  fun _ fragment short => .map (twins fragment short)

theorem twins_leftGrouped {operand other : Parser Expr} (level : Level)
    (twins : TwinExprs beyond bound operand other) :
    TwinExprs beyond bound (leftGrouped level operand) (leftGrouped level other) := by
  intro rest fragment short
  refine (twins fragment short).bind fun left first within => ?_
  have smaller := within.length_le
  refine (Twins.grow (fun {rest} a fragment short => ?_) within.fragment
    (Nat.le_trans smaller short) first).mono fun _ _ further => within.trans further
  refine .accept? fragment (fun token ends => ?_) (fun join more shorter => ?_)
    (.pure ⟨fragment.within, nofun⟩)
  · cases level <;> simp [Level.join?, ends]
  · refine (twins more (by omega)).bind fun left right within => .pure ?_
    have smaller := within.length_le
    exact ⟨⟨within.fragment, by omega⟩, fun _ => by omega⟩

section

variable {rules others : Rules} (deeper : rules.Twin beyond bound others)

include deeper

omit deeper in
/-- A routine has a body in braces, so in a fragment it fails. -/
theorem twins_routine {role : Role} {opening : Expectation} (fragment : Fragment rest) :
    Twins beyond rest (routine rules role opening) (routine others role opening)
      fun _ _ => False := by
  have names : TwinExprs beyond rest.length (expect .identifier .parameterName)
      (expect .identifier .parameterName) :=
    fun _ fragment _ => .expect_within fragment (by decide)
  refine .expect fragment (by decide) fun _ inside shorter => ?_
  refine (Twins.untilParen names inside (Nat.le_of_lt shorter)).bind fun _ _ within => ?_
  exact .expect within.fragment (by decide) fun _ body _ => .expect_brace body

theorem twins_strandedOperand (operator : Token) :
    TwinExprs beyond bound (strandedOperand rules operator) (strandedOperand others operator) := by
  unfold strandedOperand
  intro rest fragment short
  split
  · exact deeper.assignment.discard fragment short
  · refine (deeper.expression.discard fragment short).bind fun left _ within => ?_
    have smaller := within.length_le
    refine .accept within.fragment (by decide) (fun inside shorter => ?_) (.pure within)
    refine (deeper.conditional.discard inside (by omega)).mono fun _ _ further => ?_
    exact ⟨further.fragment, by have := further.length_le; omega⟩
  · exact deeper.conjunction.discard fragment short
  · exact deeper.equality.discard fragment short
  · exact deeper.comparison.discard fragment short
  · exact deeper.comparison.discard fragment short
  · exact deeper.term.discard fragment short
  · exact deeper.term.discard fragment short
  · exact deeper.term.discard fragment short
  · exact deeper.term.discard fragment short
  · exact deeper.factor.discard fragment short
  · exact deeper.unary.discard fragment short

theorem twins_primary : TwinExprs beyond (bound + 1) (primary rules) (primary others) := by
  intro rest fragment short
  obtain ⟨token, tail, rfl⟩ := List.exists_cons_of_length_pos fragment.length_pos
  have fewer : tail.length ≤ bound := Nat.le_of_succ_le_succ short
  -- Behind any token but the semicolon, a part of the fragment is left.
  have within : token.kind ≠ .semicolon → Within (token :: tail) tail :=
    fun inside => ⟨fragment.tail_of_ne inside, Nat.le_succ _⟩
  refine .peek ?_
  split
  case h_1 isKind => exact .skip (.pure (within (by simp [isKind])))
  case h_2 isKind => exact .skip (.pure (within (by simp [isKind])))
  case h_3 isKind => exact .skip (.pure (within (by simp [isKind])))
  case h_4 isKind => exact .skip (.pure (within (by simp [isKind])))
  case h_5 isKind => exact .skip (.pure (within (by simp [isKind])))
  case h_6 isKind =>
    refine .skip (.expect (within (by simp [isKind])).fragment (by decide) fun _ more shorter => ?_)
    refine .expect more (by decide) fun _ last shortest => .pure ⟨last, ?_⟩
    simp only [List.length_cons]
    omega
  case h_7 isKind => exact .skip (.pure (within (by simp [isKind])))
  case h_8 isKind => exact .skip (.pure (within (by simp [isKind])))
  case h_9 isKind =>
    exact .skip ((twins_routine (within (by simp [isKind])).fragment).bind
      fun _ _ never => never.elim)
  case h_10 isKind =>
    refine .skip ((deeper.expression (within (by simp [isKind])).fragment fewer).bind
      fun left inner inside => ?_)
    have smaller := inside.length_le
    refine .expect inside.fragment (by decide) fun _ more shorter => .pure ⟨more, ?_⟩
    simp only [List.length_cons]
    omega
  case h_11 =>
    split
    · next needs =>
      have inside : token.kind ≠ .semicolon := by
        intro ends
        simp [ends, needsLeftOperand] at needs
      refine .skip (.reportAt ?_)
      refine (twins_strandedOperand deeper token (within inside).fragment fewer).bind
        fun left _ further => .pure ((within inside).trans further)
    · exact .failAt fragment

theorem twins_call : TwinExprs beyond (bound + 1) (call rules) (call others) := by
  intro rest fragment short
  refine (twins_primary deeper fragment short).bind fun left first within => ?_
  have smaller := within.length_le
  refine (Twins.grow (fun {rest} callee fragment short => ?_) within.fragment
    (Nat.le_trans smaller short) first).mono fun _ _ further => within.trans further
  refine .accept fragment (by decide) (fun opened shorter => ?_) ?_
  · refine (Twins.untilParen deeper.assignment opened (by omega)).bind fun _ _ given => ?_
    have fewer := given.length_le
    refine .expect given.fragment (by decide) fun _ closed shortest => .pure ?_
    exact ⟨⟨closed, by omega⟩, fun _ => by omega⟩
  · refine .accept fragment (by decide) (fun dotted shorter => ?_)
      (.pure ⟨fragment.within, nofun⟩)
    refine .expect dotted (by decide) fun _ named shortest => .pure ?_
    exact ⟨⟨named, by omega⟩, fun _ => by omega⟩

theorem twins_unary : TwinExprs beyond (bound + 1) (unary rules) (unary others) := by
  intro rest fragment short
  refine .accept? fragment (fun token ends => ?_) (fun apply signed shorter => ?_)
    (twins_call deeper fragment short)
  · simp [sign?, ends]
  · refine (deeper.unary signed (by omega)).bind fun left _ within => .pure ?_
    exact ⟨within.fragment, by have := within.length_le; omega⟩

theorem twins_factor : TwinExprs beyond (bound + 1) (factor rules) (factor others) :=
  twins_leftGrouped _ (twins_unary deeper)

theorem twins_term : TwinExprs beyond (bound + 1) (term rules) (term others) :=
  twins_leftGrouped _ (twins_factor deeper)

theorem twins_comparison : TwinExprs beyond (bound + 1) (comparison rules) (comparison others) :=
  twins_leftGrouped _ (twins_term deeper)

theorem twins_equality : TwinExprs beyond (bound + 1) (equality rules) (equality others) :=
  twins_leftGrouped _ (twins_comparison deeper)

theorem twins_conjunction : TwinExprs beyond (bound + 1) (conjunction rules) (conjunction others) :=
  twins_leftGrouped _ (twins_equality deeper)

theorem twins_disjunction : TwinExprs beyond (bound + 1) (disjunction rules) (disjunction others) :=
  twins_leftGrouped _ (twins_conjunction deeper)

theorem twins_conditional :
    TwinExprs beyond (bound + 1) (conditional rules) (conditional others) := by
  intro rest fragment short
  refine (twins_disjunction deeper fragment short).bind fun left _ within => ?_
  have smaller := within.length_le
  refine .accept within.fragment (by decide) (fun asked shorter => ?_) (.pure within)
  refine (deeper.expression asked (by omega)).bind fun left _ chosen => ?_
  have fewer := chosen.length_le
  refine .expect chosen.fragment (by decide) fun _ parted shortest => ?_
  refine (deeper.conditional parted (by omega)).bind fun left _ last => .pure ?_
  exact ⟨last.fragment, by have := last.length_le; omega⟩

theorem twins_assignment :
    TwinExprs beyond (bound + 1) (assignment rules) (assignment others) := by
  intro rest fragment short
  refine (twins_conditional deeper fragment short).bind fun left target within => ?_
  have smaller := within.length_le
  refine .accept? within.fragment (fun token ends => by simp [ends]) (fun equals more shorter => ?_)
    (.pure within)
  refine (deeper.assignment more (by omega)).bind fun left value assigned => ?_
  have inside : Within rest left :=
    ⟨assigned.fragment, by have := assigned.length_le; omega⟩
  split
  · exact .pure inside
  · exact .pure inside
  · exact .reportAt (.pure inside)

theorem twins_expression : TwinExprs beyond (bound + 1) (expression rules) (expression others) :=
  twins_leftGrouped _ (twins_assignment deeper)

/-! ## Statements -/

theorem twins_printStatement :
    TwinStmts beyond (bound + 1) (printStatement rules) (printStatement others) :=
  fun _ fragment short => (twins_expression deeper fragment short).bind fun _ _ within =>
    .expect_semicolon within.fragment fun _ => .pure rfl

theorem twins_expressionStatement :
    TwinStmts beyond (bound + 1) (expressionStatement rules) (expressionStatement others) :=
  fun _ fragment short => (twins_expression deeper fragment short).bind fun _ _ within =>
    .expect_semicolon within.fragment fun _ => .pure rfl

theorem twins_someExpression :
    TwinExprs beyond (bound + 1) (some <$> expression rules) (some <$> expression others) :=
  fun _ fragment short => .map (twins_expression deeper fragment short)

theorem twins_letDeclaration :
    TwinStmts beyond (bound + 1) (letDeclaration rules) (letDeclaration others) := by
  intro rest fragment short
  refine .expect fragment (by decide) fun name named shorter => ?_
  refine .accept named (by decide) (fun defines shortest => ?_) ?_
  · exact (twins_someExpression deeper defines (by omega)).bind fun _ _ within =>
      .expect_semicolon within.fragment fun _ => .pure rfl
  · exact .expect_semicolon named fun _ => .pure rfl

/-- Behind the semicolon stands no `else`, in either run. -/
theorem twins_ifStatement :
    TwinStmts beyond bound (ifStatement rules) (ifStatement others) := by
  intro rest fragment short
  refine .expect fragment (by decide) fun _ opened shorter => ?_
  refine (twins_expression deeper opened (by omega)).bind fun _ _ tested => ?_
  have fewer := tested.length_le
  refine .expect tested.fragment (by decide) fun _ closed shortest => ?_
  refine (deeper.statement closed (by omega)).bind fun left yes done => ?_
  subst done
  intro state before
  have alone : accept .kwElse state = .ok false state :=
    run_accept_none (by rw [before]; rfl)
  have behind : accept .kwElse (beyond.behind state) = .ok false (beyond.behind state) :=
    run_accept_none (by simpa [Beyond.behind, before] using beyond.parted)
  rw [run_bind_ok alone, run_bind_ok behind]
  exact ⟨rfl, before⟩

theorem twins_whileStatement :
    TwinStmts beyond bound (whileStatement rules) (whileStatement others) := by
  intro rest fragment short
  refine .expect fragment (by decide) fun _ opened shorter => ?_
  refine (twins_expression deeper opened (by omega)).bind fun _ _ tested => ?_
  have fewer := tested.length_le
  refine .expect tested.fragment (by decide) fun _ closed shortest => ?_
  refine (deeper.statement closed (by omega)).inLoop.bind fun left _ done => .pure done

theorem twins_returnStatement (keyword : Token) :
    TwinStmts beyond (bound + 1) (returnStatement rules keyword)
      (returnStatement others keyword) := by
  intro rest fragment short
  have value : Twins beyond rest
      (do
        let value ← if ← check .semicolon then pure none else some <$> expression rules
        let _ ← expect .semicolon .afterReturned
        return Stmt.giveBack keyword value)
      (do
        let value ← if ← check .semicolon then pure none else some <$> expression others
        let _ ← expect .semicolon .afterReturned
        return Stmt.giveBack keyword value)
      fun left _ => left = [] := by
    refine .check fragment ?_
    split
    · exact .expect_semicolon fragment fun _ => .pure rfl
    · exact (twins_someExpression deeper fragment short).bind fun _ _ within =>
        .expect_semicolon within.fragment fun _ => .pure rfl
  refine .get fun state before => ?_
  by_cases outside : state.functionDepth = 0
  · simp only [Beyond.behind, outside, if_true]
    exact .reportAt value
  · simp only [Beyond.behind, outside, if_false]
    exact value

omit deeper in
theorem twins_jumpStatement (keyword : Token) :
    TwinStmts beyond bound (jumpStatement keyword) (jumpStatement keyword) := by
  intro rest fragment short
  have jump : Twins beyond rest
      (do
        let _ ← expect .semicolon (.afterJump keyword.lexeme)
        return if keyword.kind = .kwBreak then Stmt.breakLoop keyword else .continueLoop keyword)
      (do
        let _ ← expect .semicolon (.afterJump keyword.lexeme)
        return if keyword.kind = .kwBreak then .breakLoop keyword else .continueLoop keyword)
      fun left _ => left = [] :=
    .expect_semicolon fragment fun _ => .pure rfl
  refine .get fun state before => ?_
  by_cases outside : state.loopDepth = 0
  · simp only [Beyond.behind, outside, if_true]
    exact .reportAt jump
  · simp only [Beyond.behind, outside, if_false]
    exact jump

theorem twins_statement : TwinStmts beyond (bound + 1) (statement rules) (statement others) := by
  intro rest fragment short
  obtain ⟨token, tail, rfl⟩ := List.exists_cons_of_length_pos fragment.length_pos
  have fewer : tail.length ≤ bound := Nat.le_of_succ_le_succ short
  refine .peek ?_
  split
  case h_1 isKind => exact absurd isKind (fragment.kind_ne (by decide) rfl)
  case h_2 isKind =>
    exact .skip (twins_ifStatement deeper (fragment.tail_of_ne (by simp [isKind])) fewer)
  case h_3 isKind =>
    exact .skip (twins_printStatement deeper (fragment.tail_of_ne (by simp [isKind])) (by omega))
  case h_4 isKind =>
    exact .skip
      (twins_returnStatement deeper token (fragment.tail_of_ne (by simp [isKind])) (by omega))
  case h_5 isKind =>
    exact .skip (twins_whileStatement deeper (fragment.tail_of_ne (by simp [isKind])) fewer)
  case h_6 isKind =>
    exact .skip (twins_jumpStatement token (fragment.tail_of_ne (by simp [isKind])) fewer)
  case h_7 isKind =>
    exact .skip (twins_jumpStatement token (fragment.tail_of_ne (by simp [isKind])) fewer)
  case h_8 isKind => exact absurd isKind (fragment.kind_ne (by decide) rfl)
  case h_9 => exact twins_expressionStatement deeper fragment short

/-! ## Declarations -/

omit deeper in
theorem twins_namedRoutine (role : Role) (fragment : Fragment rest) :
    Twins beyond rest (namedRoutine rules role) (namedRoutine others role) fun _ _ => False :=
  .expect fragment (by decide) fun _ named _ =>
    (twins_routine named).bind fun _ _ never => never.elim

omit deeper in
/-- A class has a body in braces, so in a fragment it fails. -/
theorem twins_classDeclaration {post : List Token → Stmt → Prop} (fragment : Fragment rest) :
    Twins beyond rest (classDeclaration rules) (classDeclaration others) post := by
  refine .expect fragment (by decide) fun name named _ => ?_
  refine .accept named (by decide) (fun {tail} extended _ => ?_) (.expect_brace named)
  have superclass : Twins beyond tail (some <$> expect .identifier .superclassName)
      (some <$> expect .identifier .superclassName) fun left _ => Within tail left :=
    .map (.expect_within extended (by decide))
  exact superclass.bind fun _ _ within => .expect_brace within.fragment

theorem twins_declared : TwinStmts beyond (bound + 1) (declared rules) (declared others) := by
  intro rest fragment short
  cases fragment with
  | @last semicolon ends =>
    -- What comes second is not the same in both runs, but is not looked at behind a semicolon.
    intro state before
    have alone : nextKinds state = .ok (.semicolon, .eof) state := by
      rw [run_nextKinds_cons before, ends]
      rfl
    have behind := run_nextKinds_cons (show (beyond.behind state).rest = semicolon :: beyond.tokens
      by rw [Beyond.behind, before]; rfl)
    rw [declared, declared, run_bind_ok alone, run_bind_ok behind, ends]
    exact twins_statement deeper (.last ends) short state before
  | @more token next tail stays calm inside =>
    have run : ∀ (more : List Token) (state : State), state.rest = token :: next :: tail ++ more →
        nextKinds state = .ok (token.kind, next.kind) state :=
      fun more state before => run_nextKinds_cons (before.trans (List.cons_append ..))
    refine .look run ?_
    split
    · exact .skip (twins_classDeclaration inside)
    · exact .skip ((twins_namedRoutine .function inside).bind fun _ _ never => never.elim)
    · exact .skip (twins_letDeclaration deeper inside (Nat.le_of_succ_le short))
    · exact twins_statement deeper (.more stays calm inside) short

/-- The declaration ends where the fragment does, also if it failed. -/
theorem twins_declaration :
    TwinStmts beyond (bound + 1) (declaration rules) (declaration others) := by
  intro rest fragment short state before
  have alike := twins_declared deeper fragment short state before
  unfold declaration
  cases result : declared rules state with
  | ok stmt after =>
    rw [result] at alike
    rw [alike.1]
    exact ⟨rfl, alike.2⟩
  | error error after =>
    rw [result] at alike
    obtain ⟨same, failed⟩ := alike
    have alone := failed.synchronize_append []
    rw [List.append_nil] at alone
    rw [same]
    refine ⟨?_, alone⟩
    simp only [Beyond.behind, failed.synchronize_append, alone, List.nil_append]

end

/-! ## Depth -/

/-- There is no fragment without tokens. -/
theorem Rules.Twin.zero (rules others : Rules) : rules.Twin beyond 0 others := by
  have never : ∀ {rest : List Token} {holds : Prop}, Fragment rest → rest.length ≤ 0 → holds := by
    intro rest holds fragment short
    exact absurd fragment.length_pos (Nat.not_lt_of_le short)
  constructor <;> exact fun _ => never

theorem Rules.Twin.above {rules others : Rules} (deeper : rules.Twin beyond bound others) :
    rules.above.Twin beyond (bound + 1) others.above where
  expression := twins_expression deeper
  assignment := twins_assignment deeper
  conditional := twins_conditional deeper
  conjunction := twins_conjunction deeper
  equality := twins_equality deeper
  comparison := twins_comparison deeper
  term := twins_term deeper
  factor := twins_factor deeper
  unary := twins_unary deeper
  statement := twins_statement deeper

/-- Each level of nesting takes a token, so any depth does that is no less than the length. -/
theorem twin_rules {depth other : Nat} (enough : bound ≤ depth) (enoughOther : bound ≤ other) :
    (rules depth).Twin beyond bound (rules other) := by
  induction bound generalizing depth other with
  | zero => exact .zero _ _
  | succ bound ih =>
    obtain ⟨below, rfl⟩ : ∃ below, depth = below + 1 := ⟨depth - 1, by omega⟩
    obtain ⟨otherBelow, rfl⟩ : ∃ below, other = below + 1 := ⟨other - 1, by omega⟩
    exact (ih (by omega) (by omega)).above

end Lox.Parser
