import Mathlib.Data.List.ReduceOption
import Lox.Program.Parse
import Lox.Proofs.Parser.Soundness

/-!
# Rules that are nested deep enough

To how many levels the rules may be nested makes no difference, if there are more levels than tokens
left. Nor does it matter which errors were found before: they stay in front of all others.

`Agrees early bound parser other` compares two runs before fewer than `bound` tokens. The second run
has the errors `early` in front of those of the first, and both end alike. A rule is called for only
behind a token already taken, so the bound for the rules called for is lower by one.
-/

namespace Lox.Parser

variable {α β : Type} {early : List SyntaxError} {bound : Nat}

/-! ## Two runs -/

/-- The same state, with errors found before its own. -/
def State.behind (early : List SyntaxError) (state : State) : State :=
  { state with errors := early ++ state.errors }

@[simp] theorem State.rest_behind (state : State) : (state.behind early).rest = state.rest := rfl

@[simp] theorem State.ending_behind (state : State) :
    (state.behind early).ending = state.ending := rfl

@[simp] theorem State.loopDepth_behind (state : State) :
    (state.behind early).loopDepth = state.loopDepth := rfl

@[simp] theorem State.functionDepth_behind (state : State) :
    (state.behind early).functionDepth = state.functionDepth := rfl

/-- Fewer than `bound` tokens are left, and then the end. -/
structure State.Short (bound : Nat) (state : State) : Prop where
  isEnd : state.ending.kind = .eof
  length_lt : state.rest.length < bound

theorem State.Short.mono {state : State} {wider : Nat} (short : state.Short bound)
    (within : bound ≤ wider) : state.Short wider :=
  ⟨short.isEnd, Nat.lt_of_lt_of_le short.length_lt within⟩

/-- Both runs ended alike, with fewer than `bound` tokens left. -/
def EndAlike (early : List SyntaxError) (bound : Nat)
    (result other : EStateM.Result SyntaxError State α) : Prop :=
  match result with
  | .ok a after => other = .ok a (after.behind early) ∧ after.Short bound
  | .error error after => other = .error error (after.behind early) ∧ after.Short bound

theorem EndAlike.mono {result other : EStateM.Result SyntaxError State α} {wider : Nat}
    (alike : EndAlike early bound result other) (within : bound ≤ wider) :
    EndAlike early wider result other := by
  cases result with
  | ok a after => exact ⟨alike.1, alike.2.mono within⟩
  | error error after => exact ⟨alike.1, alike.2.mono within⟩

/-- No tokens come back, so fewer than one more than before are left. -/
def Agrees (early : List SyntaxError) (bound : Nat) (parser other : Parser α) : Prop :=
  ∀ state : State, state.Short bound →
    EndAlike early (state.rest.length + 1) (parser state) (other (state.behind early))

/-- The same, only before `token`. -/
def AgreesAt (early : List SyntaxError) (bound : Nat) (token : Token) (parser other : Parser α) :
    Prop :=
  ∀ (state : State) (tail : List Token), state.Short bound → state.rest = token :: tail →
    EndAlike early (state.rest.length + 1) (parser state) (other (state.behind early))

namespace Agrees

variable {parser other : Parser α} {next after : α → Parser β}

theorem at_token (agrees : Agrees early bound parser other) (token : Token) :
    AgreesAt early bound token parser other :=
  fun state _ short _ => agrees state short

theorem mono {lower : Nat} (agrees : Agrees early bound parser other) (within : lower ≤ bound) :
    Agrees early lower parser other :=
  fun state short => agrees state (short.mono within)

theorem lower (agrees : Agrees early (bound + 1) parser other) :
    Agrees early bound parser other :=
  agrees.mono (Nat.le_succ bound)

theorem of_ok {a : State → α} {final : State → State}
    (runs : ∀ state, parser state = .ok (a state) (final state))
    (others : ∀ state, other (state.behind early) = .ok (a state) ((final state).behind early))
    (leaves : ∀ state : State, state.ending.kind = .eof →
      (final state).Short (state.rest.length + 1)) :
    Agrees early bound parser other := by
  intro state short
  rw [runs]
  exact ⟨others state, leaves state short.isEnd⟩

theorem pure (a : α) : Agrees early bound (Pure.pure a) (Pure.pure a) :=
  of_ok (fun _ => rfl) (fun _ => rfl) fun _ isEnd => ⟨isEnd, Nat.lt_succ_self _⟩

theorem bind (first : Agrees early bound parser other)
    (second : ∀ a, Agrees early bound (next a) (after a)) :
    Agrees early bound (parser >>= next) (other >>= after) := by
  intro state short
  have alike := first state short
  cases result : parser state with
  | ok a middle =>
    rw [result] at alike
    obtain ⟨same, left⟩ := alike
    rw [run_bind_ok result, run_bind_ok same]
    have fewer := left.length_lt
    have room := short.length_lt
    exact (second a middle (left.mono (by omega))).mono (by omega)
  | error error middle =>
    rw [result] at alike
    rw [run_bind_error result, run_bind_error alike.1]
    exact ⟨rfl, alike.2⟩

theorem map {f : α → β} (agrees : Agrees early bound parser other) :
    Agrees early bound (f <$> parser) (f <$> other) := by
  rw [map_eq_pure_bind, map_eq_pure_bind]
  exact agrees.bind fun _ => pure _

theorem discard (agrees : Agrees early bound parser other) :
    Agrees early bound (Functor.discard parser) (Functor.discard other) := by
  rw [discard_eq_bind, discard_eq_bind]
  exact agrees.bind fun _ => pure ()

theorem ite (condition : Prop) [Decidable condition] {yes no yes' no' : Parser α}
    (first : Agrees early bound yes yes') (second : Agrees early bound no no') :
    Agrees early bound (if condition then yes else no) (if condition then yes' else no') := by
  split
  · exact first
  · exact second

/-- A choice between two first steps. -/
theorem choose (condition : Prop) [Decidable condition] {yes no yes' no' : Parser α}
    (first : Agrees early bound yes yes') (second : Agrees early bound no no')
    (later : ∀ a, Agrees early bound (next a) (after a)) :
    Agrees early bound (if condition then yes >>= next else no >>= next)
      (if condition then yes' >>= after else no' >>= after) :=
  ite condition (first.bind later) (second.bind later)

/-! ### Single steps -/

/-- Steps that look at the state, but not at its errors. -/
theorem get {next after : State → Parser β}
    (second : ∀ state, Agrees early bound (next state) (after (state.behind early))) :
    Agrees early bound (MonadState.get >>= next) (MonadState.get >>= after) :=
  fun state short => second state state short

theorem peek : Agrees early bound Parser.peek Parser.peek :=
  of_ok (fun _ => rfl) (fun _ => rfl) fun _ isEnd => ⟨isEnd, Nat.lt_succ_self _⟩

theorem atEnd : Agrees early bound Parser.atEnd Parser.atEnd :=
  of_ok (fun _ => rfl) (fun _ => rfl) fun _ isEnd => ⟨isEnd, Nat.lt_succ_self _⟩

theorem check (kind : Token.Kind) :
    Agrees early bound (Parser.check kind) (Parser.check kind) :=
  peek.bind fun _ => pure _

theorem failAt (token : Token) (cause : SyntaxError.Cause) :
    Agrees early bound (Parser.failAt token cause : Parser α) (Parser.failAt token cause) :=
  fun _ short => ⟨rfl, short.isEnd, Nat.lt_succ_self _⟩

theorem fail (cause : SyntaxError.Cause) :
    Agrees early bound (Parser.fail cause : Parser α) (Parser.fail cause) :=
  peek.bind fun token => failAt token cause

theorem reportAt (token : Token) (cause : SyntaxError.Cause) :
    Agrees early bound (Parser.reportAt token cause) (Parser.reportAt token cause) := by
  intro state short
  refine ⟨?_, short.isEnd, Nat.lt_succ_self _⟩
  show EStateM.Result.ok () _ = _
  simp [State.behind]

/-- A token that is taken leaves room for one less. -/
theorem accept? {choose : Token → Option α} {next after : Option α → Parser β}
    (yes : ∀ a, Agrees early bound (next (some a)) (after (some a)))
    (no : Agrees early (bound + 1) (next none) (after none)) :
    Agrees early (bound + 1) (Parser.accept? choose >>= next)
      (Parser.accept? choose >>= after) := by
  intro state short
  cases before : state.rest with
  | nil =>
    have same : (state.behind early).rest = [] := before
    rw [run_bind_ok (run_accept?_nil before), run_bind_ok (run_accept?_nil same), ← before]
    exact no state short
  | cons token tail =>
    have same : (state.behind early).rest = token :: tail := before
    cases chosen : choose token with
    | none =>
      rw [run_bind_ok (run_accept?_none before chosen), run_bind_ok (run_accept?_none same chosen),
        ← before]
      exact no state short
    | some a =>
      rw [run_bind_ok (run_accept?_some before chosen), run_bind_ok (run_accept?_some same chosen)]
      have room := short.length_lt
      rw [before, List.length_cons] at room
      exact (yes a { state with rest := tail } ⟨short.isEnd, Nat.lt_of_succ_lt_succ room⟩).mono
        (Nat.le_succ _)

theorem accept {kind : Token.Kind} {next after : Bool → Parser β}
    (yes : Agrees early bound (next true) (after true))
    (no : Agrees early (bound + 1) (next false) (after false)) :
    Agrees early (bound + 1) (Parser.accept kind >>= next) (Parser.accept kind >>= after) := by
  simp only [Parser.accept, bind_assoc, pure_bind]
  exact accept? (fun _ => yes) no

theorem accept_alone (kind : Token.Kind) :
    Agrees early bound (Parser.accept kind) (Parser.accept kind) := by
  refine lower ?_
  rw [← bind_pure (Parser.accept kind)]
  exact accept (pure true) (pure false)

theorem expect {kind : Token.Kind} {what : Expectation} {next after : Token → Parser β}
    (second : ∀ token, Agrees early bound (next token) (after token)) :
    Agrees early (bound + 1) (Parser.expect kind what >>= next)
      (Parser.expect kind what >>= after) := by
  simp only [Parser.expect, bind_assoc]
  refine accept? (fun token => ?_) (fail (.expected what))
  simp only [pure_bind]
  exact second token

theorem expect_alone (kind : Token.Kind) (what : Expectation) :
    Agrees early bound (Parser.expect kind what) (Parser.expect kind what) := by
  refine lower ?_
  rw [← bind_pure (Parser.expect kind what)]
  exact expect pure

/-- The next token is looked at. At the end it is the end itself. -/
theorem peek_next {next after : Token → Parser β}
    (ends : ∀ token, token.kind = .eof → Agrees early bound (next token) (after token))
    (before : ∀ token, AgreesAt early bound token (next token) (after token)) :
    Agrees early bound (Parser.peek >>= next) (Parser.peek >>= after) := by
  intro state short
  rw [run_bind_ok (run_peek state), run_bind_ok (run_peek _)]
  cases known : state.rest with
  | nil =>
    have alike := ends state.ending short.isEnd state short
    rw [known] at alike
    simpa [known] using alike
  | cons token tail =>
    have alike := before token state tail short known
    rw [known] at alike
    simpa [known] using alike

theorem nextKinds {next after : Token.Kind × Token.Kind → Parser β}
    (ends : Agrees early bound (next (.eof, .eof)) (after (.eof, .eof)))
    (before : ∀ token second,
      AgreesAt early bound token (next (token.kind, second)) (after (token.kind, second))) :
    Agrees early bound (Parser.nextKinds >>= next) (Parser.nextKinds >>= after) := by
  intro state short
  cases known : state.rest with
  | nil =>
    have same : (state.behind early).rest = [] := known
    rw [run_bind_ok (run_nextKinds_nil known), run_bind_ok (run_nextKinds_nil same), ← known]
    exact ends state short
  | cons token tail =>
    have same : (state.behind early).rest = token :: tail := known
    rw [run_bind_ok (run_nextKinds_cons known), run_bind_ok (run_nextKinds_cons same), ← known]
    exact before token _ state tail short known

theorem inLoop {parser other : Parser α} (agrees : Agrees early bound parser other) :
    Agrees early bound (Parser.inLoop parser) (Parser.inLoop other) := by
  intro state short
  have alike := agrees { state with loopDepth := state.loopDepth + 1 }
    ⟨short.isEnd, short.length_lt⟩
  unfold Parser.inLoop
  simp only [State.behind] at alike ⊢
  cases result : parser { state with loopDepth := state.loopDepth + 1 } with
  | ok a after =>
    rw [result] at alike
    rw [alike.1]
    exact ⟨rfl, alike.2.isEnd, alike.2.length_lt⟩
  | error error after =>
    rw [result] at alike
    rw [alike.1]
    exact ⟨rfl, alike.2.isEnd, alike.2.length_lt⟩

theorem inFunction {parser other : Parser α} (agrees : Agrees early bound parser other) :
    Agrees early bound (Parser.inFunction parser) (Parser.inFunction other) := by
  intro state short
  have alike := agrees
    { state with loopDepth := 0, functionDepth := state.functionDepth + 1 }
    ⟨short.isEnd, short.length_lt⟩
  unfold Parser.inFunction
  simp only [State.behind] at alike ⊢
  cases result : parser
      { state with loopDepth := 0, functionDepth := state.functionDepth + 1 } with
  | ok a after =>
    rw [result] at alike
    rw [alike.1]
    exact ⟨rfl, alike.2.isEnd, alike.2.length_lt⟩
  | error error after =>
    rw [result] at alike
    rw [alike.1]
    exact ⟨rfl, alike.2.isEnd, alike.2.length_lt⟩

/-! ### Repetition -/

theorem growFor {step twin : α → Parser (Option α)}
    (steps : ∀ a, Agrees early bound (step a) (twin a)) (rounds : Nat) (a : α) :
    Agrees early bound (Parser.growFor step rounds a) (Parser.growFor twin rounds a) := by
  induction rounds generalizing a with
  | zero => exact pure a
  | succ rounds ih =>
    refine (steps a).bind fun grown => ?_
    cases grown with
    | none => exact pure a
    | some grown => exact ih grown

theorem grow {step twin : α → Parser (Option α)}
    (steps : ∀ a, Agrees early bound (step a) (twin a)) (a : α) :
    Agrees early bound (Parser.grow step a) (Parser.grow twin a) :=
  get fun _ => growFor steps _ a

theorem collectFor {item twin : Parser (Option α)} (agrees : Agrees early bound item twin)
    (rounds : Nat) :
    Agrees early bound (Parser.collectFor item rounds) (Parser.collectFor twin rounds) := by
  induction rounds with
  | zero => exact pure []
  | succ rounds ih =>
    refine agrees.bind fun found => ?_
    cases found with
    | none => exact pure []
    | some a => exact ih.bind fun _ => pure _

theorem collect {item twin : Parser (Option α)} (agrees : Agrees early bound item twin) :
    Agrees early bound (Parser.collect item) (Parser.collect twin) :=
  get fun _ => collectFor agrees _

/-- What is collected up to a closing brace. -/
theorem untilBrace {item twin : Parser α} (agrees : Agrees early bound item twin) :
    Agrees early bound (Parser.collect (Parser.untilBrace item))
      (Parser.collect (Parser.untilBrace twin)) := by
  refine collect ((check _).bind fun closes => atEnd.bind fun ends => ?_)
  split
  · exact pure none
  · exact agrees.bind fun _ => pure _

theorem separatedFor {excess : SyntaxError.Cause} {element twin : Parser α}
    (agrees : Agrees early bound element twin) (count rounds : Nat) :
    Agrees early bound (Parser.separatedFor excess element count rounds)
      (Parser.separatedFor excess twin count rounds) := by
  induction rounds generalizing count with
  | zero => exact pure []
  | succ rounds ih =>
    have read : Agrees early bound
        (do
          let first ← element
          if ← Parser.accept .comma then
            return first :: (← Parser.separatedFor excess element (count + 1) rounds)
          else return [first])
        (do
          let first ← twin
          if ← Parser.accept .comma then
            return first :: (← Parser.separatedFor excess twin (count + 1) rounds)
          else return [first]) := by
      refine agrees.bind fun first => lower (accept ?_ (pure _))
      exact (ih (count + 1)).bind fun _ => pure _
    unfold Parser.separatedFor
    split
    · exact peek.bind fun token => (reportAt token excess).bind fun _ => read
    · exact read

theorem untilParen {excess : SyntaxError.Cause} {element twin : Parser α}
    (agrees : Agrees early bound element twin) :
    Agrees early bound (Parser.untilParen excess element) (Parser.untilParen excess twin) := by
  refine (check _).bind fun closes => ?_
  split
  · exact pure []
  · exact get fun _ => separatedFor agrees _ _

end Agrees

namespace AgreesAt

theorem skip {next after : Unit → Parser β} {token : Token}
    (second : Agrees early bound (next ()) (after ())) :
    AgreesAt early (bound + 1) token (Parser.skip >>= next) (Parser.skip >>= after) := by
  intro state tail short before
  have room := short.length_lt
  rw [before, List.length_cons] at room
  rw [run_bind_ok (run_skip state), run_bind_ok (run_skip _)]
  have left : ({ state with rest := state.rest.tail } : State).Short bound :=
    ⟨short.isEnd, by simp only [before, List.tail_cons]; omega⟩
  exact (second _ left).mono (by simp [before])

end AgreesAt

/-! ## Expressions -/

/-- Both sets of rules read fewer than `bound` tokens alike. -/
structure Rules.Agree (early : List SyntaxError) (bound : Nat) (rules others : Rules) : Prop where
  expression : Agrees early bound rules.expression others.expression
  assignment : Agrees early bound rules.assignment others.assignment
  conditional : Agrees early bound rules.conditional others.conditional
  conjunction : Agrees early bound rules.conjunction others.conjunction
  equality : Agrees early bound rules.equality others.equality
  comparison : Agrees early bound rules.comparison others.comparison
  term : Agrees early bound rules.term others.term
  factor : Agrees early bound rules.factor others.factor
  unary : Agrees early bound rules.unary others.unary
  statement : Agrees early bound rules.statement others.statement
  declaration : Agrees early bound rules.declaration others.declaration

theorem agrees_leftGrouped {operand other : Parser Expr} (level : Level)
    (agrees : Agrees early bound operand other) :
    Agrees early bound (leftGrouped level operand) (leftGrouped level other) := by
  refine agrees.bind fun first => .grow (fun left => .lower (.accept? (fun join => ?_) ?_)) first
  · exact agrees.bind fun _ => .pure _
  · exact .pure none

section

variable {rules others : Rules} (agree : rules.Agree early bound others)

include agree

theorem agrees_block : Agrees early bound (block rules) (block others) := by
  refine (Agrees.untilBrace agree.declaration).bind fun items => ?_
  exact (Agrees.expect_alone _ _).bind fun _ => .pure _

theorem agrees_routine (role : Role) (opening : Expectation) :
    Agrees early bound (routine rules role opening) (routine others role opening) := by
  refine (Agrees.expect_alone _ _).bind fun _ => ?_
  refine (Agrees.untilParen (.expect_alone _ _)).bind fun params => ?_
  refine (Agrees.expect_alone _ _).bind fun _ => (Agrees.expect_alone _ _).bind fun _ => ?_
  exact (Agrees.inFunction (agrees_block agree)).bind fun _ => .pure _

theorem agrees_strandedOperand (operator : Token) :
    Agrees early bound (strandedOperand rules operator) (strandedOperand others operator) := by
  unfold strandedOperand
  split
  · exact agree.assignment.discard
  · refine agree.expression.discard.bind fun _ => .lower (.accept ?_ (.pure _))
    exact agree.conditional.discard
  · exact agree.conjunction.discard
  · exact agree.equality.discard
  · exact agree.comparison.discard
  · exact agree.comparison.discard
  · exact agree.term.discard
  · exact agree.term.discard
  · exact agree.term.discard
  · exact agree.term.discard
  · exact agree.factor.discard
  · exact agree.unary.discard

theorem agrees_primary : Agrees early (bound + 1) (primary rules) (primary others) := by
  refine .peek_next (fun token isEnd => ?_) fun token => ?_
  · simp only [isEnd, needsLeftOperand]
    exact .failAt token _
  · split
    · exact .skip (.pure _)
    · exact .skip (.pure _)
    · exact .skip (.pure _)
    · exact .skip (.pure _)
    · exact .skip (.pure _)
    · refine .skip ((Agrees.expect_alone _ _).bind fun _ => ?_)
      exact (Agrees.expect_alone _ _).bind fun _ => .pure _
    · exact .skip (.pure _)
    · exact .skip (.pure _)
    · exact .skip ((agrees_routine agree _ _).bind fun _ => .pure _)
    · refine .skip (agree.expression.bind fun inner => ?_)
      exact (Agrees.expect_alone _ _).bind fun _ => .pure _
    · split
      · refine .skip ((Agrees.reportAt _ _).bind fun _ => ?_)
        exact (agrees_strandedOperand agree token).bind fun _ => .pure _
      · exact (Agrees.failAt _ _).at_token token

theorem agrees_call : Agrees early (bound + 1) (call rules) (call others) := by
  refine (agrees_primary agree).bind fun callee => .grow (fun callee => .accept ?_ ?_) callee
  · refine (Agrees.untilParen agree.assignment).bind fun arguments => ?_
    exact (Agrees.expect_alone _ _).bind fun _ => .pure _
  · refine .accept ?_ (.pure _)
    exact (Agrees.expect_alone _ _).bind fun _ => .pure _

theorem agrees_unary : Agrees early (bound + 1) (unary rules) (unary others) :=
  .accept? (fun _ => agree.unary.bind fun _ => .pure _) (agrees_call agree)

theorem agrees_factor : Agrees early (bound + 1) (factor rules) (factor others) :=
  agrees_leftGrouped .factor (agrees_unary agree)

theorem agrees_term : Agrees early (bound + 1) (term rules) (term others) :=
  agrees_leftGrouped .term (agrees_factor agree)

theorem agrees_comparison : Agrees early (bound + 1) (comparison rules) (comparison others) :=
  agrees_leftGrouped .comparison (agrees_term agree)

theorem agrees_equality : Agrees early (bound + 1) (equality rules) (equality others) :=
  agrees_leftGrouped .equality (agrees_comparison agree)

theorem agrees_conjunction : Agrees early (bound + 1) (conjunction rules) (conjunction others) :=
  agrees_leftGrouped .and (agrees_equality agree)

theorem agrees_disjunction : Agrees early (bound + 1) (disjunction rules) (disjunction others) :=
  agrees_leftGrouped .or (agrees_conjunction agree)

theorem agrees_conditional : Agrees early (bound + 1) (conditional rules) (conditional others) := by
  refine (agrees_disjunction agree).bind fun condition => .accept ?_ (.pure _)
  refine agree.expression.bind fun yes => (Agrees.expect_alone _ _).bind fun _ => ?_
  exact agree.conditional.bind fun _ => .pure _

theorem agrees_assignment : Agrees early (bound + 1) (assignment rules) (assignment others) := by
  refine (agrees_conditional agree).bind fun target => .accept? (fun equals => ?_) (.pure _)
  refine agree.assignment.bind fun value => ?_
  cases target with
  | var name => exact .pure _
  | get object name => exact .pure _
  | _ => exact (Agrees.reportAt _ _).bind fun _ => .pure _

theorem agrees_expression : Agrees early (bound + 1) (expression rules) (expression others) :=
  agrees_leftGrouped .comma (agrees_assignment agree)

/-! ## Statements -/

theorem agrees_printStatement :
    Agrees early (bound + 1) (printStatement rules) (printStatement others) :=
  (agrees_expression agree).bind fun _ => (Agrees.expect_alone _ _).bind fun _ => .pure _

theorem agrees_expressionStatement :
    Agrees early (bound + 1) (expressionStatement rules) (expressionStatement others) :=
  (agrees_expression agree).bind fun _ => (Agrees.expect_alone _ _).bind fun _ => .pure _

theorem agrees_letDeclaration :
    Agrees early (bound + 1) (letDeclaration rules) (letDeclaration others) := by
  refine (Agrees.expect_alone _ _).bind fun name => (Agrees.accept_alone _).bind fun defines => ?_
  refine .choose _ (agrees_expression agree).map (.pure _) fun initializer => ?_
  exact (Agrees.expect_alone _ _).bind fun _ => .pure _

theorem agrees_forInitializer :
    Agrees early (bound + 1) (forInitializer rules) (forInitializer others) := by
  refine .accept (.pure _) (.accept ?_ ?_)
  · exact (agrees_letDeclaration agree).lower.bind fun _ => .pure _
  · exact (agrees_expressionStatement agree).bind fun _ => .pure _

theorem agrees_forStatement :
    Agrees early (bound + 1) (forStatement rules) (forStatement others) := by
  have expression := (agrees_expression agree).lower
  refine .expect fun _ => (agrees_forInitializer agree).lower.bind fun initializer => ?_
  refine (Agrees.check _).bind fun noCondition => ?_
  refine .choose _ (.pure _) expression fun condition => ?_
  refine (Agrees.expect_alone _ _).bind fun _ => (Agrees.check _).bind fun noIncrement => ?_
  refine .choose _ (.pure _) expression.map fun increment => ?_
  refine (Agrees.expect_alone _ _).bind fun _ => (Agrees.inLoop agree.statement).bind fun body => ?_
  cases initializer with
  | some first => exact .pure _
  | none => exact .pure _

theorem agrees_ifStatement : Agrees early (bound + 1) (ifStatement rules) (ifStatement others) := by
  refine .expect fun _ => (agrees_expression agree).lower.bind fun condition => ?_
  refine (Agrees.expect_alone _ _).bind fun _ => agree.statement.bind fun yes => ?_
  refine .lower (.accept ?_ (.pure _))
  exact agree.statement.map.bind fun _ => .pure _

theorem agrees_whileStatement :
    Agrees early (bound + 1) (whileStatement rules) (whileStatement others) := by
  refine .expect fun _ => (agrees_expression agree).lower.bind fun condition => ?_
  refine (Agrees.expect_alone _ _).bind fun _ => ?_
  exact (Agrees.inLoop agree.statement).bind fun _ => .pure _

theorem agrees_returnStatement (keyword : Token) :
    Agrees early (bound + 1) (returnStatement rules keyword) (returnStatement others keyword) := by
  have value : Agrees early (bound + 1)
      (do
        let value ← if ← check .semicolon then pure none else some <$> expression rules
        let _ ← expect .semicolon .afterReturned
        return Stmt.giveBack keyword value)
      (do
        let value ← if ← check .semicolon then pure none else some <$> expression others
        let _ ← expect .semicolon .afterReturned
        return Stmt.giveBack keyword value) := by
    refine (Agrees.check _).bind fun nothing => ?_
    refine .choose _ (.pure _) (agrees_expression agree).map fun value => ?_
    exact (Agrees.expect_alone _ _).bind fun _ => .pure _
  refine .get fun state => .ite _ ?_ value
  exact (Agrees.reportAt _ _).bind fun _ => value

omit agree in
theorem agrees_jumpStatement (keyword : Token) :
    Agrees early bound (jumpStatement keyword) (jumpStatement keyword) := by
  have ended : Agrees early bound
      (do
        let _ ← expect .semicolon (.afterJump keyword.lexeme)
        return if keyword.kind = .kwBreak then Stmt.breakLoop keyword else .continueLoop keyword)
      (do
        let _ ← expect .semicolon (.afterJump keyword.lexeme)
        return if keyword.kind = .kwBreak then Stmt.breakLoop keyword else .continueLoop keyword) :=
    (Agrees.expect_alone _ _).bind fun _ => .pure _
  refine .get fun state => .ite _ ?_ ended
  exact (Agrees.reportAt _ _).bind fun _ => ended

theorem agrees_statement : Agrees early (bound + 1) (statement rules) (statement others) := by
  refine .peek_next (fun token isEnd => ?_) fun token => ?_
  · simp only [isEnd]
    exact agrees_expressionStatement agree
  · split
    · exact .skip (agrees_forStatement agree).lower
    · exact .skip (agrees_ifStatement agree).lower
    · exact .skip (agrees_printStatement agree).lower
    · exact .skip (agrees_returnStatement agree token).lower
    · exact .skip (agrees_whileStatement agree).lower
    · exact .skip (agrees_jumpStatement token)
    · exact .skip (agrees_jumpStatement token)
    · exact .skip ((agrees_block agree).bind fun _ => .pure _)
    · exact (agrees_expressionStatement agree).at_token token

/-! ## Declarations -/

theorem agrees_namedRoutine (role : Role) :
    Agrees early bound (namedRoutine rules role) (namedRoutine others role) :=
  (Agrees.expect_alone _ _).bind fun _ => (agrees_routine agree _ _).bind fun _ => .pure _

theorem agrees_classDeclaration :
    Agrees early bound (classDeclaration rules) (classDeclaration others) := by
  refine (Agrees.expect_alone _ _).bind fun name => ?_
  refine (Agrees.accept_alone _).bind fun inherits => ?_
  refine .choose _ (Agrees.expect_alone _ _).map (.pure _) fun superclass => ?_
  refine (Agrees.expect_alone _ _).bind fun _ => ?_
  refine (Agrees.untilBrace (agrees_namedRoutine agree _)).bind fun methods => ?_
  exact (Agrees.expect_alone _ _).bind fun _ => .pure _

theorem agrees_declared : Agrees early (bound + 1) (declared rules) (declared others) := by
  refine .nextKinds ?_ fun token second => ?_
  · exact agrees_statement agree
  · split
    · exact .skip (agrees_classDeclaration agree)
    · exact .skip ((agrees_namedRoutine agree _).bind fun _ => .pure _)
    · exact .skip (agrees_letDeclaration agree).lower
    · exact (agrees_statement agree).at_token token

theorem agrees_declaration : Agrees early (bound + 1) (declaration rules) (declaration others) := by
  intro state short
  have alike := agrees_declared agree state short
  unfold declaration
  cases result : declared rules state with
  | ok stmt after =>
    rw [result] at alike
    rw [alike.1]
    exact ⟨by simp [State.behind], alike.2⟩
  | error error after =>
    rw [result] at alike
    rw [alike.1]
    obtain ⟨passed, whole, -⟩ := synchronize_suffix after.rest
    have size := congrArg List.length whole
    rw [List.length_append] at size
    have fewer := alike.2.length_lt
    exact ⟨by simp [State.behind], alike.2.isEnd, by simp only; omega⟩

end

/-! ## All levels -/

theorem Rules.Agree.above {rules others : Rules} (agree : rules.Agree early bound others) :
    rules.above.Agree early (bound + 1) others.above where
  expression := agrees_expression agree
  assignment := agrees_assignment agree
  conditional := agrees_conditional agree
  conjunction := agrees_conjunction agree
  equality := agrees_equality agree
  comparison := agrees_comparison agree
  term := agrees_term agree
  factor := agrees_factor agree
  unary := agrees_unary agree
  statement := agrees_statement agree
  declaration := agrees_declaration agree

/-- With at least as many levels as there may be tokens, all rules agree. -/
theorem rules_agree {depth other : Nat} (enough : bound ≤ depth) (enoughOther : bound ≤ other) :
    (rules depth).Agree early bound (rules other) := by
  induction bound generalizing depth other with
  | zero => constructor <;> exact fun _ short => absurd short.length_lt (Nat.not_lt_zero _)
  | succ bound ih =>
    obtain ⟨less, rfl⟩ : ∃ less, depth = less + 1 := ⟨depth - 1, by omega⟩
    obtain ⟨lessOther, rfl⟩ : ∃ less, other = less + 1 := ⟨other - 1, by omega⟩
    exact (ih (by omega) (by omega)).above

/-- Whatever the depth and whatever was found before, a declaration ends alike. -/
theorem declaration_behind {depth other : Nat} {state after : State} {found : Option Stmt}
    (run : declaration (rules depth) state = .ok found after) (isEnd : state.ending.kind = .eof)
    (enough : state.rest.length ≤ depth) (enoughOther : state.rest.length ≤ other) :
    declaration (rules other) (state.behind early) = .ok found (after.behind early) ∧
      after.ending.kind = .eof ∧ after.rest.length ≤ state.rest.length := by
  have agree : (rules depth).Agree early state.rest.length (rules other) :=
    rules_agree enough enoughOther
  have alike := agrees_declaration agree state ⟨isEnd, Nat.lt_succ_self _⟩
  rw [run] at alike
  obtain ⟨same, left⟩ := alike
  exact ⟨same, left.isEnd, Nat.le_of_lt_succ left.length_lt⟩

end Lox.Parser
