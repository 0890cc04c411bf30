import Mathlib.Data.List.ReduceOption
import Lox.Program.Parse
import Lox.Proofs.Control.Mirror
import Lox.Proofs.Program.Relocation

/-!
# Parsing relocated tokens

No parser looks at the place of a token. From relocated tokens it makes the relocated tree, or
finds the relocated errors: it mirrors itself.
-/

namespace Lox

variable {move : Relocation}

def SyntaxError.relocate (move : Relocation) (error : SyntaxError) : SyntaxError :=
  { error with token := error.token.relocate move }

namespace Parser

def State.relocate (move : Relocation) (state : State) : State :=
  { state with
    rest := state.rest.map (·.relocate move)
    ending := state.ending.relocate move
    errors := state.errors.map (·.relocate move) }

def mirror (move : Relocation) : Mirror SyntaxError State :=
  ⟨State.relocate move, SyntaxError.relocate move⟩

variable {α β : Type}

/-- From relocated tokens the parser gives what `f` makes of its result. -/
def Relocates (move : Relocation) (f : α → α) (parser : Parser α) : Prop :=
  Mirrors (mirror move) (Image f) parser parser

/-! ## Steps -/

theorem relocates_get : Relocates move (State.relocate move) get :=
  .of_ok (fun _ => rfl) (fun _ => rfl) fun _ => rfl

theorem relocates_peek : Relocates move (Token.relocate move) peek := by
  refine .of_ok (fun _ => rfl) (fun _ => rfl) fun state => ?_
  cases tokens : state.rest with
  | nil => simp [Image, State.relocate, mirror, tokens]
  | cons token rest => simp [Image, State.relocate, mirror, tokens]

theorem relocates_atEnd : Relocates move id atEnd := by
  refine .of_ok (fun _ => rfl) (fun _ => rfl) fun state => ?_
  simp [Image, State.relocate, mirror]

theorem relocates_check (kind : Token.Kind) : Relocates move id (check kind) :=
  relocates_peek.bind_image fun _ => .pure rfl

theorem relocates_nextKinds : Relocates move id nextKinds := by
  refine relocates_get.bind_image fun state => .pure ?_
  cases tokens : state.rest with
  | nil => simp [Image, State.relocate, tokens]
  | cons first rest => cases rest <;> simp [Image, State.relocate, tokens]

theorem relocates_skip : Relocates move id skip := by
  refine .of_ok (fun _ => rfl) (fun state => ?_) fun _ => rfl
  show EStateM.Result.ok () _ = _
  simp [State.relocate, mirror]

/-- A choice that does not depend on places is made alike. -/
theorem mirrors_accept? {choose : Token → Option α} {related : α → α → Prop}
    (alike : ∀ token, Option.Rel related (choose token) (choose (token.relocate move))) :
    Mirrors (mirror move) (Option.Rel related) (accept? choose) (accept? choose) := by
  refine relocates_get.bind_image fun state => ?_
  cases tokens : state.rest with
  | nil =>
    simp only [State.relocate, tokens, List.map_nil]
    exact .pure .none
  | cons token rest =>
    have same := alike token
    simp only [State.relocate, tokens, List.map_cons]
    generalize choose token = found, choose (token.relocate move) = other at same ⊢
    cases same with
    | some holds => exact relocates_skip.bind_image fun _ => .pure (.some holds)
    | none => exact .pure .none

theorem mirrors_acceptKind (kind : Token.Kind) :
    Mirrors (mirror move) (Option.Rel (Image (Token.relocate move)))
      (accept? fun token => if token.kind = kind then some token else none)
      (accept? fun token => if token.kind = kind then some token else none) := by
  refine mirrors_accept? fun token => ?_
  rw [Token.relocate_kind]
  split
  · exact .some rfl
  · exact .none

theorem relocates_accept (kind : Token.Kind) : Relocates move id (accept kind) := by
  refine (mirrors_acceptKind kind).bind fun found other alike => .pure ?_
  cases alike <;> rfl

theorem mirrors_failAt {related : α → β → Prop} (token : Token) (cause : SyntaxError.Cause) :
    Mirrors (mirror move) related (failAt token cause) (failAt (token.relocate move) cause) :=
  fun _ => rfl

theorem mirrors_fail {related : α → β → Prop} (cause : SyntaxError.Cause) :
    Mirrors (mirror move) related (fail cause) (fail cause) :=
  relocates_peek.bind_image fun token => mirrors_failAt token cause

theorem mirrors_reportAt (token : Token) (cause : SyntaxError.Cause) :
    Mirrors (mirror move) (Image id) (reportAt token cause)
      (reportAt (token.relocate move) cause) := by
  refine .of_ok (fun _ => rfl) (fun state => ?_) fun _ => rfl
  show EStateM.Result.ok () _ = _
  simp [State.relocate, mirror, SyntaxError.relocate]

theorem relocates_expect (kind : Token.Kind) (what : Expectation) :
    Relocates move (Token.relocate move) (expect kind what) := by
  refine (mirrors_acceptKind kind).bind fun found other alike => ?_
  cases alike with
  | some same => exact .pure same
  | none => exact mirrors_fail _

theorem inLoop_eq_wrap (parser : Parser α) :
    inLoop parser =
      wrap (fun state => { state with loopDepth := state.loopDepth + 1 })
        (fun _ after => { after with loopDepth := after.loopDepth - 1 }) parser := by
  funext state
  unfold inLoop wrap
  cases parser { state with loopDepth := state.loopDepth + 1 } <;> rfl

theorem inFunction_eq_wrap (parser : Parser α) :
    inFunction parser =
      wrap (fun state => { state with loopDepth := 0, functionDepth := state.functionDepth + 1 })
        (fun state after =>
          { after with
            loopDepth := state.loopDepth
            functionDepth := after.functionDepth - 1 }) parser := by
  funext state
  unfold inFunction wrap
  cases parser { state with loopDepth := 0, functionDepth := state.functionDepth + 1 } <;> rfl

theorem relocates_inLoop {f : α → α} {parser : Parser α} (relocates : Relocates move f parser) :
    Relocates move f (inLoop parser) := by
  rw [inLoop_eq_wrap]
  exact Mirrors.wrap relocates (fun _ => rfl) fun _ _ => rfl

theorem relocates_inFunction {f : α → α} {parser : Parser α}
    (relocates : Relocates move f parser) : Relocates move f (inFunction parser) := by
  rw [inFunction_eq_wrap]
  exact Mirrors.wrap relocates (fun _ => rfl) fun _ _ => rfl

/-! ## Repetition -/

theorem length_rest_relocate (state : State) :
    (state.relocate move).rest.length = state.rest.length :=
  List.length_map _

theorem mirrors_growFor {f : α → α} {step : α → Parser (Option α)}
    (steps : ∀ a, Mirrors (mirror move) (Image (Option.map f)) (step a) (step (f a)))
    (rounds : Nat) (a : α) :
    Mirrors (mirror move) (Image f) (growFor step rounds a) (growFor step rounds (f a)) := by
  induction rounds generalizing a with
  | zero => exact .pure rfl
  | succ rounds ih =>
    refine (steps a).bind_image fun grown => ?_
    cases grown with
    | none => exact .pure rfl
    | some grown => exact ih grown

theorem mirrors_grow {f : α → α} {step : α → Parser (Option α)}
    (steps : ∀ a, Mirrors (mirror move) (Image (Option.map f)) (step a) (step (f a))) (a : α) :
    Mirrors (mirror move) (Image f) (grow step a) (grow step (f a)) := by
  refine relocates_get.bind_image fun state => ?_
  rw [length_rest_relocate]
  exact mirrors_growFor steps _ a

theorem relocates_collectFor {f : α → α} {item : Parser (Option α)}
    (relocates : Relocates move (Option.map f) item) (rounds : Nat) :
    Relocates move (List.map f) (collectFor item rounds) := by
  induction rounds with
  | zero => exact .pure rfl
  | succ rounds ih =>
    refine relocates.bind_image fun found => ?_
    cases found with
    | none => exact .pure rfl
    | some a => exact ih.bind_image fun _ => .pure rfl

theorem relocates_collect {f : α → α} {item : Parser (Option α)}
    (relocates : Relocates move (Option.map f) item) :
    Relocates move (List.map f) (collect item) := by
  refine relocates_get.bind_image fun state => ?_
  rw [length_rest_relocate]
  exact relocates_collectFor relocates _

/-- What is collected up to a closing brace. -/
theorem relocates_collect_untilBrace {f : α → α} {item : Parser α}
    (relocates : Relocates move f item) :
    Relocates move (List.map f) (collect do
      if (← check .rightBrace) || (← atEnd) then return none
      return some (← item)) := by
  refine relocates_collect ?_
  refine (relocates_check _).bind_image fun closes => relocates_atEnd.bind_image fun ends => ?_
  simp only [id]
  split
  · exact .pure rfl
  · exact relocates.bind_image fun _ => .pure rfl

theorem relocates_separatedFor {f : α → α} {element : Parser α} (excess : SyntaxError.Cause)
    (relocates : Relocates move f element) (count rounds : Nat) :
    Relocates move (List.map f) (separatedFor excess element count rounds) := by
  induction rounds generalizing count with
  | zero => exact .pure rfl
  | succ rounds ih =>
    have rest : Mirrors (mirror move) (Image (List.map f))
        (do
          let first ← element
          if ← accept .comma then
            return first :: (← separatedFor excess element (count + 1) rounds)
          else return [first])
        (do
          let first ← element
          if ← accept .comma then
            return first :: (← separatedFor excess element (count + 1) rounds)
          else return [first]) := by
      refine relocates.bind_image fun first => (relocates_accept _).bind_image fun more => ?_
      cases more with
      | true => exact (ih (count + 1)).bind_image fun _ => .pure rfl
      | false => exact .pure rfl
    unfold separatedFor
    split
    · exact relocates_peek.bind_image fun token =>
        (mirrors_reportAt token excess).bind_image fun _ => rest
    · exact rest

theorem relocates_untilParen {f : α → α} {element : Parser α} (excess : SyntaxError.Cause)
    (relocates : Relocates move f element) :
    Relocates move (List.map f) (untilParen excess element) := by
  refine (relocates_check _).bind_image fun closes => ?_
  cases closes with
  | true => exact .pure rfl
  | false =>
    refine relocates_get.bind_image fun state => ?_
    rw [length_rest_relocate]
    exact relocates_separatedFor excess relocates _ _

/-! ## Expressions -/

/-- All rules do from relocated tokens what they do, relocated. -/
structure Rules.Relocate (move : Relocation) (rules : Rules) : Prop where
  expression : Relocates move (Expr.relocate move) rules.expression
  assignment : Relocates move (Expr.relocate move) rules.assignment
  conditional : Relocates move (Expr.relocate move) rules.conditional
  conjunction : Relocates move (Expr.relocate move) rules.conjunction
  equality : Relocates move (Expr.relocate move) rules.equality
  comparison : Relocates move (Expr.relocate move) rules.comparison
  term : Relocates move (Expr.relocate move) rules.term
  factor : Relocates move (Expr.relocate move) rules.factor
  unary : Relocates move (Expr.relocate move) rules.unary
  statement : Relocates move (Stmt.relocate move) rules.statement
  declaration : Relocates move (Option.map (Stmt.relocate move)) rules.declaration

/-- The node of a relocated operator is the relocated node. -/
theorem join?_relocate (level : Level) (operator : Token) :
    Option.Rel
      (fun join other : Expr → Expr → Expr => ∀ left right,
        other (left.relocate move) (right.relocate move) = (join left right).relocate move)
      (level.join? operator) (level.join? (operator.relocate move)) := by
  unfold Level.join?
  rw [Token.relocate_kind]
  split <;> first | exact .none | exact .some fun _ _ => rfl

theorem sign?_relocate (operator : Token) :
    Option.Rel
      (fun sign other : Expr → Expr => ∀ operand,
        other (operand.relocate move) = (sign operand).relocate move)
      (sign? operator) (sign? (operator.relocate move)) := by
  unfold sign?
  rw [Token.relocate_kind]
  split <;> first | exact .none | exact .some fun _ => rfl

theorem relocates_leftGrouped {operand : Parser Expr} (level : Level)
    (relocates : Relocates move (Expr.relocate move) operand) :
    Relocates move (Expr.relocate move) (leftGrouped level operand) := by
  refine relocates.bind_image fun first => mirrors_grow (fun left => ?_) first
  refine (mirrors_accept? (join?_relocate level)).bind fun join other alike => ?_
  cases alike with
  | none => exact .pure rfl
  | some joins =>
    refine relocates.bind_image fun right => .pure ?_
    exact congrArg some (joins left right)

section

variable {rules : Rules} (relocates : rules.Relocate move)

include relocates

theorem relocates_block : Relocates move (List.map (Stmt.relocate move)) (block rules) := by
  refine (relocates_collect_untilBrace relocates.declaration).bind_image fun items => ?_
  refine (relocates_expect _ _).bind_image fun _ => .pure ?_
  exact List.reduceOption_map

theorem relocates_routine (role : Role) (opening : Expectation) :
    Relocates move (Routine.relocate move) (routine rules role opening) := by
  have params : Relocates move (List.map (Token.relocate move))
      (untilParen .tooManyParameters (expect .identifier .parameterName)) :=
    relocates_untilParen _ (relocates_expect _ _)
  refine (relocates_expect _ _).bind_image fun _ => params.bind_image fun names => ?_
  refine (relocates_expect _ _).bind_image fun _ => (relocates_expect _ _).bind_image fun _ => ?_
  refine (relocates_inFunction (relocates_block relocates)).bind_image fun body => .pure ?_
  simp only [Image, Routine.relocate, Stmt.relocateAll_eq_map]

theorem relocates_strandedOperand (operator : Token) :
    Mirrors (mirror move) Eq (strandedOperand rules operator)
      (strandedOperand rules (operator.relocate move)) := by
  unfold strandedOperand
  rw [Token.relocate_kind]
  split
  · exact relocates.assignment.discard
  · refine relocates.expression.discard.bind fun _ _ _ => ?_
    refine (relocates_accept _).bind_image fun colon => ?_
    cases colon with
    | true => exact relocates.conditional.discard
    | false => exact .pure rfl
  · exact relocates.conjunction.discard
  · exact relocates.equality.discard
  · exact relocates.comparison.discard
  · exact relocates.comparison.discard
  · exact relocates.term.discard
  · exact relocates.term.discard
  · exact relocates.term.discard
  · exact relocates.term.discard
  · exact relocates.factor.discard
  · exact relocates.unary.discard

theorem relocates_primary : Relocates move (Expr.relocate move) (primary rules) := by
  refine relocates_peek.bind_image fun token => ?_
  simp only [Token.relocate_kind, Token.relocate_literal, Token.relocate_lexeme]
  split
  · exact relocates_skip.bind_image fun _ => .pure rfl
  · exact relocates_skip.bind_image fun _ => .pure rfl
  · exact relocates_skip.bind_image fun _ => .pure rfl
  · exact relocates_skip.bind_image fun _ => .pure rfl
  · exact relocates_skip.bind_image fun _ => .pure rfl
  · exact relocates_skip.bind_image fun _ => (relocates_expect _ _).bind_image fun _ =>
      (relocates_expect _ _).bind_image fun _ => .pure rfl
  · exact relocates_skip.bind_image fun _ => .pure rfl
  · exact relocates_skip.bind_image fun _ => .pure rfl
  · exact relocates_skip.bind_image fun _ =>
      (relocates_routine relocates _ _).bind_image fun _ => .pure rfl
  · exact relocates_skip.bind_image fun _ => relocates.expression.bind_image fun _ =>
      (relocates_expect _ _).bind_image fun _ => .pure rfl
  · split
    · exact relocates_skip.bind_image fun _ => (mirrors_reportAt token _).bind_image fun _ =>
        (relocates_strandedOperand relocates token).bind fun _ _ _ => .pure rfl
    · exact mirrors_failAt token _

theorem relocates_call : Relocates move (Expr.relocate move) (call rules) := by
  refine (relocates_primary relocates).bind_image fun first => mirrors_grow (fun callee => ?_) first
  refine (relocates_accept _).bind_image fun opens => ?_
  cases opens with
  | true =>
    refine (relocates_untilParen _ relocates.assignment).bind_image fun arguments => ?_
    refine (relocates_expect _ _).bind_image fun paren => .pure ?_
    simp only [Image, Option.map, Expr.relocate, Expr.relocateAll_eq_map]
  | false =>
    refine (relocates_accept _).bind_image fun dotted => ?_
    cases dotted with
    | true => exact (relocates_expect _ _).bind_image fun _ => .pure rfl
    | false => exact .pure rfl

theorem relocates_unary : Relocates move (Expr.relocate move) (unary rules) := by
  refine (mirrors_accept? sign?_relocate).bind fun sign other alike => ?_
  cases alike with
  | none => exact relocates_call relocates
  | some signs => exact relocates.unary.bind_image fun operand => .pure (signs operand)

theorem relocates_factor : Relocates move (Expr.relocate move) (factor rules) :=
  relocates_leftGrouped _ (relocates_unary relocates)

theorem relocates_term : Relocates move (Expr.relocate move) (term rules) :=
  relocates_leftGrouped _ (relocates_factor relocates)

theorem relocates_comparison : Relocates move (Expr.relocate move) (comparison rules) :=
  relocates_leftGrouped _ (relocates_term relocates)

theorem relocates_equality : Relocates move (Expr.relocate move) (equality rules) :=
  relocates_leftGrouped _ (relocates_comparison relocates)

theorem relocates_conjunction : Relocates move (Expr.relocate move) (conjunction rules) :=
  relocates_leftGrouped _ (relocates_equality relocates)

theorem relocates_disjunction : Relocates move (Expr.relocate move) (disjunction rules) :=
  relocates_leftGrouped _ (relocates_conjunction relocates)

theorem relocates_conditional : Relocates move (Expr.relocate move) (conditional rules) := by
  refine (relocates_disjunction relocates).bind_image fun condition => ?_
  refine (relocates_accept _).bind_image fun chooses => ?_
  cases chooses with
  | true =>
    exact relocates.expression.bind_image fun _ => (relocates_expect _ _).bind_image fun _ =>
      relocates.conditional.bind_image fun _ => .pure rfl
  | false => exact .pure rfl

theorem relocates_assignment : Relocates move (Expr.relocate move) (assignment rules) := by
  refine (relocates_conditional relocates).bind_image fun target => ?_
  refine (mirrors_acceptKind _).bind fun equals other alike => ?_
  cases alike with
  | none => exact .pure rfl
  | some same =>
    cases same
    refine relocates.assignment.bind_image fun value => ?_
    cases target with
    | var name => exact .pure rfl
    | get object name => exact .pure rfl
    | _ => exact (mirrors_reportAt _ _).bind_image fun _ => .pure rfl

theorem relocates_expression : Relocates move (Expr.relocate move) (expression rules) :=
  relocates_leftGrouped _ (relocates_assignment relocates)

/-! ## Statements -/

theorem relocates_printStatement : Relocates move (Stmt.relocate move) (printStatement rules) :=
  (relocates_expression relocates).bind_image fun _ =>
    (relocates_expect _ _).bind_image fun _ => .pure rfl

theorem relocates_expressionStatement :
    Relocates move (Stmt.relocate move) (expressionStatement rules) :=
  (relocates_expression relocates).bind_image fun _ =>
    (relocates_expect _ _).bind_image fun _ => .pure rfl

theorem relocates_someExpression :
    Relocates move (Expr.relocateOr move) (some <$> expression rules) :=
  (relocates_expression relocates).map fun _ _ image => congrArg some image

theorem relocates_letDeclaration : Relocates move (Stmt.relocate move) (letDeclaration rules) := by
  refine (relocates_expect _ _).bind_image fun name => ?_
  refine (relocates_accept _).bind_image fun defines => ?_
  cases defines with
  | true =>
    exact (relocates_someExpression relocates).bind_image fun _ =>
      (relocates_expect _ _).bind_image fun _ => .pure rfl
  | false => exact (relocates_expect _ _).bind_image fun _ => .pure rfl

theorem relocates_forInitializer :
    Relocates move (Option.map (Stmt.relocate move)) (forInitializer rules) := by
  refine (relocates_accept _).bind_image fun empty => ?_
  cases empty with
  | true => exact .pure rfl
  | false =>
    refine (relocates_accept _).bind_image fun defines => ?_
    cases defines with
    | true => exact (relocates_letDeclaration relocates).bind_image fun _ => .pure rfl
    | false => exact (relocates_expressionStatement relocates).bind_image fun _ => .pure rfl

theorem relocates_forStatement : Relocates move (Stmt.relocate move) (forStatement rules) := by
  -- What follows the initializer is the same whether there is one or not, up to how it finishes.
  have clauses : ∀ finish moved : Stmt → Parser Stmt,
      (∀ looped, Mirrors (mirror move) (Image (Stmt.relocate move)) (finish looped)
        (moved (looped.relocate move))) →
      Mirrors (mirror move) (Image (Stmt.relocate move))
        (do
          let condition ←
            if ← check .semicolon then pure (.literal (.bool true)) else expression rules
          let _ ← expect .semicolon .afterLoopCondition
          let increment ← if ← check .rightParen then pure none else some <$> expression rules
          let _ ← expect .rightParen .afterForClauses
          let body ← inLoop rules.statement
          finish (.loop condition body increment))
        (do
          let condition ←
            if ← check .semicolon then pure (.literal (.bool true)) else expression rules
          let _ ← expect .semicolon .afterLoopCondition
          let increment ← if ← check .rightParen then pure none else some <$> expression rules
          let _ ← expect .rightParen .afterForClauses
          let body ← inLoop rules.statement
          moved (.loop condition body increment)) := by
    intro finish moved finishes
    have body : ∀ (condition : Expr) (increment : Option Expr),
        Mirrors (mirror move) (Image (Stmt.relocate move))
          (do
            let _ ← expect .rightParen .afterForClauses
            let body ← inLoop rules.statement
            finish (.loop condition body increment))
          (do
            let _ ← expect .rightParen .afterForClauses
            let body ← inLoop rules.statement
            moved (.loop (condition.relocate move) body (Expr.relocateOr move increment))) := by
      intro condition increment
      refine (relocates_expect _ _).bind_image fun _ => ?_
      exact (relocates_inLoop relocates.statement).bind_image fun body => finishes _
    have rest : ∀ condition : Expr, Mirrors (mirror move) (Image (Stmt.relocate move))
        (do
          let _ ← expect .semicolon .afterLoopCondition
          let increment ← if ← check .rightParen then pure none else some <$> expression rules
          let _ ← expect .rightParen .afterForClauses
          let body ← inLoop rules.statement
          finish (.loop condition body increment))
        (do
          let _ ← expect .semicolon .afterLoopCondition
          let increment ← if ← check .rightParen then pure none else some <$> expression rules
          let _ ← expect .rightParen .afterForClauses
          let body ← inLoop rules.statement
          moved (.loop (condition.relocate move) body increment)) := by
      intro condition
      refine (relocates_expect _ _).bind_image fun _ => ?_
      refine (relocates_check _).bind_image fun noIncrement => ?_
      cases noIncrement with
      | true => exact body condition none
      | false => exact (relocates_someExpression relocates).bind_image (body condition)
    refine (relocates_check _).bind_image fun noCondition => ?_
    cases noCondition with
    | true => exact rest (.literal (.bool true))
    | false => exact (relocates_expression relocates).bind_image rest
  refine (relocates_expect _ _).bind_image fun _ => ?_
  refine (relocates_forInitializer relocates).bind_image fun first => ?_
  cases first with
  | some first =>
    exact clauses (fun looped => return .block [first, looped])
      (fun looped => return .block [first.relocate move, looped]) fun _ => .pure rfl
  | none => exact clauses pure pure fun _ => .pure rfl

theorem relocates_ifStatement : Relocates move (Stmt.relocate move) (ifStatement rules) := by
  have other : Relocates move (Stmt.relocateOr move) (some <$> rules.statement) :=
    relocates.statement.map fun _ _ image => congrArg some image
  refine (relocates_expect _ _).bind_image fun _ => ?_
  refine (relocates_expression relocates).bind_image fun condition => ?_
  refine (relocates_expect _ _).bind_image fun _ => relocates.statement.bind_image fun yes => ?_
  refine (relocates_accept _).bind_image fun more => ?_
  cases more with
  | true => exact other.bind_image fun _ => .pure rfl
  | false => exact .pure rfl

theorem relocates_whileStatement : Relocates move (Stmt.relocate move) (whileStatement rules) := by
  refine (relocates_expect _ _).bind_image fun _ => ?_
  refine (relocates_expression relocates).bind_image fun condition => ?_
  refine (relocates_expect _ _).bind_image fun _ => ?_
  exact (relocates_inLoop relocates.statement).bind_image fun _ => .pure rfl

omit relocates in
theorem functionDepth_relocate (state : State) :
    (state.relocate move).functionDepth = state.functionDepth := rfl

theorem mirrors_returnStatement (keyword : Token) :
    Mirrors (mirror move) (Image (Stmt.relocate move)) (returnStatement rules keyword)
      (returnStatement rules (keyword.relocate move)) := by
  have value : Mirrors (mirror move) (Image (Stmt.relocate move))
      (do
        let value ← if ← check .semicolon then pure none else some <$> expression rules
        let _ ← expect .semicolon .afterReturned
        return .giveBack keyword value)
      (do
        let value ← if ← check .semicolon then pure none else some <$> expression rules
        let _ ← expect .semicolon .afterReturned
        return .giveBack (keyword.relocate move) value) := by
    refine (relocates_check _).bind_image fun nothing => ?_
    cases nothing with
    | true => exact (relocates_expect _ _).bind_image fun _ => .pure rfl
    | false =>
      exact (relocates_someExpression relocates).bind_image fun _ =>
        (relocates_expect _ _).bind_image fun _ => .pure rfl
  refine relocates_get.bind_image fun state => ?_
  rw [functionDepth_relocate]
  split
  · exact (mirrors_reportAt keyword _).bind_image fun _ => value
  · exact value

omit relocates in
theorem loopDepth_relocate (state : State) :
    (state.relocate move).loopDepth = state.loopDepth := rfl

omit relocates in
theorem mirrors_jumpStatement (keyword : Token) :
    Mirrors (mirror move) (Image (Stmt.relocate move)) (jumpStatement keyword)
      (jumpStatement (keyword.relocate move)) := by
  have jump : Mirrors (mirror move) (Image (Stmt.relocate move))
      (do
        let _ ← expect .semicolon (.afterJump keyword.lexeme)
        return if keyword.kind = .kwBreak then .breakLoop keyword else .continueLoop keyword)
      (do
        let _ ← expect .semicolon (.afterJump keyword.lexeme)
        return if keyword.kind = .kwBreak then .breakLoop (keyword.relocate move)
          else .continueLoop (keyword.relocate move)) := by
    refine (relocates_expect _ _).bind_image fun _ => .pure ?_
    split <;> rfl
  refine relocates_get.bind_image fun state => ?_
  rw [loopDepth_relocate]
  by_cases outside : state.loopDepth = 0
  · rw [if_pos outside, if_pos outside]
    exact (mirrors_reportAt keyword _).bind_image fun _ => jump
  · rw [if_neg outside, if_neg outside]
    exact jump

theorem relocates_statement : Relocates move (Stmt.relocate move) (statement rules) := by
  refine relocates_peek.bind_image fun token => ?_
  simp only [Token.relocate_kind]
  split
  · exact relocates_skip.bind_image fun _ => relocates_forStatement relocates
  · exact relocates_skip.bind_image fun _ => relocates_ifStatement relocates
  · exact relocates_skip.bind_image fun _ => relocates_printStatement relocates
  · exact relocates_skip.bind_image fun _ => mirrors_returnStatement relocates token
  · exact relocates_skip.bind_image fun _ => relocates_whileStatement relocates
  · exact relocates_skip.bind_image fun _ => mirrors_jumpStatement token
  · exact relocates_skip.bind_image fun _ => mirrors_jumpStatement token
  · refine relocates_skip.bind_image fun _ => (relocates_block relocates).bind_image fun body => ?_
    exact .pure (by simp only [Image, Stmt.relocate, Stmt.relocateAll_eq_map])
  · exact relocates_expressionStatement relocates

/-! ## Declarations -/

theorem relocates_namedRoutine (role : Role) :
    Relocates move (fun named => (named.1.relocate move, named.2.relocate move))
      (namedRoutine rules role) :=
  (relocates_expect _ _).bind_image fun _ =>
    (relocates_routine relocates _ _).bind_image fun _ => .pure rfl

theorem relocates_classDeclaration :
    Relocates move (Stmt.relocate move) (classDeclaration rules) := by
  have superclass : Relocates move (Option.map (Token.relocate move))
      (some <$> expect .identifier .superclassName) :=
    (relocates_expect _ _).map fun _ _ image => congrArg some image
  have rest : ∀ (name : Token) (parent : Option Token),
      Mirrors (mirror move) (Image (Stmt.relocate move))
        (do
          let _ ← expect .leftBrace .beforeClassBody
          let methods ← collect do
            if (← check .rightBrace) || (← atEnd) then return none
            return some (← namedRoutine rules .method)
          let _ ← expect .rightBrace .afterClassBody
          return .classDecl name parent methods)
        (do
          let _ ← expect .leftBrace .beforeClassBody
          let methods ← collect do
            if (← check .rightBrace) || (← atEnd) then return none
            return some (← namedRoutine rules .method)
          let _ ← expect .rightBrace .afterClassBody
          return .classDecl (name.relocate move) (parent.map (Token.relocate move)) methods) := by
    intro name parent
    refine (relocates_expect _ _).bind_image fun _ => ?_
    have methods := relocates_collect_untilBrace (relocates_namedRoutine relocates .method)
    refine methods.bind_image fun methods => (relocates_expect _ _).bind_image fun _ => .pure ?_
    simp only [Image, Stmt.relocate, Routine.relocateMethods_eq_map]
  refine (relocates_expect _ _).bind_image fun name => ?_
  refine (relocates_accept _).bind_image fun inherits => ?_
  cases inherits with
  | true => exact superclass.bind_image (rest name)
  | false => exact rest name none

theorem relocates_declared : Relocates move (Stmt.relocate move) (declared rules) := by
  refine relocates_nextKinds.bind_image fun kinds => ?_
  simp only [id]
  split
  · exact relocates_skip.bind_image fun _ => relocates_classDeclaration relocates
  · exact relocates_skip.bind_image fun _ =>
      (relocates_namedRoutine relocates .function).bind_image fun _ => .pure rfl
  · exact relocates_skip.bind_image fun _ => relocates_letDeclaration relocates
  · exact relocates_statement relocates

omit relocates in
theorem skipTo_relocate (last : Token) (tokens : List Token) :
    skipTo (last.relocate move) (tokens.map (·.relocate move)) =
      (skipTo last tokens).map (·.relocate move) := by
  induction tokens generalizing last with
  | nil => rfl
  | cons token rest ih =>
    rw [List.map_cons, skipTo, skipTo, ih, apply_ite (List.map _)]
    rfl

omit relocates in
theorem synchronize_relocate (tokens : List Token) :
    synchronize (tokens.map (·.relocate move)) = (synchronize tokens).map (·.relocate move) := by
  cases tokens with
  | nil => rfl
  | cons token rest => exact skipTo_relocate token rest

theorem relocates_declaration :
    Relocates move (Option.map (Stmt.relocate move)) (declaration rules) := by
  intro state
  have ends := (relocates_declared relocates).eq_of_image state
  unfold declaration
  cases result : declared rules state with
  | ok stmt after =>
    rw [result] at ends
    refine ⟨_, rfl, ?_⟩
    rw [ends]
    simp [mirror, State.relocate, apply_ite (Option.map _)]
  | error error after =>
    rw [result] at ends
    refine ⟨_, rfl, ?_⟩
    rw [ends]
    simp [mirror, State.relocate, synchronize_relocate]

end

/-! ## Programs -/

theorem relocate_exhausted : Rules.exhausted.Relocate move where
  expression := mirrors_fail _
  assignment := mirrors_fail _
  conditional := mirrors_fail _
  conjunction := mirrors_fail _
  equality := mirrors_fail _
  comparison := mirrors_fail _
  term := mirrors_fail _
  factor := mirrors_fail _
  unary := mirrors_fail _
  statement := mirrors_fail _
  declaration := mirrors_fail _

theorem Rules.Relocate.above {rules : Rules} (relocates : rules.Relocate move) :
    rules.above.Relocate move where
  expression := relocates_expression relocates
  assignment := relocates_assignment relocates
  conditional := relocates_conditional relocates
  conjunction := relocates_conjunction relocates
  equality := relocates_equality relocates
  comparison := relocates_comparison relocates
  term := relocates_term relocates
  factor := relocates_factor relocates
  unary := relocates_unary relocates
  statement := relocates_statement relocates
  declaration := relocates_declaration relocates

theorem relocate_rules (depth : Nat) : (rules depth).Relocate move := by
  induction depth with
  | zero => exact relocate_exhausted
  | succ depth ih => exact ih.above

theorem relocates_program (depth : Nat) :
    Relocates move (List.map (Stmt.relocate move)) (program (rules depth)) := by
  have statements : Relocates move (List.map (Option.map (Stmt.relocate move)))
      (collect do
        if ← atEnd then return none
        return some (← declaration (rules depth))) := by
    refine relocates_collect (relocates_atEnd.bind_image fun ends => ?_)
    cases ends with
    | true => exact .pure rfl
    | false => exact (relocates_declaration (relocate_rules depth)).bind_image fun _ => .pure rfl
  exact statements.bind_image fun _ => .pure List.reduceOption_map

/-- The first token that marks the end, relocated. -/
theorem endingOf_relocate {tokens : List Token} (ends : ∃ token ∈ tokens, token.kind = .eof) :
    endingOf (tokens.map (·.relocate move)) = (endingOf tokens).relocate move := by
  obtain ⟨ending, found⟩ : ∃ ending, tokens.find? (·.kind = .eof) = some ending := by
    rw [← Option.isSome_iff_exists, List.find?_isSome]
    simpa using ends
  have other : (tokens.map (·.relocate move)).find? (·.kind = .eof) =
      some (ending.relocate move) := by
    rw [List.find?_map]
    exact congrArg (Option.map _) found
  simp only [endingOf, found, other]

theorem State.start_relocate {tokens : List Token} (ends : ∃ token ∈ tokens, token.kind = .eof) :
    State.start (tokens.map (·.relocate move)) = (State.start tokens).relocate move := by
  unfold State.start State.relocate
  rw [endingOf_relocate ends, List.takeWhile_map]
  rfl

end Parser

/-- The relocated statements and the relocated errors. -/
def Program.relocate (move : Relocation) (program : Program) : Program :=
  ⟨program.statements.map (·.relocate move), program.errors.map (·.relocate move)⟩

/-- A list of tokens with an end reads, relocated, as the relocated program. -/
theorem Program.parse_relocate {tokens : List Token}
    (ends : ∃ token ∈ tokens, token.kind = .eof) :
    Program.parse (tokens.map (·.relocate move)) = (Program.parse tokens).relocate move := by
  have relocates : Parser.Relocates move _ _ :=
    Parser.relocates_program (Parser.State.start tokens).rest.length
  have reads := relocates.eq_of_image (Parser.State.start tokens)
  simp only [Parser.mirror] at reads
  simp only [Program.parse, Parser.State.start_relocate ends, Parser.length_rest_relocate, reads]
  cases Parser.program (Parser.rules (Parser.State.start tokens).rest.length)
      (Parser.State.start tokens) with
  | ok statements after => rfl
  | error error after => simp [Program.relocate, Parser.State.relocate]

end Lox
