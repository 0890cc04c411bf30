import Lox.Proofs.Program.Sequence

/-!
# Operators without a left operand

An operator that needs a left operand and stands where an expression begins is reported. What would
have been its right operand is read and dropped, by the rule of the level at which the grammar has
that operand; so the statement lines up again behind it, and the error is the only one.
-/

namespace Lox.Parser

open Lox.Grammar
open Lox.Token (Kind)

variable {α β : Type} {place : Place} {tokens more rest : List Token} {errors : List SyntaxError}

/-! ## Parsers that report -/

/-- Before `tokens` and then `rest`, `parser` takes the tokens, reports the errors, gives `a` and
changes nothing else. -/
def Reports {α : Type} (place : Place) (parser : Parser α) (tokens rest : List Token)
    (errors : List SyntaxError) (a : α) : Prop :=
  ∀ state, state.ending.kind = .eof → state.place = place → state.rest = tokens ++ rest →
    parser state = .ok a { state with rest, errors := state.errors ++ errors }

namespace Reports

/-- A step that takes one token. -/
theorem take {parser : Parser α} {next : α → Parser β} {a : α} {b : β} {token : Token}
    (run : ∀ state : State, state.rest = token :: (tokens ++ rest) →
      parser state = .ok a { state with rest := tokens ++ rest })
    (second : Reports place (next a) tokens rest errors b) :
    Reports place (parser >>= next) (token :: tokens) rest errors b := by
  intro state isEnd samePlace before
  rw [run_bind_ok (run state before)]
  exact second _ isEnd samePlace rfl

/-- A step that only looks. -/
theorem look {parser : Parser α} {next : α → Parser β} {a : α} {b : β}
    (run : ∀ state : State, state.rest = tokens ++ rest → parser state = .ok a state)
    (second : Reports place (next a) tokens rest errors b) :
    Reports place (parser >>= next) tokens rest errors b := by
  intro state isEnd samePlace before
  rw [run_bind_ok (run state before)]
  exact second state isEnd samePlace before

theorem peek {next : Token → Parser β} {token : Token} {b : β}
    (second : Reports place (next token) (token :: tokens) rest errors b) :
    Reports place (Parser.peek >>= next) (token :: tokens) rest errors b :=
  look (fun state before => by rw [run_peek, before]; rfl) second

theorem skip {next : Unit → Parser β} {token : Token} {b : β}
    (second : Reports place (next ()) tokens rest errors b) :
    Reports place (Parser.skip >>= next) (token :: tokens) rest errors b :=
  take (fun state before => by rw [run_skip, before]; rfl) second

theorem reportAt {next : Unit → Parser β} {token : Token} {cause : SyntaxError.Cause} {b : β}
    (second : Accepts place (next ()) tokens rest b) :
    Reports place (Parser.reportAt token cause >>= next) tokens rest [⟨cause, token⟩] b := by
  intro state isEnd samePlace before
  rw [run_bind_ok (show Parser.reportAt token cause state = .ok () _ from rfl)]
  exact second _ isEnd samePlace before

/-- What comes behind the errors adds none. -/
theorem bind {parser : Parser α} {next : α → Parser β} {a : α} {b : β}
    (first : Reports place parser tokens (more ++ rest) errors a)
    (second : Accepts place (next a) more rest b) :
    Reports place (parser >>= next) (tokens ++ more) rest errors b := by
  intro state isEnd samePlace before
  rw [run_bind_ok (first state isEnd samePlace (by rw [before, List.append_assoc]))]
  exact second _ isEnd samePlace rfl

theorem bind_nil {parser : Parser α} {next : α → Parser β} {a : α} {b : β}
    (first : Reports place parser tokens rest errors a)
    (second : Accepts place (next a) [] rest b) :
    Reports place (parser >>= next) tokens rest errors b := by
  rw [← List.append_nil tokens]
  exact bind first second

theorem map {parser : Parser α} {f : α → β} {a : α}
    (reports : Reports place parser tokens rest errors a) :
    Reports place (f <$> parser) tokens rest errors (f a) := by
  rw [map_eq_pure_bind]
  exact bind_nil reports (.pure (f a))

/-- A statement with an error in it is dropped. -/
theorem declaration {rules : Rules} {stmt : Stmt} {error : SyntaxError}
    (reports : Reports place (declared rules) tokens rest [error] stmt) :
    Reports place (declaration rules) tokens rest [error] none := by
  intro state isEnd samePlace before
  unfold Parser.declaration
  rw [reports state isEnd samePlace before]
  simp

end Reports

theorem Accepts.discard {parser : Parser α} {a : α} (accepts : Accepts place parser tokens rest a) :
    Accepts place (Functor.discard parser) tokens rest () :=
  .map accepts

/-- Nothing is grown where no round adds anything. -/
theorem Accepts.grow_stop {step : α → Parser (Option α)} {a : α}
    (stops : Accepts place (step a) [] rest none) : Accepts place (grow step a) [] rest a := by
  rw [← pure_bind a (grow step)]
  exact (Grows.start (.pure a)).stop stops

/-- What ends an expression ends its parts. -/
theorem Stops.of_comma (stops : Stops .comma rest) (tier : Tier) : Stops tier rest :=
  fun token head other goesOn => absurd (stops token head other goesOn) (Nat.not_lt_zero _)

/-! ## The right operand -/

/-- The tokens that the grammar has to the right of an operator that needs a left operand. -/
inductive RightOperand (operator : Token) : List Token → Prop
  | joined {tier next : Tier} {node : Token → Expr → Expr → Expr} {tokens : List Token}
      {expr : Expr} (joins : Joins tier operator.kind node) (unsigned : operator.kind ≠ .minus)
      (below : tier.next? = some next) (derives : Derives (.expr next) tokens expr) :
      RightOperand operator tokens
  | branches {yeses noes : List Token} {colon : Token} {yes no : Expr}
      (isQuestion : operator.kind = .question) (chosen : Derives (.expr .comma) yeses yes)
      (isColon : colon.kind = .colon) (other : Derives (.expr .conditional) noes no) :
      RightOperand operator (yeses ++ colon :: noes)

variable {operator : Token}

namespace RightOperand

theorem needsLeftOperand (operand : RightOperand operator tokens) :
    needsLeftOperand operator.kind = true := by
  cases operand with
  | joined joins unsigned =>
    generalize operator.kind = kind at joins unsigned
    cases joins <;> first | rfl | exact absurd rfl unsigned
  | branches isQuestion => rw [isQuestion]; rfl

theorem proper (operand : RightOperand operator tokens) : Proper (operator :: tokens) := by
  have isOperator : operator.kind ≠ .eof := by
    intro isEnd
    have needs := operand.needsLeftOperand
    rw [isEnd] at needs
    cases needs
  cases operand with
  | joined _ _ _ derives => exact proper_cons.mpr ⟨isOperator, derives.proper⟩
  | branches _ chosen isColon other =>
    simp [isOperator, chosen.proper, isColon, other.proper]

/-- The right operand is read by the rule that is called for. -/
theorem accepts (operand : RightOperand operator tokens) {depth : Nat}
    (short : tokens.length ≤ depth) (stops : Stops .comma rest) :
    Accepts place (strandedOperand (rules (depth + 1)) operator) tokens rest () := by
  cases operand with
  | @joined tier next _ _ _ joins unsigned below derives =>
    have read : Accepts place (tierParser (rules depth) next) tokens rest _ :=
      derives.read.accepts short (stops.of_comma next)
    unfold strandedOperand
    generalize operator.kind = kind at joins unsigned
    cases joins <;> cases below <;> first | exact read.discard | exact absurd rfl unsigned
  | @branches yeses noes colon _ _ isQuestion chosen isColon other =>
    simp only [List.length_append, List.length_cons] at short
    unfold strandedOperand
    simp only [isQuestion]
    have yes : Accepts place (expression (rules depth)) yeses (colon :: noes ++ rest) _ :=
      chosen.read.accepts (by omega) (stops_of_kind isColon (by decide) _)
    have no : Accepts place (conditional (rules depth)) noes rest _ :=
      other.read.accepts (by omega) (stops.of_comma _)
    exact .bind yes.discard (.accept isColon no.discard)

end RightOperand

/-! ## Climbing with nothing on the left -/

/-- What is reported of an operator. -/
def strandedError (operator : Token) : SyntaxError :=
  ⟨.missingLeftOperand operator.lexeme, operator⟩

theorem reports_primary (operand : RightOperand operator tokens) {depth : Nat}
    (short : (operator :: tokens).length ≤ depth) (stops : Stops .comma rest) :
    Reports place (primary (rules depth)) (operator :: tokens) rest [strandedError operator]
      (.literal .nil) := by
  cases depth with
  | zero => simp at short
  | succ depth =>
    have right : Accepts place (strandedOperand (rules (depth + 1)) operator) tokens rest () :=
      operand.accepts (Nat.le_of_succ_le_succ short) stops
    have needs := operand.needsLeftOperand
    have stranded : Reports place
        (do
          skip
          reportAt operator (.missingLeftOperand operator.lexeme)
          strandedOperand (rules (depth + 1)) operator
          return Expr.literal .nil)
        (operator :: tokens) rest [strandedError operator] (.literal .nil) :=
      .skip (.reportAt (.bind_nil right (.pure _)))
    refine .peek ?_
    split <;> first
      | rwa [if_pos needs]
      | next isKind => simp [isKind, needsLeftOperand] at needs

/-- From each level to the one around it: nothing goes on with the placeholder. -/
theorem reports_looser {depth : Nat} {tier next : Tier} (below : tier.next? = some next)
    (needs : needsLeftOperand operator.kind = true) (stops : Stops .comma rest)
    (reports : Reports place (tierParser (rules depth) next) (operator :: tokens) rest errors
      (.literal .nil)) :
    Reports place (tierParser (rules depth) tier) (operator :: tokens) rest errors
      (.literal .nil) := by
  have left_grouped : ∀ level : Level, level.tier = tier →
      Reports place (tierParser (rules depth) tier) (operator :: tokens) rest errors
        (.literal .nil) := by
    rintro level rfl
    rw [tierParser_level below]
    exact reports.bind_nil (.grow_stop (leftStep_stops (stops.of_comma _)))
  cases tier with
  | comma => exact left_grouped .comma rfl
  | or => exact left_grouped .or rfl
  | and => exact left_grouped .and rfl
  | equality => exact left_grouped .equality rfl
  | comparison => exact left_grouped .comparison rfl
  | term => exact left_grouped .term rfl
  | factor => exact left_grouped .factor rfl
  | assignment =>
    cases below
    refine reports.bind_nil (.accept?_none (fun token head => ?_) (.pure _))
    exact if_neg ((stops.of_comma .assignment).head_ne (by decide) token head)
  | conditional =>
    cases below
    exact reports.bind_nil
      (.accept_not ((stops.of_comma .conditional).headIs (by decide)) (.pure _))
  | unary =>
    cases below
    have unsigned : sign? operator = none := by
      unfold sign?
      split
      · next isBang => rw [isBang] at needs; cases needs
      · next isMinus => rw [isMinus] at needs; cases needs
      · rfl
    exact .look (fun state before => run_accept?_none before unsigned) reports
  | call =>
    cases below
    exact reports.bind_nil (.grow_stop (callStep_stops (stops.of_comma _)))
  | primary => cases below

theorem reports_expression (operand : RightOperand operator tokens) {depth : Nat}
    (short : (operator :: tokens).length ≤ depth) (stops : Stops .comma rest) :
    Reports place (expression (rules depth)) (operator :: tokens) rest [strandedError operator]
      (.literal .nil) := by
  have loosen : ∀ (tier : Tier) {next : Tier}, tier.next? = some next →
      Reports place (tierParser (rules depth) next) (operator :: tokens) rest
        [strandedError operator] (.literal .nil) →
      Reports place (tierParser (rules depth) tier) (operator :: tokens) rest
        [strandedError operator] (.literal .nil) :=
    fun _ _ below => reports_looser below operand.needsLeftOperand stops
  have call := loosen .call rfl (reports_primary operand short stops)
  have unary := loosen .unary rfl call
  have factor := loosen .factor rfl unary
  have term := loosen .term rfl factor
  have comparison := loosen .comparison rfl term
  have equality := loosen .equality rfl comparison
  have and := loosen .and rfl equality
  have or := loosen .or rfl and
  have conditional := loosen .conditional rfl or
  have assignment := loosen .assignment rfl conditional
  exact loosen .comma rfl assignment

/-! ## Statements -/

section

variable {depth : Nat} {semicolon : Token} (operand : RightOperand operator tokens)
  (ends : semicolon.kind = .semicolon) (short : (operator :: tokens).length ≤ depth)

include operand ends short

theorem reports_expressionStatement :
    Reports place (declared (rules depth)) (operator :: tokens ++ [semicolon]) rest
      [strandedError operator] (.expression (.literal .nil)) := by
  have needs := operand.needsLeftOperand
  have stmt : Reports place (expressionStatement (rules depth)) (operator :: tokens ++ [semicolon])
      rest [strandedError operator] (.expression (.literal .nil)) :=
    .bind (reports_expression operand short (stops_semicolon ends rest)) (.expect ends (.pure _))
  -- Neither a declaration nor any other statement begins with such an operator.
  have dispatched : Reports place (statement (rules depth)) (operator :: tokens ++ [semicolon])
      rest [strandedError operator] (.expression (.literal .nil)) := by
    refine .peek ?_
    split <;> first | exact stmt | next isKind => simp [isKind, needsLeftOperand] at needs
  refine .look (fun state before => run_nextKinds_cons before) ?_
  split <;> first
    | exact dispatched
    | next isKind => simp [(Prod.mk.inj isKind).1, needsLeftOperand] at needs

theorem reports_printStatement {keyword : Token} (isPrint : keyword.kind = .kwPrint) :
    Reports place (declared (rules depth)) (keyword :: operator :: tokens ++ [semicolon]) rest
      [strandedError operator] (.print (.literal .nil)) := by
  refine .look (fun state before => run_nextKinds_cons before) ?_
  simp only [isPrint]
  refine .peek ?_
  simp only [isPrint]
  exact .skip (.bind (reports_expression operand short (stops_semicolon ends rest))
    (.expect ends (.pure _)))

theorem reports_letDeclaration {keyword name equals : Token} (isLet : keyword.kind = .kwLet)
    (isName : name.kind = .identifier) (isEquals : equals.kind = .equal) :
    Reports place (declared (rules depth))
      (keyword :: name :: equals :: operator :: tokens ++ [semicolon]) rest
      [strandedError operator] (.define name (some (.literal .nil))) := by
  have initial : Reports place (some <$> expression (rules depth)) (operator :: tokens)
      (semicolon :: rest) [strandedError operator] (some (.literal .nil)) :=
    .map (reports_expression operand short (stops_semicolon ends rest))
  refine .look (fun state before => run_nextKinds_cons before) ?_
  simp only [isLet]
  refine .skip (.take (fun _ before => run_expect_ok before isName) ?_)
  refine .take (fun _ before => run_accept_some before isEquals) ?_
  exact .bind initial (.expect ends (.pure _))

end

end Lox.Parser

namespace Lox.Program

open Lox.Grammar Lox.Parser

/-- A piece that is read as one statement with one error, between two that are free of errors. -/
theorem parse_around_reported {early middle late : List Token} (earlyProper : Proper early)
    (lateProper : Proper late) (earlyClean : (parse early).errors = [])
    (lateClean : (parse late).errors = []) (proper : Proper middle)
    (apart : headIs .kwElse middle = false) (some_token : middle ≠ []) {stmt : Stmt}
    {error : SyntaxError} (reports : ∀ {depth : Nat}, middle.length ≤ depth →
      Reports .top (declared (rules depth)) middle late [error] stmt) :
    parse (early ++ middle ++ late) =
      ⟨(parse early).statements ++ (parse late).statements, [error]⟩ := by
  have dropped : ∀ {depth : Nat}, middle.length ≤ depth → ∀ state : State,
      state.ending.kind = .eof → state.loopDepth = 0 → state.functionDepth = 0 →
      state.errors = [] → state.rest = middle ++ late →
      declaration (rules depth) state =
        .ok none { state with rest := late, errors := [error] } := by
    intro depth short state isEnd noLoop noFunction noErrors before
    have outside : state.place = .top := by simp [State.place, noLoop, noFunction, Place.top]
    have run := (reports short).declaration state isEnd outside before
    rwa [noErrors, List.nil_append] at run
  rw [parse_around earlyProper lateProper earlyClean lateClean proper apart some_token dropped]
  simp

/-- Before what the grammar has to its right, an operator without a left operand is the one error of
a text that is otherwise free of errors, and only its own statement is lost: a statement that begins
with it, one that prints, or one that declares a variable. -/
theorem stranded_operator_is_one_error {early late operands : List Token}
    {operator semicolon : Token} (earlyProper : Proper early) (lateProper : Proper late)
    (earlyClean : (parse early).errors = []) (lateClean : (parse late).errors = [])
    (operand : RightOperand operator operands) (ends : semicolon.kind = .semicolon) :
    let stranded := operator :: operands ++ [semicolon]
    let rest : Program := ⟨(parse early).statements ++ (parse late).statements,
      [⟨.missingLeftOperand operator.lexeme, operator⟩]⟩
    parse (early ++ stranded ++ late) = rest ∧
    (∀ keyword : Token, keyword.kind = .kwPrint →
      parse (early ++ keyword :: stranded ++ late) = rest) ∧
    ∀ keyword name equals : Token, keyword.kind = .kwLet → name.kind = .identifier →
      equals.kind = .equal →
      parse (early ++ keyword :: name :: equals :: stranded ++ late) = rest := by
  intro stranded rest
  have around := @parse_around_reported early
  have proper : Proper stranded := proper_append.mpr ⟨operand.proper, by simp [ends]⟩
  have begins : headIs .kwElse stranded = false := by
    have needs := operand.needsLeftOperand
    refine decide_eq_false fun isElse => ?_
    rw [isElse] at needs
    cases needs
  have fits : ∀ (more : List Token) {depth : Nat}, (more ++ stranded).length ≤ depth →
      (operator :: operands).length ≤ depth := by
    intro more depth short
    simp only [stranded, List.length_append] at short
    omega
  refine ⟨?_, ?_, ?_⟩
  · exact around earlyProper lateProper earlyClean lateClean proper begins (by simp [stranded])
      fun short => reports_expressionStatement operand ends (fits [] short)
  · intro keyword isPrint
    exact around earlyProper lateProper earlyClean lateClean (by simp [isPrint, proper])
      (by simp [isPrint]) (by simp)
      fun short => reports_printStatement operand ends (fits [keyword] short) isPrint
  · intro keyword name equals isLet isName isEquals
    exact around earlyProper lateProper earlyClean lateClean
      (by simp [isLet, isName, isEquals, proper]) (by simp [isLet]) (by simp)
      fun short => reports_letDeclaration operand ends
        (fits [keyword, name, equals] short) isLet isName isEquals

/-- In `x; ? x : x; print x;` the question mark is the one error, also behind `print`. -/
theorem stranded_question_is_one_error :
    let name := bareToken .identifier
    let question := bareToken .question
    let early := [.identifier, .semicolon].map bareToken
    let stranded := [.question, .identifier, .colon, .identifier, .semicolon].map bareToken
    let late := [.kwPrint, .identifier, .semicolon].map bareToken
    let rest : Program := ⟨[.expression (.var name), .print (.var name)],
      [⟨.missingLeftOperand question.lexeme, question⟩]⟩
    RightOperand question ([name] ++ bareToken .colon :: [name]) ∧
      parse (early ++ stranded ++ late) = rest ∧
      parse (early ++ bareToken .kwPrint :: stranded ++ late) = rest := by
  intro name question early stranded late rest
  have atom : Derives (.expr .primary) [name] (.var name) := .atom (.var rfl)
  have call : Derives (.expr .call) [name] (.var name) := .tighter rfl atom
  have term : Derives (.expr .term) [name] (.var name) :=
    .tighter rfl (.tighter rfl (.tighter rfl call))
  have conditional : Derives (.expr .conditional) [name] (.var name) :=
    .tighter rfl (.tighter rfl (.tighter rfl (.tighter rfl (.tighter rfl term))))
  have operand : RightOperand question ([name] ++ bareToken .colon :: [name]) :=
    .branches rfl (.tighter rfl (.tighter rfl conditional)) rfl conditional
  have earlyProper : Proper early := by simp [early, bareToken]
  have lateProper : Proper late := by simp [late, bareToken]
  have ends : (bareToken .semicolon).kind = .semicolon := rfl
  obtain ⟨begins, printed, _⟩ :=
    stranded_operator_is_one_error earlyProper lateProper rfl rfl operand ends
  exact ⟨operand, begins, printed (bareToken .kwPrint) rfl⟩

end Lox.Program
