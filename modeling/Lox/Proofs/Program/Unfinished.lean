import Lox.Proofs.Grammar.Keywords
import Lox.Proofs.Program.Resumption

/-!
# A statement without its semicolon

If the semicolon of a statement is missing and a keyword follows at which another statement begins,
the error is found at that keyword. Recovery passes the token at which it finds itself before it
looks for the next place where a statement may begin. So it passes the keyword, and the statement
that begins there is lost as well.
-/

namespace Lox.Parser

open Lox.Grammar
open Lox.Token (Kind)

variable {α β : Type} {place : Place} {tokens more rest : List Token} {error : SyntaxError}

/-! ## Parsers that fail -/

/-- Before `tokens` and then `rest`, `parser` takes the tokens and then fails with the error. -/
def Fails {α : Type} (place : Place) (parser : Parser α) (tokens rest : List Token)
    (error : SyntaxError) : Prop :=
  ∀ state, state.ending.kind = .eof → state.place = place → state.rest = tokens ++ rest →
    parser state = .error error { state with rest }

namespace Fails

/-- A step that takes one token. -/
theorem take {parser : Parser α} {next : α → Parser β} {a : α} {token : Token}
    (run : ∀ state : State, state.rest = token :: (tokens ++ rest) →
      parser state = .ok a { state with rest := tokens ++ rest })
    (second : Fails place (next a) tokens rest error) :
    Fails place (parser >>= next) (token :: tokens) rest error := by
  intro state isEnd samePlace before
  rw [run_bind_ok (run state before)]
  exact second _ isEnd samePlace rfl

/-- A step that only looks. -/
theorem look {parser : Parser α} {next : α → Parser β} {a : α}
    (run : ∀ state : State, state.rest = tokens ++ rest → parser state = .ok a state)
    (second : Fails place (next a) tokens rest error) :
    Fails place (parser >>= next) tokens rest error := by
  intro state isEnd samePlace before
  rw [run_bind_ok (run state before)]
  exact second state isEnd samePlace before

theorem peek {next : Token → Parser β} {token : Token}
    (second : Fails place (next token) (token :: tokens) rest error) :
    Fails place (Parser.peek >>= next) (token :: tokens) rest error :=
  look (fun state before => by rw [run_peek, before]; rfl) second

theorem skip {next : Unit → Parser β} {token : Token}
    (second : Fails place (next ()) tokens rest error) :
    Fails place (Parser.skip >>= next) (token :: tokens) rest error :=
  take (fun state before => by rw [run_skip, before]; rfl) second

theorem bind {parser : Parser α} {next : α → Parser β} {a : α}
    (first : Accepts place parser tokens (more ++ rest) a)
    (second : Fails place (next a) more rest error) :
    Fails place (parser >>= next) (tokens ++ more) rest error := by
  intro state isEnd samePlace before
  rw [run_bind_ok (first state isEnd samePlace (by rw [before, List.append_assoc]))]
  exact second _ isEnd samePlace rfl

/-- What was due is not there. -/
theorem expect {kind : Kind} {what : Expectation} {next : Token → Parser β} {token : Token}
    (other : token.kind ≠ kind) :
    Fails place (Parser.expect kind what >>= next) [] (token :: rest)
      ⟨.expected what, token⟩ := by
  intro state _ _ before
  rw [List.nil_append] at before
  have refused := @run_expect_error kind what state (by simp [before, other])
  rw [before, List.headD_cons] at refused
  rw [run_bind_error refused, ← before]

/-- A declaration that fails gives nothing, and recovery goes on from where it failed. -/
theorem declaration {rules : Rules} (fails : Fails place (declared rules) tokens rest error)
    {state : State} (isEnd : state.ending.kind = .eof) (samePlace : state.place = place)
    (before : state.rest = tokens ++ rest) :
    Parser.declaration rules state =
      .ok none { state with rest := synchronize rest, errors := state.errors ++ [error] } := by
  unfold Parser.declaration
  rw [fails state isEnd samePlace before]

end Fails

/-! ## Statements that end in a semicolon -/

/-- What the semicolon stands behind in a statement that defines, prints or evaluates. -/
def semicolonDue : Stmt → Option Expectation
  | .define _ _ => some .afterVariable
  | .print _ => some .afterPrinted
  | .expression _ => some .afterExpression
  | _ => none

/-- The tokens of such a statement without the semicolon. -/
inductive Unfinished : List Token → Expectation → Prop
  | define {keyword name : Token} (isLet : keyword.kind = .kwLet)
      (isName : name.kind = .identifier) : Unfinished [keyword, name] .afterVariable
  | defineAs {keyword name equals : Token} {tokens : List Token} {value : Expr}
      (isLet : keyword.kind = .kwLet) (isName : name.kind = .identifier)
      (isEquals : equals.kind = .equal) (initial : Derives (.expr .comma) tokens value) :
      Unfinished (keyword :: name :: equals :: tokens) .afterVariable
  | print {keyword : Token} {tokens : List Token} {value : Expr} (isPrint : keyword.kind = .kwPrint)
      (printed : Derives (.expr .comma) tokens value) :
      Unfinished (keyword :: tokens) .afterPrinted
  | expression {tokens : List Token} {value : Expr}
      (evaluated : Derives (.expr .comma) tokens value) : Unfinished tokens .afterExpression

/-- A loop, or a block around one, is none of these statements. -/
@[simp] theorem semicolonDue_forTree (first : Option Stmt) (condition increment : Option Expr)
    (body : Stmt) : semicolonDue (forTree first condition increment body) = none := by
  cases first <;> rfl

theorem unfinished_of_derives {stmt : Stmt} {what : Expectation}
    (derives : Derives (.declaration place) tokens stmt) (due : semicolonDue stmt = some what) :
    ∃ body semicolon, tokens = body ++ [semicolon] ∧ Unfinished body what := by
  cases derives with
  | definition defines =>
    cases defines with
    | define isLet isName => exact ⟨[_, _], _, rfl, Option.some.inj due ▸ .define isLet isName⟩
    | defineAs isLet isName isEquals initial =>
      exact ⟨_, _, rfl, Option.some.inj due ▸ .defineAs isLet isName isEquals initial⟩
  | statement derives =>
    cases derives with
    | print isPrint printed => exact ⟨_, _, rfl, Option.some.inj due ▸ .print isPrint printed⟩
    | expression evaluated => exact ⟨_, _, rfl, Option.some.inj due ▸ .expression evaluated⟩
    | forLoop => simp at due
    | _ => cases due
  | _ => cases due

theorem ne_of_beginsStatement {next : Token} {kind : Kind}
    (begins : beginsStatement next.kind = true) (unlike : beginsStatement kind = false) :
    next.kind ≠ kind := by
  rintro rfl
  simp [begins] at unlike

/-- A keyword that begins a statement ends the expression in front of it. -/
theorem stops_of_beginsStatement {next : Token} (begins : beginsStatement next.kind = true)
    (others : List Token) : Stops .comma (next :: others) := by
  refine stops_of_kind rfl ?_ others
  cases kind : next.kind <;> simp_all [beginsStatement, StopsAt, continuedAt]

/-! ## What fails at the keyword -/

section

variable {depth : Nat} {next : Token} {others : List Token}

theorem fails_define {keyword name : Token} (isLet : keyword.kind = .kwLet)
    (isName : name.kind = .identifier) (begins : beginsStatement next.kind = true) :
    Fails place (declared (rules depth)) [keyword, name] (next :: others)
      ⟨.expected .afterVariable, next⟩ := by
  have unequal : next.kind ≠ .equal := ne_of_beginsStatement begins rfl
  apply Fails.look fun _ before => run_nextKinds_cons before
  simp only [isLet]
  apply Fails.skip
  apply Fails.take fun _ before => run_expect_ok before isName
  apply Fails.look fun _ before => run_accept_none (by simp [before, unequal])
  exact .expect (ne_of_beginsStatement begins rfl)

variable {value : Expr} (read : ExprRead .comma tokens value) (short : tokens.length ≤ depth)
  (begins : beginsStatement next.kind = true)

include read short begins

/-- The expression is read up to the keyword, where what is due behind it is missing. -/
theorem fails_expression {what : Expectation} {finish : Expr → Token → Parser β} :
    Fails place (expression (rules depth) >>= fun value => expect .semicolon what >>= finish value)
      tokens (next :: others) ⟨.expected what, next⟩ := by
  have stops := stops_of_beginsStatement begins others
  rw [← List.append_nil tokens]
  exact .bind (read.accepts short stops) (.expect (ne_of_beginsStatement begins rfl))

theorem fails_defineAs {keyword name equals : Token} (isLet : keyword.kind = .kwLet)
    (isName : name.kind = .identifier) (isEquals : equals.kind = .equal) :
    Fails place (declared (rules depth)) (keyword :: name :: equals :: tokens) (next :: others)
      ⟨.expected .afterVariable, next⟩ := by
  apply Fails.look fun _ before => run_nextKinds_cons before
  simp only [isLet]
  apply Fails.skip
  apply Fails.take fun _ before => run_expect_ok before isName
  apply Fails.take fun _ before => run_accept_some before isEquals
  simp only [if_true, map_eq_pure_bind, bind_assoc, pure_bind]
  exact fails_expression read short begins

theorem fails_print {keyword : Token} (isPrint : keyword.kind = .kwPrint) :
    Fails place (declared (rules depth)) (keyword :: tokens) (next :: others)
      ⟨.expected .afterPrinted, next⟩ := by
  apply Fails.look fun _ before => run_nextKinds_cons before
  simp only [isPrint]
  apply Fails.peek
  simp only [isPrint]
  exact .skip (fails_expression read short begins)

/-- Neither a declaration nor any other statement looks like an expression. -/
theorem fails_expressionStatement (looks : BeginsWith Tier.comma.begins tokens)
    (unnamed : Unnamed tokens) :
    Fails place (declared (rules depth)) tokens (next :: others)
      ⟨.expected .afterExpression, next⟩ := by
  have stmt : Fails place (expressionStatement (rules depth)) tokens (next :: others)
      ⟨.expected .afterExpression, next⟩ := fails_expression read short begins
  have second_kind := unnamed (next :: others)
  obtain ⟨first, more, rfl, known⟩ := looks
  have dispatched : Fails place (statement (rules depth)) (first :: more) (next :: others)
      ⟨.expected .afterExpression, next⟩ := by
    apply Fails.peek
    split <;> simp_all [Tier.begins]
  apply Fails.look fun _ before => run_nextKinds_cons before
  cases behind : more ++ next :: others with
  | nil => simp at behind
  | cons second tail =>
    have unlike : first.kind = .kwFun → second.kind = .leftParen :=
      second_kind first second tail (by rw [List.cons_append, behind])
    split <;> simp_all [Tier.begins]

end

/-- A statement without its semicolon fails at a keyword behind it. -/
theorem Unfinished.fails {what : Expectation} {depth : Nat} {next : Token} {others : List Token}
    (unfinished : Unfinished tokens what) (short : tokens.length ≤ depth)
    (begins : beginsStatement next.kind = true) :
    Fails place (declared (rules depth)) tokens (next :: others) ⟨.expected what, next⟩ := by
  cases unfinished with
  | define isLet isName => exact fails_define isLet isName begins
  | defineAs isLet isName isEquals initial =>
    simp only [List.length_cons] at short
    exact fails_defineAs initial.read (by omega) begins isLet isName isEquals
  | print isPrint printed =>
    rw [List.length_cons] at short
    exact fails_print printed.read (by omega) begins isPrint
  | expression evaluated =>
    exact fails_expressionStatement evaluated.read short begins evaluated.begins.1
      evaluated.begins.2

/-- The keyword at which a statement fails is passed. -/
theorem keywordCount_synchronize {next : Token} (begins : beginsStatement next.kind = true)
    (others : List Token) :
    keywordCount (synchronize (next :: others)) < keywordCount (next :: others) := by
  obtain ⟨passed, whole, some_passed⟩ := synchronize_suffix (next :: others)
  have sum := congrArg keywordCount whole
  cases passed with
  | nil => simp at some_passed
  | cons first passed =>
    obtain rfl : next = first := (List.cons.inj whole).1
    simp only [keywordCount_append, keywordCount_cons, begins, if_true] at sum ⊢
    omega

end Lox.Parser

namespace Lox.Program

open Lox.Grammar Lox.Parser

/-- The statements that are kept have no keywords but those of the text. -/
theorem FallInto.keywordsAll_le {ending : Token} {tokens : List Token} {pieces : List Piece}
    (fall : FallInto ending tokens pieces) :
    Stmt.keywordsAll (pieces.filterMap Piece.stmt?) ≤ keywordCount tokens := by
  induction fall with
  | done => simp [Stmt.keywordsAll]
  | @next rest piece pieces first _ _ ih =>
    rw [keywordCount_append]
    cases piece with
    | kept tokens stmt =>
      have own : keywordCount tokens = stmt.keywords := first.keywordCount_eq
      simp only [Piece.stmt?, Piece.tokens, List.filterMap_cons, Stmt.keywordsAll]
      omega
    | lost tokens errors =>
      simp only [Piece.stmt?, List.filterMap_cons]
      omega

theorem keywordsAll_parse_le {tokens : List Token} (proper : Proper tokens) :
    Stmt.keywordsAll (parse tokens).statements ≤ keywordCount tokens := by
  obtain ⟨pieces, fall, statements, -⟩ := program_pieces tokens
  rw [takeWhile_of_proper proper] at fall
  rw [statements]
  exact fall.keywordsAll_le

/-- A program of one statement that ends in a semicolon, without the semicolon. -/
theorem unfinished_of_parse {body : List Token} {semicolon : Token} {stmt : Stmt}
    {what : Expectation} (proper : Proper (body ++ [semicolon]))
    (whole : parse (body ++ [semicolon]) = ⟨[stmt], []⟩) (due : semicolonDue stmt = some what) :
    Unfinished body what := by
  have derives := derives_of_clean_proper proper (by rw [whole])
  rw [whole] at derives
  generalize same : body ++ [semicolon] = tokens at derives
  cases derives with
  | next first rest =>
    cases rest with
    | done =>
      obtain ⟨front, last, rfl, unfinished⟩ := unfinished_of_derives first due
      rw [List.append_nil] at same
      exact (List.append_inj' same rfl).1 ▸ unfinished

/-- If the semicolon is left out of a program of one statement, and a program without errors that
begins with a keyword follows, the first error is at the keyword. Everything else is what is read of
the text from where recovery has come to, and as that is behind the keyword, a statement of the
program that follows is always lost. -/
theorem unfinished_statement_swallows_next {body others : List Token} {semicolon next : Token}
    {stmt : Stmt} {what : Expectation} (properFirst : Proper (body ++ [semicolon]))
    (properSecond : Proper (next :: others))
    (first : parse (body ++ [semicolon]) = ⟨[stmt], []⟩) (due : semicolonDue stmt = some what)
    (second : (parse (next :: others)).errors = []) (begins : beginsStatement next.kind = true) :
    let resumed := parse (synchronize (next :: others))
    let read := parse (body ++ next :: others)
    read = ⟨resumed.statements, ⟨.expected what, next⟩ :: resumed.errors⟩ ∧
      read.statements ≠ (parse (next :: others)).statements := by
  intro resumed read
  have proper : Proper (body ++ next :: others) :=
    proper_append.mpr ⟨(proper_append.mp properFirst).1, properSecond⟩
  have before := rest_start proper
  have fails : Fails .top (declared (rules (body ++ next :: others).length)) body (next :: others)
      ⟨.expected what, next⟩ :=
    (unfinished_of_parse properFirst first due).fails (by simp) begins
  have run := fails.declaration (endingOf_kind _) rfl before
  have all : read = ⟨resumed.statements, ⟨.expected what, next⟩ :: resumed.errors⟩ :=
    parse_declaration proper (by simp) run
  refine ⟨all, fun same => ?_⟩
  -- The program that follows has all its keywords in its statements, but recovery has passed one.
  have properRest : Proper (synchronize (next :: others)) := by
    obtain ⟨passed, whole, -⟩ := synchronize_suffix (next :: others)
    exact (proper_append.mp (whole ▸ properSecond)).2
  have spelled := (derives_of_clean_proper properSecond second).keywordCount_eq
  have kept := keywordsAll_parse_le properRest
  have fewer := keywordCount_synchronize begins others
  have lost : Stmt.keywordsAll resumed.statements <
      Stmt.keywordsAll (parse (next :: others)).statements :=
    calc
      Stmt.keywordsAll resumed.statements ≤ keywordCount (synchronize (next :: others)) := kept
      _ < keywordCount (next :: others) := fewer
      _ = Stmt.keywordsAll (parse (next :: others)).statements := spelled
  simp only [all] at same
  rw [same] at lost
  exact absurd lost (Nat.lt_irrefl _)

/-- In `print x print x; print x;` the second `print` is lost with the first. -/
theorem unfinished_print_swallows_next :
    let name := bareToken .identifier
    let keyword := bareToken .kwPrint
    let body := [keyword, name]
    let late := [.kwPrint, .identifier, .semicolon, .kwPrint, .identifier, .semicolon].map bareToken
    parse (body ++ [bareToken .semicolon]) = ⟨[.print (.var name)], []⟩ ∧
      (parse late).errors = [] ∧
      parse (body ++ late) = ⟨[.print (.var name)], [⟨.expected .afterPrinted, keyword⟩]⟩ ∧
      (parse (body ++ late)).statements ≠ (parse late).statements := by
  intro name keyword body late
  have first : parse (body ++ [bareToken .semicolon]) = ⟨[.print (.var name)], []⟩ := rfl
  have second : (parse late).errors = [] := rfl
  have properFirst : Proper (body ++ [bareToken .semicolon]) := by
    simp [body, keyword, name, bareToken]
  have properSecond : Proper late := by simp [late, bareToken]
  obtain ⟨read, lost⟩ :=
    unfinished_statement_swallows_next properFirst properSecond first rfl second rfl
  exact ⟨first, second, read, lost⟩

/-- In `print x print x;` nothing is left of either statement. -/
theorem statement_behind_unfinished_lost :
    let name := bareToken .identifier
    let keyword := bareToken .kwPrint
    let body := [keyword, name]
    let late := [keyword, name, bareToken .semicolon]
    parse late = ⟨[.print (.var name)], []⟩ ∧
      parse (body ++ late) = ⟨[], [⟨.expected .afterPrinted, keyword⟩]⟩ :=
  ⟨rfl, rfl⟩

end Lox.Program
