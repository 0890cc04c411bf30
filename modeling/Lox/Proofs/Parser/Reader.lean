import Lox.Proofs.Parser.Depth
import Lox.Proofs.Program.Acceptance

/-!
# All functions of the parser

`Reader` lists the functions of the parser, with what each is given besides the state. Two facts
hold of all of them before fewer tokens than there are levels: they move the state as a parser may,
and the number of levels makes no difference to what they do.
-/

namespace Lox.Parser

open Lox.Grammar (Place)
open Lox.Program (bareToken programItem)

/-- The functions of the parser. -/
inductive Reader where
  | program | declaration | declared | classDeclaration | letDeclaration
  | statement | printStatement | expressionStatement | forStatement | forInitializer
  | ifStatement | whileStatement
  | returnStatement (keyword : Token) | jumpStatement (keyword : Token)
  | block | namedRoutine (role : Role) | routine (role : Role) (opening : Expectation)
  | parameters | arguments
  | expression | assignment | conditional | disjunction | conjunction | equality | comparison
  | term | factor | unary | call | primary | strandedOperand (operator : Token)
  | skip | accept (kind : Token.Kind) | expect (kind : Token.Kind) (what : Expectation)
  | synchronize
  | inLoop (reader : Reader) | inFunction (reader : Reader)

namespace Reader

/-- What a reader gives. -/
def Result : Reader → Type
  | program | block => List Stmt
  | declaration | forInitializer => Option Stmt
  | declared | classDeclaration | letDeclaration | statement | printStatement
  | expressionStatement | forStatement | ifStatement | whileStatement | returnStatement _
  | jumpStatement _ => Stmt
  | namedRoutine _ => Token × Routine
  | routine _ _ => Routine
  | parameters => List Token
  | arguments => List Expr
  | expression | assignment | conditional | disjunction | conjunction | equality | comparison
  | term | factor | unary | call | primary => Expr
  | strandedOperand _ | skip | synchronize => Unit
  | accept _ => Bool
  | expect _ _ => Token
  | inLoop reader | inFunction reader => reader.Result

def parser (rules : Rules) : (reader : Reader) → Parser reader.Result
  | program => Parser.program rules
  | declaration => Parser.declaration rules
  | declared => Parser.declared rules
  | classDeclaration => Parser.classDeclaration rules
  | letDeclaration => Parser.letDeclaration rules
  | statement => Parser.statement rules
  | printStatement => Parser.printStatement rules
  | expressionStatement => Parser.expressionStatement rules
  | forStatement => Parser.forStatement rules
  | forInitializer => Parser.forInitializer rules
  | ifStatement => Parser.ifStatement rules
  | whileStatement => Parser.whileStatement rules
  | returnStatement keyword => Parser.returnStatement rules keyword
  | jumpStatement keyword => Parser.jumpStatement keyword
  | block => Parser.block rules
  | namedRoutine role => Parser.namedRoutine rules role
  | routine role opening => Parser.routine rules role opening
  | parameters => untilParen .tooManyParameters (Parser.expect .identifier .parameterName)
  | arguments => untilParen .tooManyArguments rules.assignment
  | expression => Parser.expression rules
  | assignment => Parser.assignment rules
  | conditional => Parser.conditional rules
  | disjunction => Parser.disjunction rules
  | conjunction => Parser.conjunction rules
  | equality => Parser.equality rules
  | comparison => Parser.comparison rules
  | term => Parser.term rules
  | factor => Parser.factor rules
  | unary => Parser.unary rules
  | call => Parser.call rules
  | primary => Parser.primary rules
  | strandedOperand operator => Parser.strandedOperand rules operator
  | skip => Parser.skip
  | accept kind => Parser.accept kind
  | expect kind what => Parser.expect kind what
  | synchronize => modify fun state => { state with rest := Parser.synchronize state.rest }
  | inLoop reader => Parser.inLoop (reader.parser rules)
  | inFunction reader => Parser.inFunction (reader.parser rules)

/-- The tokens that a reader is given and may blame. -/
def given : Reader → List Token
  | returnStatement keyword | jumpStatement keyword => [keyword]
  | inLoop reader | inFunction reader => reader.given
  | _ => []

end Reader

/-! ## The state is moved as it may -/

section

variable {source : Source} {place : Place} {rest : List Token} {rules : Rules} {depth : Nat}

/-- Behind a `return`, or any other token that takes its place. -/
theorem reads_returned (sound : rules.Sound source depth) (short : rest.length ≤ depth)
    {keyword : Token} (known : source.Seen rest keyword) :
    Reads source place rest (returnStatement rules keyword) fun _ _ _ _ => True := by
  have value_then : Reads source place rest
      (do
        let value ← if ← check .semicolon then pure none else some <$> expression rules
        let _ ← expect .semicolon .afterReturned
        return Stmt.giveBack keyword value)
      fun _ _ _ _ => True := by
    refine .check (by decide) ?_
    rw [ite_bind]
    refine .bind (reads_optional sound short _) fun _ _ _ _ _ _ => ?_
    exact .expect fun _ _ _ _ => .pure trivial
  refine .get fun state _ => ?_
  split
  · exact .reportAt known (by simp) value_then
  · exact value_then

theorem reads_jumped {keyword : Token} (known : source.Seen rest keyword) :
    Reads source place rest (jumpStatement keyword) fun _ _ _ _ => True := by
  refine .get fun state _ => ?_
  by_cases outside : state.loopDepth = 0
  · simp only [outside, if_true]
    exact .reportAt known (by simp) (.expect fun _ _ _ _ => .pure trivial)
  · simp only [outside, if_false]
    exact .expect fun _ _ _ _ => .pure trivial

theorem reads_skip : Reads source place rest skip fun _ _ _ _ => True := by
  intro state start
  rw [run_skip]
  cases next : state.rest with
  | nil => exact ⟨[], [], ⟨next, rfl, by simp, rfl, rfl, by simp⟩, trivial⟩
  | cons token tail => exact ⟨[token], [], .one next, trivial⟩

theorem reads_accept (kind : Token.Kind) :
    Reads source place rest (accept kind) fun _ _ _ _ => True := by
  rw [← bind_pure (accept kind)]
  exact .accept (fun _ _ _ _ _ => .pure trivial) fun _ => .pure trivial

theorem reads_synchronize :
    Reads source place rest
      (modify fun state : State => { state with rest := synchronize state.rest } : Parser Unit)
      fun _ _ _ _ => True := by
  intro state start
  obtain ⟨passed, whole, -⟩ := synchronize_suffix state.rest
  exact ⟨passed, [], ⟨whole, rfl, by simp, rfl, rfl, by simp⟩, trivial⟩

theorem reads_program (sound : rules.Sound source depth) (short : rest.length ≤ depth) :
    Reads source place rest (program rules) fun _ _ _ _ => True := by
  have items : Reads source place rest (collect (programItem rules)) fun _ _ _ _ => True := by
    refine .collect (fun _ _ _ _ => True) (fun left shorter => .atEnd ?_) (by simp) (by simp)
      (by simp)
    split
    · exact .pure trivial
    · exact .bind (reads_declaration sound (Nat.le_trans shorter short))
        fun _ _ _ _ _ _ => .pure trivial
  exact .bind items fun _ _ _ _ _ _ => .pure trivial

/-- Before fewer tokens than there are levels, every function moves the state as a parser may. -/
theorem reads_reader (reader : Reader) (short : rest.length < depth)
    (known : ∀ token ∈ reader.given, source.Seen rest token) :
    Reads source place rest (reader.parser (Parser.rules depth)) fun _ _ _ _ => True := by
  have sound := rules_sound source depth
  have short' := Nat.le_of_lt short
  -- A statement spells its keyword, but moves the state alike behind any token of that kind.
  have keyword : ∀ kind, (bareToken kind).kind = kind := fun _ => rfl
  induction reader generalizing place with
  | program => exact reads_program sound short'
  | declaration => exact (reads_declaration sound short').anyhow
  | declared => exact (reads_declared sound short').anyhow
  | classDeclaration => exact (reads_classDeclaration sound short' (keyword _)).anyhow
  | letDeclaration => exact (reads_letDeclaration sound short').anyhow
  | statement => exact (reads_statement sound short').anyhow
  | printStatement => exact (reads_printStatement sound short' (keyword _)).anyhow
  | expressionStatement => exact (reads_expressionStatement sound short').anyhow
  | forStatement => exact (reads_forStatement sound short' (keyword _)).anyhow
  | forInitializer => exact (reads_forInitializer sound short').anyhow
  | ifStatement => exact (reads_ifStatement sound short' (keyword _)).anyhow
  | whileStatement => exact (reads_whileStatement sound short' (keyword _)).anyhow
  | returnStatement token =>
    exact reads_returned sound short' (known token (by simp [Reader.given]))
  | jumpStatement token => exact reads_jumped (known token (by simp [Reader.given]))
  | block => exact (reads_block sound short).anyhow
  | namedRoutine role => exact (reads_namedRoutine sound short' role).anyhow
  | routine role opening => exact (reads_routine sound short' role opening).anyhow
  | parameters => exact reads_parameters.anyhow
  | arguments => exact (reads_arguments sound short).anyhow
  | expression => exact (reads_expression sound short').anyhow
  | assignment => exact (reads_assignment sound short').anyhow
  | conditional => exact (reads_conditional sound short').anyhow
  | disjunction => exact (reads_disjunction sound short').anyhow
  | conjunction => exact (reads_conjunction sound short').anyhow
  | equality => exact (reads_equality sound short').anyhow
  | comparison => exact (reads_comparison sound short').anyhow
  | term => exact (reads_term sound short').anyhow
  | factor => exact (reads_factor sound short').anyhow
  | unary => exact (reads_unary sound short').anyhow
  | call => exact (reads_call sound short').anyhow
  | primary => exact (reads_primary sound short').anyhow
  | strandedOperand operator => exact reads_strandedOperand sound short operator
  | skip => exact reads_skip
  | accept kind => exact reads_accept kind
  | expect kind what => exact (reads_expect kind what).anyhow
  | synchronize => exact reads_synchronize
  | inLoop reader ih => exact .inLoop (ih known)
  | inFunction reader ih => exact .inFunction (ih known)

end

/-! ## The number of levels makes no difference -/

section

variable {early : List SyntaxError} {bound : Nat} {rules others : Rules}

theorem agrees_program (agree : rules.Agree early bound others) :
    Agrees early (bound + 1) (program rules) (program others) := by
  have items : Agrees early (bound + 1) (collect (programItem rules))
      (collect (programItem others)) := by
    refine .collect (Agrees.atEnd.bind fun ends => ?_)
    split
    · exact .pure none
    · exact (agrees_declaration agree).bind fun _ => .pure _
  exact items.bind fun _ => .pure _

theorem Agrees.skip : Agrees early bound Parser.skip Parser.skip :=
  of_ok (fun _ => rfl) (fun _ => rfl) fun state isEnd =>
    ⟨isEnd, by simp only [List.length_tail]; omega⟩

theorem Agrees.synchronize :
    Agrees early bound
      (modify fun state : State => { state with rest := Parser.synchronize state.rest } :
        Parser Unit)
      (modify fun state => { state with rest := Parser.synchronize state.rest }) := by
  refine of_ok (fun _ => rfl) (fun _ => rfl) fun state isEnd => ⟨isEnd, ?_⟩
  obtain ⟨passed, whole, -⟩ := synchronize_suffix state.rest
  exact Nat.lt_succ_of_le (length_le_of_split whole (Nat.le_refl _))

theorem agrees_reader (agree : rules.Agree early bound others) (reader : Reader) :
    Agrees early bound (reader.parser rules) (reader.parser others) := by
  induction reader with
  | program => exact (agrees_program agree).lower
  | declaration => exact (agrees_declaration agree).lower
  | declared => exact (agrees_declared agree).lower
  | classDeclaration => exact agrees_classDeclaration agree
  | letDeclaration => exact (agrees_letDeclaration agree).lower
  | statement => exact (agrees_statement agree).lower
  | printStatement => exact (agrees_printStatement agree).lower
  | expressionStatement => exact (agrees_expressionStatement agree).lower
  | forStatement => exact (agrees_forStatement agree).lower
  | forInitializer => exact (agrees_forInitializer agree).lower
  | ifStatement => exact (agrees_ifStatement agree).lower
  | whileStatement => exact (agrees_whileStatement agree).lower
  | returnStatement keyword => exact (agrees_returnStatement agree keyword).lower
  | jumpStatement keyword => exact agrees_jumpStatement keyword
  | block => exact agrees_block agree
  | namedRoutine role => exact agrees_namedRoutine agree role
  | routine role opening => exact agrees_routine agree role opening
  | parameters => exact .untilParen (.expect_alone _ _)
  | arguments => exact .untilParen agree.assignment
  | expression => exact (agrees_expression agree).lower
  | assignment => exact (agrees_assignment agree).lower
  | conditional => exact (agrees_conditional agree).lower
  | disjunction => exact (agrees_disjunction agree).lower
  | conjunction => exact (agrees_conjunction agree).lower
  | equality => exact (agrees_equality agree).lower
  | comparison => exact (agrees_comparison agree).lower
  | term => exact (agrees_term agree).lower
  | factor => exact (agrees_factor agree).lower
  | unary => exact (agrees_unary agree).lower
  | call => exact (agrees_call agree).lower
  | primary => exact (agrees_primary agree).lower
  | strandedOperand operator => exact agrees_strandedOperand agree operator
  | skip => exact .skip
  | accept kind => exact .accept_alone kind
  | expect kind what => exact .expect_alone kind what
  | synchronize => exact .synchronize
  | inLoop reader ih => exact .inLoop ih
  | inFunction reader ih => exact .inFunction ih

end

end Lox.Parser
