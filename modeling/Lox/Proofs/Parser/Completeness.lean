import Lox.Proofs.Parser.Accepting
import Lox.Proofs.Parser.Soundness

/-!
# What is derived is read without errors

Before the tokens of a derivation, and then tokens that cannot go on with it, each rule of the
parser takes exactly the tokens of the derivation, gives its tree and changes nothing else. The
induction is on the derivation. For operators that group to the left the induction says more: the
tree so far is what the parser has grown before it looks for the next operator.
-/

namespace Lox.Parser

open Lox.Grammar
open Lox.Token (Kind)

variable {α : Type} {place : Place} {tokens rest : List Token}

/-! ## Levels -/

/-- The level at which a kind goes on with what stands before it. -/
def continuedAt : Kind → Option Tier
  | .leftParen | .dot => some .call
  | .star | .slash => some .factor
  | .plus | .minus => some .term
  | .less | .lessEqual | .greater | .greaterEqual => some .comparison
  | .equalEqual | .bangEqual => some .equality
  | .kwAnd => some .and
  | .kwOr => some .or
  | .question => some .conditional
  | .equal => some .assignment
  | .comma => some .comma
  | _ => none

def rank : Tier → Nat
  | .comma => 0
  | .assignment => 1
  | .conditional => 2
  | .or => 3
  | .and => 4
  | .equality => 5
  | .comparison => 6
  | .term => 7
  | .factor => 8
  | .unary => 9
  | .call => 10
  | .primary => 11

/-- A token of this kind cannot go on with an expression of a level. -/
def StopsAt (tier : Tier) (kind : Kind) : Prop :=
  ∀ other, continuedAt kind = some other → rank other < rank tier

instance (tier : Tier) (kind : Kind) : Decidable (StopsAt tier kind) :=
  inferInstanceAs (Decidable (∀ other ∈ continuedAt kind, rank other < rank tier))

/-- What follows cannot go on with an expression of a level. -/
def Stops (tier : Tier) (rest : List Token) : Prop :=
  ∀ token, rest.head? = some token → StopsAt tier token.kind

theorem rank_next {tier next : Tier} (below : tier.next? = some next) :
    rank next = rank tier + 1 := by
  cases tier <;> cases below <;> rfl

theorem continuedAt_of_joins {tier : Tier} {kind : Kind} {node : Token → Expr → Expr → Expr}
    (joins : Joins tier kind node) : continuedAt kind = some tier := by
  cases joins <;> rfl

theorem Stops.tighter {tier next : Tier} (stops : Stops tier rest)
    (below : tier.next? = some next) : Stops next rest := by
  intro token head other goesOn
  rw [rank_next below]
  exact Nat.lt_succ_of_lt (stops token head other goesOn)

theorem stops_of_kind {tier : Tier} {token : Token} {kind : Kind} (isKind : token.kind = kind)
    (stops : StopsAt tier kind) (rest : List Token) : Stops tier (token :: rest) := by
  rintro first head
  cases head
  exact isKind ▸ stops

theorem stops_semicolon {semicolon : Token} (ends : semicolon.kind = .semicolon)
    (rest : List Token) : Stops .comma (semicolon :: rest) :=
  stops_of_kind ends (by decide) rest

theorem stops_rightParen {closing : Token} (closes : closing.kind = .rightParen)
    (rest : List Token) : Stops .comma (closing :: rest) :=
  stops_of_kind closes (by decide) rest

/-- An operator ends its left operand. -/
theorem stops_of_joins {tier next : Tier} {operator : Token} {node : Token → Expr → Expr → Expr}
    (joins : Joins tier operator.kind node) (below : tier.next? = some next) (rest : List Token) :
    Stops next (operator :: rest) := by
  rintro first head other goesOn
  cases head
  rw [continuedAt_of_joins joins, Option.some.injEq] at goesOn
  subst goesOn
  rw [rank_next below]
  exact Nat.lt_succ_self _

theorem Stops.head_ne {tier : Tier} {kind : Kind} (stops : Stops tier rest)
    (goesOn : ¬ StopsAt tier kind) : ∀ token, rest.head? = some token → token.kind ≠ kind := by
  rintro token head rfl
  exact goesOn (stops token head)

theorem stops_primary (rest : List Token) : Stops .primary rest := by
  intro token _
  cases token.kind <;> decide

theorem Stops.headIs {tier : Tier} {kind : Kind} (stops : Stops tier rest)
    (goesOn : ¬ StopsAt tier kind) : headIs kind rest = false := by
  cases rest with
  | nil => rfl
  | cons token tail =>
    rw [headIs_cons, decide_eq_false_iff_not]
    exact stops.head_ne goesOn token rfl

/-- The parser of a level. -/
def tierParser (rules : Rules) : Tier → Parser Expr
  | .comma => expression rules
  | .assignment => assignment rules
  | .conditional => conditional rules
  | .or => disjunction rules
  | .and => conjunction rules
  | .equality => equality rules
  | .comparison => comparison rules
  | .term => term rules
  | .factor => factor rules
  | .unary => unary rules
  | .call => call rules
  | .primary => primary rules

/-- One more operator of a level with its right operand. -/
def leftStep (level : Level) (operand : Parser Expr) (left : Expr) : Parser (Option Expr) := do
  match ← accept? level.join? with
  | some join => return some (join left (← operand))
  | none => return none

theorem tierParser_level {rules : Rules} {level : Level} {next : Tier}
    (below : level.tier.next? = some next) :
    tierParser rules level.tier =
      tierParser rules next >>= grow (leftStep level (tierParser rules next)) := by
  cases level <;> cases below <;> rfl

/-- One more pair of parentheses or one more property name. -/
def callStep (rules : Rules) (callee : Expr) : Parser (Option Expr) := do
  if ← accept .leftParen then
    let arguments ← untilParen .tooManyArguments rules.assignment
    let paren ← expect .rightParen .afterArguments
    return some (.call callee paren arguments)
  else if ← accept .dot then
    return some (.get callee (← expect .identifier .propertyName))
  else return none

theorem leftStep_stops {level : Level} {operand : Parser Expr} {left : Expr}
    (stops : Stops level.tier rest) :
    Accepts place (leftStep level operand left) [] rest none := by
  refine .accept?_none (fun token head => ?_) (.pure none)
  cases found : level.join? token with
  | none => rfl
  | some join =>
    obtain ⟨node, joins, -⟩ := Level.joins_of_join? found
    exact absurd (stops token head _ (continuedAt_of_joins joins)) (Nat.lt_irrefl _)

theorem callStep_stops {rules : Rules} {callee : Expr} (stops : Stops .call rest) :
    Accepts place (callStep rules callee) [] rest none :=
  .accept_not (stops.headIs (by decide))
    (.accept_not (stops.headIs (by decide)) (.pure none))

/-- How the tokens of an expression are read. -/
structure ExprRead (tier : Tier) (tokens : List Token) (expr : Expr) : Prop where
  accepts : ∀ {depth place rest}, tokens.length ≤ depth → Stops tier rest →
    Accepts place (tierParser (rules depth) tier) tokens rest expr
  grows : ∀ {level next}, level.tier = tier → tier.next? = some next → ∀ {depth place rest},
    tokens.length ≤ depth → Stops next rest →
    Grows place (tierParser (rules depth) tier) (leftStep level (tierParser (rules depth) next))
      tokens rest expr
  chains : tier = .call → ∀ {depth place rest}, tokens.length ≤ depth →
    Grows place (call (rules depth)) (callStep (rules depth)) tokens rest expr

/-- How the tokens of a derivation are read. -/
def Read : (n : Nonterminal) → List Token → n.Tree → Prop
  | .expr tier, tokens, expr => ExprRead tier tokens expr
  | .optional, tokens, value =>
    match value with
    | none => tokens = []
    | some expr => ExprRead .comma tokens expr ∧ BeginsWith Tier.comma.begins tokens
  | .elements, tokens, exprs => ∀ {depth place rest count rounds}, tokens.length ≤ depth →
    Stops .comma rest → count + exprs.length ≤ 255 → tokens.length < rounds →
    Accepts place (separatedFor .tooManyArguments (assignment (rules depth)) count rounds) tokens
      rest exprs
  | .arguments, tokens, exprs => ∀ {depth place rest}, tokens.length ≤ depth →
    headIs .rightParen rest = true →
    Accepts place (untilParen .tooManyArguments (assignment (rules depth))) tokens rest exprs
  | .routine, tokens, routine => ∀ {depth place rest role opening}, tokens.length ≤ depth →
    Accepts place (Parser.routine (rules depth) role opening) tokens rest routine
  | .methods, tokens, methods => ∀ {depth place rest rounds}, tokens.length ≤ depth →
    tokens.length ≤ rounds → headIs .rightBrace rest = true →
    Accepts place (collectFor (untilBrace (namedRoutine (rules depth) .method)) rounds) tokens rest
      methods
  | .definition, tokens, stmt => ∃ keyword tail, tokens = keyword :: tail ∧
    keyword.kind = .kwLet ∧ ∀ {depth place rest}, tail.length ≤ depth →
      Accepts place (letDeclaration (rules depth)) tail rest stmt
  | .initializer, tokens, first => ∀ {depth place rest}, tokens.length ≤ depth →
    Accepts place (forInitializer (rules depth)) tokens rest first
  | .statement place closed, tokens, stmt => ∀ {depth rest}, tokens.length ≤ depth →
    (closed = false → headIs .kwElse rest = false) →
    Accepts place (statement (rules depth)) tokens rest stmt
  | .declaration place, tokens, stmt => ∀ {depth rest}, tokens.length ≤ depth →
    headIs .kwElse rest = false → Accepts place (declared (rules depth)) tokens rest stmt
  | .block place, tokens, stmts => ∀ {depth rest rounds} {item : Parser (Option (Option Stmt))},
    tokens.length ≤ depth → tokens.length ≤ rounds → headIs .kwElse rest = false →
    Accepts place item [] rest none →
    (∀ {tokens rest stmt}, BeginsWith declarationBegins tokens →
      Accepts place (declared (rules depth)) tokens rest stmt →
      Accepts place item tokens rest (some (some stmt))) →
    Accepts place (collectFor item rounds) tokens rest (stmts.map some)

/-! ## Expressions -/

namespace ExprRead

variable {tier next : Tier} {expr left right : Expr}

theorem of_grows (level : Level) (below : level.tier.next? = some next)
    (grows : ∀ {depth place rest}, tokens.length ≤ depth → Stops next rest →
      Grows place (tierParser (rules depth) level.tier)
        (leftStep level (tierParser (rules depth) next)) tokens rest expr) :
    ExprRead level.tier tokens expr where
  accepts short stops := (grows short (stops.tighter below)).stop (leftStep_stops stops)
  grows := by
    intro other after same below'
    obtain rfl : other = level := by cases other <;> cases level <;> first | rfl | cases same
    obtain rfl := Option.some.inj (below.symm.trans below')
    exact grows
  chains := by cases level <;> exact fun absurd => nomatch absurd

theorem of_chains (chains : ∀ {depth place rest}, tokens.length ≤ depth →
      Grows place (call (rules depth)) (callStep (rules depth)) tokens rest expr) :
    ExprRead .call tokens expr where
  accepts short stops := (chains short).stop (callStep_stops stops)
  grows := by intro level; cases level <;> exact fun absurd => nomatch absurd
  chains _ := chains

theorem of_accepts (plain : tier ∈ [.assignment, .conditional, .unary, .primary])
    (accepts : ∀ {depth place rest}, tokens.length ≤ depth → Stops tier rest →
      Accepts place (tierParser (rules depth) tier) tokens rest expr) :
    ExprRead tier tokens expr where
  accepts := accepts
  grows := by
    intro level _ same
    subst same
    cases level <;> simp [Level.tier] at plain
  chains := by
    rintro rfl
    simp at plain

/-- A tighter expression stands for itself where nothing goes on with it. -/
theorem tighter (below : tier.next? = some next) (read : ExprRead next tokens expr)
    (begins : BeginsWith next.begins tokens) : ExprRead tier tokens expr := by
  have left_grouped : ∀ level : Level, level.tier = tier → ExprRead tier tokens expr := by
    rintro level rfl
    refine of_grows level below fun short stops => ?_
    rw [tierParser_level below]
    exact .start (read.accepts short stops)
  cases tier with
  | comma => exact left_grouped .comma rfl
  | or => exact left_grouped .or rfl
  | and => exact left_grouped .and rfl
  | equality => exact left_grouped .equality rfl
  | comparison => exact left_grouped .comparison rfl
  | term => exact left_grouped .term rfl
  | factor => exact left_grouped .factor rfl
  | assignment =>
    cases below
    refine of_accepts (by simp) fun short stops => ?_
    refine .bind_nil (read.accepts short (stops.tighter rfl)) (.accept?_none ?_ (.pure expr))
    intro token head
    exact if_neg (stops.head_ne (by decide) token head)
  | conditional =>
    cases below
    refine of_accepts (by simp) fun short stops => ?_
    refine .bind_nil (read.accepts short (stops.tighter rfl)) (.accept_not ?_ (.pure expr))
    exact stops.headIs (by decide)
  | unary =>
    cases below
    refine of_accepts (by simp) fun short stops => ?_
    refine .accept?_none ?_ (read.accepts short (stops.tighter rfl))
    obtain ⟨first, others, rfl, known⟩ := begins
    intro token head
    cases head
    unfold sign?
    split <;> simp_all [Tier.begins]
  | call =>
    cases below
    exact of_chains fun short => .start (read.accepts short (stops_primary _))
  | primary => cases below

/-- From a call up to a conditional. -/
theorem climb (read : ExprRead .call tokens expr) (begins : BeginsWith Tier.call.begins tokens) :
    ExprRead .conditional tokens expr := by
  have loosen : ∀ (tier : Tier) {next : Tier}, tier.next? = some next →
      ExprRead next tokens expr ∧ BeginsWith next.begins tokens →
      ExprRead tier tokens expr ∧ BeginsWith tier.begins tokens :=
    fun _ _ below known => ⟨known.1.tighter below known.2, known.2.mono (Tier.begins_of_next below)⟩
  have unary := loosen .unary rfl ⟨read, begins⟩
  have factor := loosen .factor rfl unary
  have term := loosen .term rfl factor
  have comparison := loosen .comparison rfl term
  have equality := loosen .equality rfl comparison
  have and := loosen .and rfl equality
  have or := loosen .or rfl and
  exact (loosen .conditional rfl or).1

theorem join {lefts rights : List Token} {operator : Token} {node : Token → Expr → Expr → Expr}
    (joins : Joins tier operator.kind node) (below : tier.next? = some next)
    (first : ExprRead tier lefts left) (second : ExprRead next rights right) :
    ExprRead tier (lefts ++ operator :: rights) (node operator left right) := by
  obtain ⟨level, rfl⟩ : ∃ level : Level, level.tier = tier := by
    generalize operator.kind = kind at joins
    cases joins
    exacts [⟨.comma, rfl⟩, ⟨.or, rfl⟩, ⟨.and, rfl⟩, ⟨.equality, rfl⟩, ⟨.equality, rfl⟩,
      ⟨.comparison, rfl⟩, ⟨.comparison, rfl⟩, ⟨.comparison, rfl⟩, ⟨.comparison, rfl⟩, ⟨.term, rfl⟩,
      ⟨.term, rfl⟩, ⟨.factor, rfl⟩, ⟨.factor, rfl⟩]
  refine of_grows level below fun short stops => ?_
  simp only [List.length_append, List.length_cons] at short
  refine .again (first.grows rfl below (by omega) (stops_of_joins joins below _)) (by simp) ?_
  refine .accept?_some (Level.join?_of_joins joins) ?_
  exact .bind_nil (second.accepts (by omega) stops) (.pure _)

theorem atom {token : Token} (alone : Atom token expr) : ExprRead .primary [token] expr := by
  refine of_accepts (by simp) fun _ _ => .peek ?_
  cases alone <;> simp only [*] <;> exact .skip (.pure _)

theorem super {keyword dot name : Token} (isSuper : keyword.kind = .kwSuper)
    (isDot : dot.kind = .dot) (isName : name.kind = .identifier) :
    ExprRead .primary [keyword, dot, name] (.super keyword name) := by
  refine of_accepts (by simp) fun _ _ => .peek ?_
  simp only [isSuper]
  exact .skip (.expect isDot (.expect isName (.pure _)))

theorem grouping {opening closing : Token} {inside : List Token} {inner : Expr}
    (opens : opening.kind = .leftParen) (grouped : ExprRead .comma inside inner)
    (closes : closing.kind = .rightParen) :
    ExprRead .primary (opening :: inside ++ [closing]) (.grouping inner) := by
  refine of_accepts (by simp) fun {depth _ rest} short _ => .peek ?_
  simp only [opens]
  cases depth with
  | zero => simp at short
  | succ depth =>
    simp only [List.cons_append, List.length_cons, List.length_append] at short
    exact .skip (.bind (grouped.accepts (by omega) (stops_rightParen closes _))
      (.expect closes (.pure _)))

theorem lambda {keyword : Token} {routine : Routine} (isFun : keyword.kind = .kwFun)
    (does : Read .routine tokens routine) :
    ExprRead .primary (keyword :: tokens) (.lambda routine) := by
  refine of_accepts (by simp) fun short _ => .peek ?_
  simp only [isFun]
  exact .skip (.bind_nil (does (Nat.le_of_lt short)) (.pure _))

theorem get {objects : List Token} {dot name : Token} {object : Expr}
    (owner : ExprRead .call objects object) (isDot : dot.kind = .dot)
    (isName : name.kind = .identifier) :
    ExprRead .call (objects ++ [dot, name]) (.get object name) := by
  refine of_chains fun short => ?_
  rw [List.length_append] at short
  refine .again (owner.chains rfl (by omega)) (by simp) ?_
  exact .accept_not (by simp [isDot]) (.accept isDot (.expect isName (.pure _)))

theorem call {callees inside : List Token} {opening closing : Token} {callee : Expr}
    {arguments : List Expr} (called : ExprRead .call callees callee)
    (opens : opening.kind = .leftParen) (given : Read .arguments inside arguments)
    (closes : closing.kind = .rightParen) :
    ExprRead .call (callees ++ opening :: inside ++ [closing])
      (.call callee closing arguments) := by
  refine of_chains fun {depth _ _} short => ?_
  cases depth with
  | zero => simp at short
  | succ depth =>
    rw [List.append_assoc, List.length_append] at short
    simp only [List.cons_append, List.length_cons, List.length_append] at short
    rw [List.append_assoc]
    refine .again (called.chains rfl (by omega)) (by simp) ?_
    exact .accept opens (.bind (given (by omega) (by simp [closes])) (.expect closes (.pure _)))

theorem sign {operator : Token} {op : UnaryOp} {operands : List Token} {operand : Expr}
    (signs : Signs operator.kind op) (signed : ExprRead .unary operands operand) :
    ExprRead .unary (operator :: operands) (.unary op operator operand) := by
  have chosen : sign? operator = some (.unary op operator) := by
    generalize isKind : operator.kind = kind at signs
    cases signs <;> simp [sign?, isKind]
  refine of_accepts (by simp) fun {depth _ _} short stops => ?_
  cases depth with
  | zero => simp at short
  | succ depth =>
    exact .accept?_some chosen (.bind_nil (signed.accepts (Nat.le_of_succ_le_succ short) stops)
      (.pure _))

theorem conditional {conditions yeses noes : List Token} {question colon : Token}
    {condition yes no : Expr} (tested : ExprRead .or conditions condition)
    (isQuestion : question.kind = .question) (chosen : ExprRead .comma yeses yes)
    (isColon : colon.kind = .colon) (other : ExprRead .conditional noes no) :
    ExprRead .conditional (conditions ++ question :: yeses ++ colon :: noes)
      (.conditional condition yes no) := by
  refine of_accepts (by simp) fun {depth _ _} short stops => ?_
  cases depth with
  | zero => simp at short
  | succ depth =>
    simp only [List.append_assoc, List.cons_append, List.length_cons, List.length_append] at short ⊢
    refine .bind (tested.accepts (by omega)
      (stops_of_kind isQuestion (by decide) _)) (.accept isQuestion ?_)
    refine .bind (chosen.accepts (by omega)
      (stops_of_kind isColon (by decide) _)) (.expect isColon ?_)
    exact .bind_nil (other.accepts (by omega) stops) (.pure _)

/-- The target is read as a conditional before the equals sign is seen. -/
theorem assignTo {targets values : List Token} {equals : Token} {target value assigned : Expr}
    (read : ExprRead .conditional targets target) (isEquals : equals.kind = .equal)
    (assigns : ExprRead .assignment values value)
    (result : (∃ name, target = .var name ∧ assigned = .assign name value) ∨
      ∃ object name, target = .get object name ∧ assigned = .set object name value) :
    ExprRead .assignment (targets ++ equals :: values) assigned := by
  refine of_accepts (by simp) fun {depth _ _} short stops => ?_
  cases depth with
  | zero => simp at short
  | succ depth =>
    simp only [List.length_cons, List.length_append] at short
    refine .bind (read.accepts (by omega)
      (stops_of_kind isEquals (by decide) _))
      (.accept?_some (if_pos isEquals) ?_)
    refine .bind_nil (assigns.accepts (by omega) stops) ?_
    rcases result with ⟨name, rfl, rfl⟩ | ⟨object, name, rfl, rfl⟩
    · exact .pure _
    · exact .pure _

theorem assign {name equals : Token} {values : List Token} {value : Expr}
    (isName : name.kind = .identifier) (isEquals : equals.kind = .equal)
    (assigned : ExprRead .assignment values value) :
    ExprRead .assignment (name :: equals :: values) (.assign name value) := by
  have begins := (begins_of_atom (.var isName)).1
  have target : ExprRead .call [name] (.var name) := tighter rfl (atom (.var isName)) begins
  exact assignTo (target.climb (begins.mono (Tier.begins_of_next rfl))) isEquals assigned
    (.inl ⟨name, rfl, rfl⟩)

theorem set {objects values : List Token} {dot name equals : Token} {object value : Expr}
    (owner : ExprRead .call objects object) (begins : BeginsWith Tier.call.begins objects)
    (isDot : dot.kind = .dot) (isName : name.kind = .identifier) (isEquals : equals.kind = .equal)
    (assigned : ExprRead .assignment values value) :
    ExprRead .assignment (objects ++ dot :: name :: equals :: values) (.set object name value) := by
  have target := (owner.get isDot isName).climb (begins.append _)
  simpa using assignTo target isEquals assigned (.inr ⟨object, name, rfl, rfl⟩)

end ExprRead

/-! ## Lists and routines -/

/-- Nothing closing begins an expression. -/
theorem headIs_of_begins {kinds : Kind → Bool} {kind : Kind} (begins : BeginsWith kinds tokens)
    (outside : kinds kind = false) (rest : List Token) : headIs kind (tokens ++ rest) = false := by
  obtain ⟨first, others, rfl, known⟩ := begins
  rw [List.cons_append, headIs_cons, decide_eq_false_iff_not]
  rintro rfl
  rw [outside] at known
  cases known

theorem read_lastElement {expr : Expr} (read : ExprRead .assignment tokens expr) :
    Read .elements tokens [expr] := by
  intro depth place rest count rounds short stops few enough
  exact .lastElement (read.accepts short (stops.tighter rfl))
    (stops.headIs (by decide)) few (by omega)

theorem read_moreElements {others : List Token} {comma : Token} {expr : Expr} {exprs : List Expr}
    (read : ExprRead .assignment tokens expr) (isComma : comma.kind = .comma)
    (between : Read .elements others exprs) :
    Read .elements (tokens ++ comma :: others) (expr :: exprs) := by
  intro depth place rest count rounds short stops few enough
  simp only [List.length_append, List.length_cons] at short few enough
  obtain ⟨fewer, rfl⟩ : ∃ fewer, rounds = fewer + 1 := ⟨rounds - 1, by omega⟩
  refine .moreElements (read.accepts (by omega) ?_) isComma (by omega)
    (between (by omega) stops (by omega) (by omega))
  exact stops_of_kind isComma (by decide) _

theorem read_someArguments {exprs : List Expr} (between : Read .elements tokens exprs)
    (begins : BeginsWith Tier.comma.begins tokens) (few : exprs.length ≤ 255) :
    Read .arguments tokens exprs := by
  intro depth place rest short closes
  refine .untilParen (headIs_of_begins begins rfl rest)
    fun enough => between short ?_ (by omega) enough
  cases rest with
  | nil => cases closes
  | cons token tail =>
    exact stops_rightParen (of_decide_eq_true closes) tail

theorem accepts_names {names : List Token} (between : Names tokens names)
    (stops : headIs .comma rest = false) {count rounds : Nat} (few : count + names.length ≤ 255)
    (enough : tokens.length < rounds) :
    Accepts place (separatedFor .tooManyParameters (expect .identifier .parameterName) count rounds)
      tokens rest names := by
  have one : ∀ {name : Token} {rest : List Token}, name.kind = .identifier →
      Accepts place (expect .identifier .parameterName) [name] rest name :=
    fun isName => fun state _ _ before => run_expect_ok before isName
  induction between generalizing count rounds with
  | last isName => exact .lastElement (one isName) stops few (by omega)
  | more isName isComma _ ih =>
    simp only [List.length_cons] at few enough
    obtain ⟨fewer, rfl⟩ : ∃ fewer, rounds = fewer + 1 := ⟨rounds - 1, by omega⟩
    exact .moreElements (one isName) isComma (by omega) (ih (by omega) (by omega))

theorem accepts_parameters {params : List Token} (takes : Parameters tokens params)
    (closes : headIs .rightParen rest = true) :
    Accepts place (untilParen .tooManyParameters (expect .identifier .parameterName)) tokens rest
      params := by
  cases takes with
  | none => exact .untilParen_nil closes
  | some between few =>
    refine .untilParen ?_ fun enough => accepts_names between ?_ (by omega) enough
    · cases between <;> simp_all
    · cases rest with
      | nil => rfl
      | cons token tail => simp_all

theorem reduceOption_map_some (as : List α) : (as.map some).reduceOption = as := by
  simp [List.reduceOption]

/-- A declaration without errors is kept. -/
theorem accepts_declaration {rules : Rules} {stmt : Stmt}
    (read : Accepts place (declared rules) tokens rest stmt) :
    Accepts place (declaration rules) tokens rest (some stmt) := by
  intro state isEnd samePlace before
  unfold declaration
  rw [read state isEnd samePlace before]
  simp

theorem accepts_block {depth : Nat} {closing : Token} {body : List Stmt}
    (inside : Read (.block place) tokens body) (closes : closing.kind = .rightBrace)
    (short : tokens.length ≤ depth) :
    Accepts place (block (rules (depth + 1))) (tokens ++ [closing]) rest body := by
  have items : Accepts place (collect (untilBrace (rules (depth + 1)).declaration)) tokens
      ([closing] ++ rest) (body.map some) := by
    refine .get fun state _ before => inside short ?_ (by simp [closes])
      (.untilBrace_stop (by simp [closes])) fun begins read => ?_
    · rw [before, List.length_append]
      omega
    · exact .untilBrace (accepts_declaration read) begins.ne_nil (headIs_of_begins begins rfl _)
  refine .bind items (.expect closes ?_)
  rw [reduceOption_map_some]
  exact .pure _

theorem read_done : Read (.block place) [] [] := by
  intro depth rest rounds item _ _ _ stop _
  cases rounds with
  | zero => exact .pure _
  | succ rounds => exact .bind_nil stop (.pure _)

theorem read_next {others : List Token} {stmt : Stmt} {stmts : List Stmt}
    (first : Read (.declaration place) tokens stmt) (begins : BeginsWith declarationBegins tokens)
    (later : Read (.block place) others stmts)
    (separate : others = [] ∨ BeginsWith declarationBegins others) :
    Read (.block place) (tokens ++ others) (stmt :: stmts) := by
  intro depth rest rounds item short enough stops stop go
  simp only [List.length_append] at short enough
  have positive := List.length_pos_iff.mpr begins.ne_nil
  obtain ⟨fewer, rfl⟩ : ∃ fewer, rounds = fewer + 1 := ⟨rounds - 1, by omega⟩
  have parted : headIs .kwElse (others ++ rest) = false := by
    rcases separate with rfl | begins
    · exact stops
    · exact headIs_of_begins begins rfl rest
  exact .bind (go begins (first (by omega) parted))
    (.bind_nil (later (by omega) (by omega) stops stop go) (.pure _))

theorem read_routine {opening closing openBrace closeBrace : Token} {names params : List Token}
    {body : List Stmt} (opens : opening.kind = .leftParen) (takes : Parameters names params)
    (closes : closing.kind = .rightParen) (opensBody : openBrace.kind = .leftBrace)
    (does : Read (.block .routineBody) tokens body) (closesBody : closeBrace.kind = .rightBrace) :
    Read .routine (opening :: names ++ closing :: openBrace :: tokens ++ [closeBrace])
      ⟨params, body⟩ := by
  intro depth place rest role what short
  cases depth with
  | zero => simp at short
  | succ depth =>
    simp only [List.append_assoc, List.cons_append, List.length_cons, List.length_append] at short ⊢
    refine .expect opens (.bind (accepts_parameters takes (by simp [closes])) (.expect closes ?_))
    refine .expect opensBody (.bind_nil ?_ (.pure _))
    exact .inFunction (accepts_block does closesBody (by omega))

theorem read_noMethods : Read .methods [] [] := by
  intro depth place rest rounds _ _ closes
  cases rounds with
  | zero => exact .pure _
  | succ rounds =>
    exact .bind_nil (.untilBrace_stop closes) (.pure _)

theorem read_moreMethods {name : Token} {others : List Token} {routine : Routine}
    {methods : List (Token × Routine)} (isName : name.kind = .identifier)
    (does : Read .routine tokens routine) (later : Read .methods others methods) :
    Read .methods (name :: tokens ++ others) ((name, routine) :: methods) := by
  intro depth place rest rounds short enough closes
  simp only [List.length_cons, List.length_append] at short enough
  obtain ⟨fewer, rfl⟩ : ∃ fewer, rounds = fewer + 1 := ⟨rounds - 1, by omega⟩
  have one : Accepts place (namedRoutine (rules depth) .method) (name :: tokens) (others ++ rest)
      (name, routine) := .expect isName (.bind_nil (does (by omega)) (.pure _))
  exact .bind (one.untilBrace (by simp) (by simp [isName]))
    (.bind_nil (later (by omega) (by omega) closes) (.pure _))

/-! ## Statements -/

theorem accepts_optional {depth : Nat} {value : Option Expr} {closing : Token}
    (read : Read .optional tokens value) (short : tokens.length ≤ depth) {kind : Kind}
    (closes : closing.kind = kind) (outside : Tier.comma.begins kind = false)
    (ends : continuedAt kind = none) :
    Accepts place
      (if headIs kind (tokens ++ closing :: rest) = true then pure none
        else some <$> expression (rules depth)) tokens (closing :: rest) value := by
  cases value with
  | none =>
    subst read
    simp only [List.nil_append, headIs_cons, closes, decide_true, if_true]
    exact .pure _
  | some expr =>
    obtain ⟨read, begins⟩ := read
    rw [headIs_of_begins begins outside]
    exact .map (read.accepts short (stops_of_kind closes (by simp [StopsAt, ends]) rest))

theorem accepts_condition {depth : Nat} {value : Option Expr} {semicolon : Token}
    (read : Read .optional tokens value) (short : tokens.length ≤ depth)
    (ends : semicolon.kind = .semicolon) :
    Accepts place
      (if headIs .semicolon (tokens ++ semicolon :: rest) = true then
        pure (.literal (.bool true)) else expression (rules depth))
      tokens (semicolon :: rest) (value.getD (.literal (.bool true))) := by
  cases value with
  | none =>
    subst read
    simp only [List.nil_append, headIs_cons, ends, decide_true, if_true]
    exact .pure _
  | some expr =>
    obtain ⟨read, begins⟩ := read
    rw [headIs_of_begins begins rfl]
    exact read.accepts short (stops_semicolon ends rest)

theorem read_define {keyword name semicolon : Token} (isLet : keyword.kind = .kwLet)
    (isName : name.kind = .identifier) (ends : semicolon.kind = .semicolon) :
    Read .definition [keyword, name, semicolon] (.define name none) :=
  ⟨keyword, [name, semicolon], rfl, isLet, fun _ =>
    .expect isName (.accept_not (by simp [ends]) (.expect ends (.pure _)))⟩

theorem read_defineAs {keyword name equals semicolon : Token} {value : Expr}
    (isLet : keyword.kind = .kwLet) (isName : name.kind = .identifier)
    (isEquals : equals.kind = .equal) (initial : ExprRead .comma tokens value)
    (ends : semicolon.kind = .semicolon) :
    Read .definition (keyword :: name :: equals :: tokens ++ [semicolon])
      (.define name (some value)) := by
  refine ⟨keyword, name :: equals :: tokens ++ [semicolon], rfl, isLet, fun short => ?_⟩
  simp only [List.length_append, List.length_cons] at short
  refine .expect isName (.accept isEquals (.bind (.map ?_) (.expect ends (.pure _))))
  exact initial.accepts (by omega) (stops_semicolon ends _)

theorem accepts_expressionStatement {depth : Nat} {semicolon : Token} {value : Expr}
    (evaluated : ExprRead .comma tokens value) (ends : semicolon.kind = .semicolon)
    (short : tokens.length ≤ depth) :
    Accepts place (expressionStatement (rules depth)) (tokens ++ [semicolon]) rest
      (.expression value) :=
  .bind (evaluated.accepts short (stops_semicolon ends _)) (.expect ends (.pure _))

theorem read_noInitializer {semicolon : Token} (ends : semicolon.kind = .semicolon) :
    Read .initializer [semicolon] none :=
  fun _ => .accept ends (.pure _)

theorem read_definitionInitializer {stmt : Stmt} (defines : Read .definition tokens stmt) :
    Read .initializer tokens (some stmt) := by
  obtain ⟨keyword, tail, rfl, isLet, read⟩ := defines
  intro depth place rest short
  exact .accept_not (by simp [isLet])
    (.accept isLet (.bind_nil (read (Nat.le_of_lt short)) (.pure _)))

theorem read_expressionInitializer {semicolon : Token} {value : Expr}
    (evaluated : ExprRead .comma tokens value) (begins : BeginsWith Tier.comma.begins tokens)
    (ends : semicolon.kind = .semicolon) :
    Read .initializer (tokens ++ [semicolon]) (some (.expression value)) := by
  intro depth place rest short
  rw [List.length_append] at short
  refine .accept_not (headIs_of_begins (begins.append _) rfl rest)
    (.accept_not (headIs_of_begins (begins.append _) rfl rest) ?_)
  exact .bind_nil (accepts_expressionStatement evaluated ends (by omega)) (.pure _)

section

variable {closed : Bool}

theorem read_expression {semicolon : Token} {value : Expr}
    (evaluated : ExprRead .comma tokens value) (begins : BeginsWith Tier.comma.begins tokens)
    (ends : semicolon.kind = .semicolon) :
    Read (.statement place closed) (tokens ++ [semicolon]) (.expression value) := by
  intro depth rest short _
  rw [List.length_append] at short
  have read : Accepts place (expressionStatement (rules depth)) (tokens ++ [semicolon]) rest
      (.expression value) := accepts_expressionStatement evaluated ends (by omega)
  obtain ⟨first, others, rfl, known⟩ := begins
  refine .peek ?_
  split <;> simp_all [Tier.begins]

theorem read_print {keyword semicolon : Token} {value : Expr} (isPrint : keyword.kind = .kwPrint)
    (printed : ExprRead .comma tokens value) (ends : semicolon.kind = .semicolon) :
    Read (.statement place closed) (keyword :: tokens ++ [semicolon]) (.print value) := by
  intro depth rest short _
  simp only [List.length_append, List.length_cons] at short
  refine .peek ?_
  simp only [isPrint]
  exact .skip (.bind (printed.accepts (by omega) (stops_semicolon ends _)) (.expect ends (.pure _)))

theorem read_giveBack {keyword semicolon : Token} {value : Option Expr}
    (isReturn : keyword.kind = .kwReturn) (allowed : place.inFunction = true)
    (given : Read .optional tokens value) (ends : semicolon.kind = .semicolon) :
    Read (.statement place closed) (keyword :: tokens ++ [semicolon])
      (.giveBack keyword value) := by
  intro depth rest short _
  simp only [List.cons_append, List.length_append, List.length_cons] at short ⊢
  refine .peek ?_
  simp only [isReturn]
  refine .skip (.get fun state samePlace _ => ?_)
  have inside : ¬ state.functionDepth = 0 := by
    rw [← samePlace] at allowed
    exact Nat.pos_iff_ne_zero.mp (of_decide_eq_true allowed)
  simp only [inside, if_false]
  refine .check (by decide) ?_
  rw [ite_bind, List.append_assoc]
  exact .bind (accepts_optional given (by omega) ends rfl rfl) (.expect ends (.pure _))

/-- Inside a loop a jump needs only its semicolon. -/
theorem accepts_jumpStatement (keyword : Token) {semicolon : Token}
    (allowed : place.inLoop = true) (ends : semicolon.kind = .semicolon) (rest : List Token) :
    Accepts place (jumpStatement keyword) [semicolon] rest
      (if keyword.kind = .kwBreak then .breakLoop keyword else .continueLoop keyword) := by
  refine .get fun state samePlace _ => ?_
  have inside : ¬ state.loopDepth = 0 := by
    rw [← samePlace] at allowed
    exact Nat.pos_iff_ne_zero.mp (of_decide_eq_true allowed)
  simp only [inside, if_false]
  exact .expect ends (.pure _)

theorem read_breakLoop {keyword semicolon : Token} (isBreak : keyword.kind = .kwBreak)
    (allowed : place.inLoop = true) (ends : semicolon.kind = .semicolon) :
    Read (.statement place closed) [keyword, semicolon] (.breakLoop keyword) := by
  intro depth rest _ _
  have read := accepts_jumpStatement keyword allowed ends rest
  refine .peek ?_
  simp only [isBreak, if_true] at read ⊢
  exact .skip read

theorem read_continueLoop {keyword semicolon : Token} (isContinue : keyword.kind = .kwContinue)
    (allowed : place.inLoop = true) (ends : semicolon.kind = .semicolon) :
    Read (.statement place closed) [keyword, semicolon] (.continueLoop keyword) := by
  intro depth rest _ _
  have read := accepts_jumpStatement keyword allowed ends rest
  refine .peek ?_
  simp only [isContinue, reduceCtorEq, if_false] at read ⊢
  exact .skip read

theorem read_braces {opening closing : Token} {body : List Stmt}
    (opens : opening.kind = .leftBrace) (inside : Read (.block place) tokens body)
    (closes : closing.kind = .rightBrace) :
    Read (.statement place closed) (opening :: tokens ++ [closing]) (.block body) := by
  intro depth rest short _
  cases depth with
  | zero => simp at short
  | succ depth =>
    simp only [List.length_append, List.length_cons] at short
    refine .peek ?_
    simp only [opens]
    exact .skip (.bind_nil (accepts_block inside closes (by omega)) (.pure _))

theorem read_whileLoop {keyword opening closing : Token} {conditions bodies : List Token}
    {condition : Expr} {body : Stmt} (isWhile : keyword.kind = .kwWhile)
    (opens : opening.kind = .leftParen) (tested : ExprRead .comma conditions condition)
    (closes : closing.kind = .rightParen)
    (repeated : Read (.statement place.loopBody closed) bodies body) :
    Read (.statement place closed) (keyword :: opening :: conditions ++ closing :: bodies)
      (.loop condition body none) := by
  intro depth rest short apart
  cases depth with
  | zero => simp at short
  | succ depth =>
    simp only [List.length_append, List.length_cons] at short
    refine .peek ?_
    simp only [isWhile]
    refine .skip (.expect opens (.bind (tested.accepts (by omega) (stops_rightParen closes _))
      (.expect closes ?_)))
    exact .bind_nil (.inLoop (repeated (by omega) apart)) (.pure _)

theorem read_forLoop {keyword opening semicolon closing : Token}
    {firsts conditions increments bodies : List Token} {first : Option Stmt}
    {condition increment : Option Expr} {body : Stmt}
    (isFor : keyword.kind = .kwFor) (opens : opening.kind = .leftParen)
    (starts : Read .initializer firsts first) (tested : Read .optional conditions condition)
    (ends : semicolon.kind = .semicolon) (advances : Read .optional increments increment)
    (closes : closing.kind = .rightParen)
    (repeated : Read (.statement place.loopBody closed) bodies body) :
    Read (.statement place closed)
      (keyword :: opening :: firsts ++ conditions ++ semicolon :: increments ++ closing :: bodies)
      (forTree first condition increment body) := by
  intro depth rest short apart
  cases depth with
  | zero => simp at short
  | succ depth =>
    simp only [List.append_assoc, List.cons_append, List.length_append, List.length_cons] at short ⊢
    refine .peek ?_
    simp only [isFor]
    refine .skip (.expect opens (.bind (starts (by omega)) (.check (by decide) ?_)))
    rw [ite_bind, List.append_assoc]
    refine .bind (accepts_condition tested (by omega) ends) (.expect ends (.check (by decide) ?_))
    rw [ite_bind, List.append_assoc]
    refine .bind (accepts_optional advances (by omega) closes rfl rfl) (.expect closes ?_)
    refine .bind_nil (.inLoop (repeated (by omega) apart)) ?_
    cases first with
    | none => exact .pure _
    | some first => exact .pure _

theorem read_branch {keyword opening closing otherwise : Token}
    {conditions yeses noes : List Token} {condition : Expr} {yes no : Stmt}
    (isIf : keyword.kind = .kwIf) (opens : opening.kind = .leftParen)
    (tested : ExprRead .comma conditions condition) (closes : closing.kind = .rightParen)
    (chosen : Read (.statement place true) yeses yes) (isElse : otherwise.kind = .kwElse)
    (other : Read (.statement place closed) noes no) :
    Read (.statement place closed)
      (keyword :: opening :: conditions ++ closing :: yeses ++ otherwise :: noes)
      (.branch condition yes (some no)) := by
  intro depth rest short apart
  cases depth with
  | zero => simp at short
  | succ depth =>
    simp only [List.append_assoc, List.cons_append, List.length_append, List.length_cons] at short ⊢
    refine .peek ?_
    simp only [isIf]
    refine .skip (.expect opens (.bind (tested.accepts (by omega) (stops_rightParen closes _))
      (.expect closes ?_)))
    refine .bind (chosen (by omega) (fun absurd => nomatch absurd)) (.accept isElse ?_)
    exact .bind_nil (.map (other (by omega) apart)) (.pure _)

/-- Nothing but an `else` would go on with an `if`. -/
theorem read_branchAlone {keyword opening closing : Token} {conditions yeses : List Token}
    {condition : Expr} {yes : Stmt} (isIf : keyword.kind = .kwIf)
    (opens : opening.kind = .leftParen) (tested : ExprRead .comma conditions condition)
    (closes : closing.kind = .rightParen) (chosen : Read (.statement place false) yeses yes) :
    Read (.statement place false) (keyword :: opening :: conditions ++ closing :: yeses)
      (.branch condition yes none) := by
  intro depth rest short apart
  cases depth with
  | zero => simp at short
  | succ depth =>
    simp only [List.cons_append, List.length_append, List.length_cons] at short ⊢
    refine .peek ?_
    simp only [isIf]
    refine .skip (.expect opens (.bind (tested.accepts (by omega) (stops_rightParen closes _))
      (.expect closes ?_)))
    exact .bind_nil (chosen (by omega) apart) (.accept_not (apart rfl) (.pure _))

end

/-! ## Declarations -/

theorem read_definition {stmt : Stmt} (defines : Read .definition tokens stmt) :
    Read (.declaration place) tokens stmt := by
  obtain ⟨keyword, tail, rfl, isLet, read⟩ := defines
  intro depth rest short _
  refine .look (fun state _ _ before => run_nextKinds_cons before) ?_
  simp only [isLet]
  exact .skip (read (Nat.le_of_lt short))

theorem read_function {keyword name : Token} {routine : Routine} (isFun : keyword.kind = .kwFun)
    (isName : name.kind = .identifier) (does : Read .routine tokens routine) :
    Read (.declaration place) (keyword :: name :: tokens) (.function name routine) := by
  intro depth rest short _
  simp only [List.length_cons] at short
  refine .look (fun state _ _ before => run_nextKinds_cons before) ?_
  simp only [isFun, isName, List.cons_append, List.append_eq, List.head?_cons, Option.map_some,
    Option.getD_some]
  have named : Accepts place (namedRoutine (rules depth) .function) (name :: tokens) rest
      (name, routine) := .expect isName (.bind_nil (does (by omega)) (.pure _))
  exact .skip (.bind_nil named (.pure _))

theorem read_classDecl {keyword name opening closing : Token} {above : List Token}
    {superclass : Option Token} {methods : List (Token × Routine)}
    (isClass : keyword.kind = .kwClass) (isName : name.kind = .identifier)
    (extended : Superclass above superclass) (opens : opening.kind = .leftBrace)
    (inside : Read .methods tokens methods) (closes : closing.kind = .rightBrace) :
    Read (.declaration place) (keyword :: name :: above ++ opening :: tokens ++ [closing])
      (.classDecl name superclass methods) := by
  intro depth rest short _
  simp only [List.append_assoc, List.cons_append, List.length_append, List.length_cons] at short ⊢
  refine .look (fun state _ _ before => run_nextKinds_cons before) ?_
  simp only [isClass]
  have members : Accepts place (collect (untilBrace (namedRoutine (rules depth) .method))) tokens
      ([closing] ++ rest) methods := by
    refine .get fun state _ before => inside (by omega) ?_ (by simp [closes])
    rw [before, List.length_append]
    omega
  refine .skip (.expect isName ?_)
  cases extended with
  | none =>
    refine .accept_not (by simp [opens]) ?_
    exact .expect opens (.bind members (.expect closes (.pure _)))
  | some isLess isAbove =>
    refine .accept isLess (.bind (.map fun state _ _ before => run_expect_ok before isAbove) ?_)
    exact .expect opens (.bind members (.expect closes (.pure _)))

/-- A statement does not look like a declaration, whatever follows it. -/
theorem read_statement {stmt : Stmt} (read : Read (.statement place false) tokens stmt)
    (begins : BeginsWith statementBegins tokens) (unnamed : Unnamed tokens) :
    Read (.declaration place) tokens stmt := by
  intro depth rest short apart
  have reads := read short fun _ => apart
  have second_kind := unnamed rest
  obtain ⟨first, others, rfl, known⟩ := begins
  refine .look (fun state _ _ before => run_nextKinds_cons before) ?_
  cases behind : others ++ rest with
  | nil => split <;> simp_all [statementBegins, Tier.begins]
  | cons second tail =>
    have unlike : first.kind = .kwFun → second.kind = .leftParen :=
      second_kind first second tail (by rw [List.cons_append, behind])
    split <;> simp_all [statementBegins, Tier.begins]

end Lox.Parser

namespace Lox.Grammar

/-- The parser reads what is derived. -/
theorem Derives.read {n : Nonterminal} {tokens : List Token} {tree : n.Tree}
    (derives : Derives n tokens tree) : Parser.Read n tokens tree := by
  induction derives with
  | tighter below derives ih => exact ih.tighter below derives.begins.1
  | join joins below _ _ first second => exact .join joins below first second
  | assign isName isEquals _ ih => exact .assign isName isEquals ih
  | set owner isDot isName isEquals _ object value =>
    exact .set object owner.begins.1 isDot isName isEquals value
  | conditional _ isQuestion _ isColon _ condition yes no =>
    exact .conditional condition isQuestion yes isColon no
  | sign signs _ ih => exact .sign signs ih
  | call _ opens _ closes callee arguments => exact .call callee opens arguments closes
  | get _ isDot isName ih => exact .get ih isDot isName
  | atom alone => exact .atom alone
  | super isSuper isDot isName => exact .super isSuper isDot isName
  | grouping opens _ closes ih => exact .grouping opens ih closes
  | lambda isFun _ ih => exact .lambda isFun ih
  | leftOut => rfl
  | given derives ih => exact ⟨ih, derives.begins.1⟩
  | lastElement _ ih => exact Parser.read_lastElement ih
  | moreElements _ isComma _ first later => exact Parser.read_moreElements first isComma later
  | noArguments => exact fun _ closes => .untilParen_nil closes
  | someArguments between few ih => exact Parser.read_someArguments ih between.begins few
  | routine opens takes closes opensBody _ closesBody ih =>
    exact Parser.read_routine opens takes closes opensBody ih closesBody
  | noMethods => exact Parser.read_noMethods
  | moreMethods isName _ _ first later => exact Parser.read_moreMethods isName first later
  | define isLet isName ends => exact Parser.read_define isLet isName ends
  | defineAs isLet isName isEquals _ ends ih =>
    exact Parser.read_defineAs isLet isName isEquals ih ends
  | noInitializer ends => exact Parser.read_noInitializer ends
  | definitionInitializer _ ih => exact Parser.read_definitionInitializer ih
  | expressionInitializer evaluated ends ih =>
    exact Parser.read_expressionInitializer ih evaluated.begins.1 ends
  | expression evaluated ends ih => exact Parser.read_expression ih evaluated.begins.1 ends
  | print isPrint _ ends ih => exact Parser.read_print isPrint ih ends
  | giveBack isReturn allowed _ ends ih => exact Parser.read_giveBack isReturn allowed ih ends
  | breakLoop isBreak allowed ends => exact Parser.read_breakLoop isBreak allowed ends
  | continueLoop isContinue allowed ends =>
    exact Parser.read_continueLoop isContinue allowed ends
  | braces opens _ closes ih => exact Parser.read_braces opens ih closes
  | whileLoop isWhile opens _ closes _ condition body =>
    exact Parser.read_whileLoop isWhile opens condition closes body
  | forLoop isFor opens _ _ ends _ closes _ first condition increment body =>
    exact Parser.read_forLoop isFor opens first condition ends increment closes body
  | branch isIf opens _ closes _ isElse _ condition yes no =>
    exact Parser.read_branch isIf opens condition closes yes isElse no
  | branchAlone isIf opens _ closes _ condition yes =>
    exact Parser.read_branchAlone isIf opens condition closes yes
  | definition _ ih => exact Parser.read_definition ih
  | function isFun isName _ ih => exact Parser.read_function isFun isName ih
  | classDecl isClass isName extended opens _ closes ih =>
    exact Parser.read_classDecl isClass isName extended opens ih closes
  | statement derives ih => exact Parser.read_statement ih derives.begins.1 derives.begins.2
  | done => exact Parser.read_done
  | next first rest ih later => exact Parser.read_next ih first.begins later rest.begins

end Lox.Grammar
