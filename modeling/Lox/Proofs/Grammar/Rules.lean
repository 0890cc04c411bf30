import Lox.Program.Tree

/-!
# The grammar

Which lists of tokens spell which trees, said without any reader of them. Expressions have twelve
levels. Statements carry the place at which they stand, because jumps and returns are allowed only
at some places, and a mark that keeps an `else` with the nearest `if`.

A `for` has no node of its own: it spells a loop with an increment, in a block behind its
initializer if there is one.
-/

namespace Lox.Grammar

/-- Where a statement stands. Loops outside the innermost routine do not count. -/
structure Place where
  inLoop : Bool
  inFunction : Bool
  deriving DecidableEq, Repr

namespace Place

/-- Outside of all loops and routines. -/
def top : Place := ⟨false, false⟩

/-- Directly in the body of a routine, wherever the routine stands. -/
def routineBody : Place := ⟨false, true⟩

def loopBody (place : Place) : Place := { place with inLoop := true }

end Place

/-- The levels of expressions, from the one that binds weakest to the one that binds most
tightly. -/
inductive Tier where
  | comma | assignment | conditional | or | and | equality | comparison | term | factor | unary
  | call | primary
  deriving DecidableEq, Repr

def Tier.next? : Tier → Option Tier
  | comma => some assignment
  | assignment => some conditional
  | conditional => some or
  | or => some and
  | and => some equality
  | equality => some comparison
  | comparison => some term
  | term => some factor
  | factor => some unary
  | unary => some call
  | call => some primary
  | primary => none

/-- The operators that group to the left, with their level and the node they build. -/
inductive Joins : Tier → Token.Kind → (Token → Expr → Expr → Expr) → Prop
  | comma : Joins .comma .comma .comma
  | or : Joins .or .kwOr (.logical .or)
  | and : Joins .and .kwAnd (.logical .and)
  | equal : Joins .equality .equalEqual (.binary .equal)
  | notEqual : Joins .equality .bangEqual (.binary .notEqual)
  | less : Joins .comparison .less (.binary .less)
  | lessEqual : Joins .comparison .lessEqual (.binary .lessEqual)
  | greater : Joins .comparison .greater (.binary .greater)
  | greaterEqual : Joins .comparison .greaterEqual (.binary .greaterEqual)
  | add : Joins .term .plus (.binary .add)
  | subtract : Joins .term .minus (.binary .subtract)
  | multiply : Joins .factor .star (.binary .multiply)
  | divide : Joins .factor .slash (.binary .divide)

/-- The signs before an operand. -/
inductive Signs : Token.Kind → UnaryOp → Prop
  | not : Signs .bang .not
  | negate : Signs .minus .negate

/-- The tokens that are an expression by themselves. -/
inductive Atom : Token → Expr → Prop
  | falsehood {token : Token} (kind : token.kind = .kwFalse) : Atom token (.literal (.bool false))
  | truth {token : Token} (kind : token.kind = .kwTrue) : Atom token (.literal (.bool true))
  | nil {token : Token} (kind : token.kind = .kwNil) : Atom token (.literal .nil)
  | number {token : Token} (kind : token.kind = .number) :
      Atom token (.literal (token.literal.getD .nil))
  | string {token : Token} (kind : token.kind = .string) :
      Atom token (.literal (token.literal.getD .nil))
  | self {token : Token} (kind : token.kind = .kwThis) : Atom token (.self token)
  | var {token : Token} (kind : token.kind = .identifier) : Atom token (.var token)

/-- Names between commas. -/
inductive Names : List Token → List Token → Prop
  | last {name : Token} (isName : name.kind = .identifier) : Names [name] [name]
  | more {name comma : Token} {tokens names : List Token} (isName : name.kind = .identifier)
      (isComma : comma.kind = .comma) (others : Names tokens names) :
      Names (name :: comma :: tokens) (name :: names)

/-- The parameters of a routine, at most 255. -/
inductive Parameters : List Token → List Token → Prop
  | none : Parameters [] []
  | some {tokens names : List Token} (between : Names tokens names) (few : names.length ≤ 255) :
      Parameters tokens names

/-- The name of the class above a class. -/
inductive Superclass : List Token → Option Token → Prop
  | none : Superclass [] none
  | some {less name : Token} (isLess : less.kind = .less) (isName : name.kind = .identifier) :
      Superclass [less, name] (some name)

/-- The tree of a `for`. A condition left out always holds. -/
def forTree (initializer : Option Stmt) (condition increment : Option Expr) (body : Stmt) : Stmt :=
  let looped := Stmt.loop (condition.getD (.literal (.bool true))) body increment
  match initializer with
  | some first => .block [first, looped]
  | none => looped

inductive Nonterminal where
  | expr (tier : Tier)
  /-- An expression that may be left out. -/
  | optional
  /-- One or more expressions between commas, each of the level of assignments. -/
  | elements
  /-- The arguments of a call, at most 255. -/
  | arguments
  /-- Parameters and body of a routine. -/
  | routine
  | methods
  /-- The declaration of a variable, with its keyword and its semicolon. -/
  | definition
  /-- What a `for` does first, with its semicolon. -/
  | initializer
  /-- A statement. One that is closed does not end in an `if` without `else`. -/
  | statement (place : Place) (closed : Bool)
  | declaration (place : Place)
  /-- Declarations and statements, one after another. -/
  | block (place : Place)

/-- What is spelled. -/
abbrev Nonterminal.Tree : Nonterminal → Type
  | expr _ => Expr
  | optional => Option Expr
  | elements | arguments => List Expr
  | routine => Routine
  | methods => List (Token × Routine)
  | definition | statement _ _ | declaration _ => Stmt
  | initializer => Option Stmt
  | block _ => List Stmt

/-- The tokens spell the tree. -/
inductive Derives : (n : Nonterminal) → List Token → n.Tree → Prop
  | tighter {tier next : Tier} {tokens : List Token} {expr : Expr} (below : tier.next? = some next)
      (derives : Derives (.expr next) tokens expr) : Derives (.expr tier) tokens expr
  | join {tier next : Tier} {lefts rights : List Token} {operator : Token} {left right : Expr}
      {node : Token → Expr → Expr → Expr} (joins : Joins tier operator.kind node)
      (below : tier.next? = some next) (first : Derives (.expr tier) lefts left)
      (second : Derives (.expr next) rights right) :
      Derives (.expr tier) (lefts ++ operator :: rights) (node operator left right)
  | assign {name equals : Token} {values : List Token} {value : Expr}
      (isName : name.kind = .identifier) (isEquals : equals.kind = .equal)
      (assigned : Derives (.expr .assignment) values value) :
      Derives (.expr .assignment) (name :: equals :: values) (.assign name value)
  | set {objects values : List Token} {dot name equals : Token} {object value : Expr}
      (owner : Derives (.expr .call) objects object) (isDot : dot.kind = .dot)
      (isName : name.kind = .identifier) (isEquals : equals.kind = .equal)
      (assigned : Derives (.expr .assignment) values value) :
      Derives (.expr .assignment) (objects ++ dot :: name :: equals :: values)
        (.set object name value)
  | conditional {conditions yeses noes : List Token} {question colon : Token}
      {condition yes no : Expr} (tested : Derives (.expr .or) conditions condition)
      (isQuestion : question.kind = .question) (chosen : Derives (.expr .comma) yeses yes)
      (isColon : colon.kind = .colon) (other : Derives (.expr .conditional) noes no) :
      Derives (.expr .conditional) (conditions ++ question :: yeses ++ colon :: noes)
        (.conditional condition yes no)
  | sign {operator : Token} {op : UnaryOp} {operands : List Token} {operand : Expr}
      (signs : Signs operator.kind op) (signed : Derives (.expr .unary) operands operand) :
      Derives (.expr .unary) (operator :: operands) (.unary op operator operand)
  | call {callees inside : List Token} {opening closing : Token} {callee : Expr}
      {arguments : List Expr} (called : Derives (.expr .call) callees callee)
      (opens : opening.kind = .leftParen) (given : Derives .arguments inside arguments)
      (closes : closing.kind = .rightParen) :
      Derives (.expr .call) (callees ++ opening :: inside ++ [closing])
        (.call callee closing arguments)
  | get {objects : List Token} {dot name : Token} {object : Expr}
      (owner : Derives (.expr .call) objects object) (isDot : dot.kind = .dot)
      (isName : name.kind = .identifier) :
      Derives (.expr .call) (objects ++ [dot, name]) (.get object name)
  | atom {token : Token} {expr : Expr} (alone : Atom token expr) :
      Derives (.expr .primary) [token] expr
  | super {keyword dot name : Token} (isSuper : keyword.kind = .kwSuper) (isDot : dot.kind = .dot)
      (isName : name.kind = .identifier) :
      Derives (.expr .primary) [keyword, dot, name] (.super keyword name)
  | grouping {opening closing : Token} {inside : List Token} {inner : Expr}
      (opens : opening.kind = .leftParen) (grouped : Derives (.expr .comma) inside inner)
      (closes : closing.kind = .rightParen) :
      Derives (.expr .primary) (opening :: inside ++ [closing]) (.grouping inner)
  | lambda {keyword : Token} {tokens : List Token} {routine : Routine}
      (isFun : keyword.kind = .kwFun) (does : Derives .routine tokens routine) :
      Derives (.expr .primary) (keyword :: tokens) (.lambda routine)
  | leftOut : Derives .optional [] none
  | given {tokens : List Token} {expr : Expr} (derives : Derives (.expr .comma) tokens expr) :
      Derives .optional tokens (some expr)
  | lastElement {tokens : List Token} {expr : Expr}
      (element : Derives (.expr .assignment) tokens expr) : Derives .elements tokens [expr]
  | moreElements {tokens others : List Token} {comma : Token} {expr : Expr} {exprs : List Expr}
      (element : Derives (.expr .assignment) tokens expr) (isComma : comma.kind = .comma)
      (rest : Derives .elements others exprs) :
      Derives .elements (tokens ++ comma :: others) (expr :: exprs)
  | noArguments : Derives .arguments [] []
  | someArguments {tokens : List Token} {exprs : List Expr}
      (between : Derives .elements tokens exprs) (few : exprs.length ≤ 255) :
      Derives .arguments tokens exprs
  | routine {opening closing openBrace closeBrace : Token} {names params tokens : List Token}
      {body : List Stmt} (opens : opening.kind = .leftParen) (takes : Parameters names params)
      (closes : closing.kind = .rightParen) (opensBody : openBrace.kind = .leftBrace)
      (does : Derives (.block .routineBody) tokens body)
      (closesBody : closeBrace.kind = .rightBrace) :
      Derives .routine
        (opening :: names ++ closing :: openBrace :: tokens ++ [closeBrace]) ⟨params, body⟩
  | noMethods : Derives .methods [] []
  | moreMethods {name : Token} {tokens others : List Token} {routine : Routine}
      {methods : List (Token × Routine)} (isName : name.kind = .identifier)
      (does : Derives .routine tokens routine) (rest : Derives .methods others methods) :
      Derives .methods (name :: tokens ++ others) ((name, routine) :: methods)
  | define {keyword name semicolon : Token} (isLet : keyword.kind = .kwLet)
      (isName : name.kind = .identifier) (ends : semicolon.kind = .semicolon) :
      Derives .definition [keyword, name, semicolon] (.define name none)
  | defineAs {keyword name equals semicolon : Token} {tokens : List Token} {value : Expr}
      (isLet : keyword.kind = .kwLet) (isName : name.kind = .identifier)
      (isEquals : equals.kind = .equal) (initial : Derives (.expr .comma) tokens value)
      (ends : semicolon.kind = .semicolon) :
      Derives .definition (keyword :: name :: equals :: tokens ++ [semicolon])
        (.define name (some value))
  | noInitializer {semicolon : Token} (ends : semicolon.kind = .semicolon) :
      Derives .initializer [semicolon] none
  | definitionInitializer {tokens : List Token} {stmt : Stmt}
      (defines : Derives .definition tokens stmt) :
      Derives .initializer tokens (some stmt)
  | expressionInitializer {tokens : List Token} {semicolon : Token} {value : Expr}
      (evaluated : Derives (.expr .comma) tokens value) (ends : semicolon.kind = .semicolon) :
      Derives .initializer (tokens ++ [semicolon]) (some (.expression value))
  | expression {place : Place} {closed : Bool} {tokens : List Token} {semicolon : Token}
      {value : Expr} (evaluated : Derives (.expr .comma) tokens value)
      (ends : semicolon.kind = .semicolon) :
      Derives (.statement place closed) (tokens ++ [semicolon]) (.expression value)
  | print {place : Place} {closed : Bool} {keyword semicolon : Token} {tokens : List Token}
      {value : Expr} (isPrint : keyword.kind = .kwPrint)
      (printed : Derives (.expr .comma) tokens value) (ends : semicolon.kind = .semicolon) :
      Derives (.statement place closed) (keyword :: tokens ++ [semicolon]) (.print value)
  | giveBack {place : Place} {closed : Bool} {keyword semicolon : Token} {tokens : List Token}
      {value : Option Expr} (isReturn : keyword.kind = .kwReturn)
      (allowed : place.inFunction = true) (given : Derives .optional tokens value)
      (ends : semicolon.kind = .semicolon) :
      Derives (.statement place closed) (keyword :: tokens ++ [semicolon]) (.giveBack keyword value)
  | breakLoop {place : Place} {closed : Bool} {keyword semicolon : Token}
      (isBreak : keyword.kind = .kwBreak) (allowed : place.inLoop = true)
      (ends : semicolon.kind = .semicolon) :
      Derives (.statement place closed) [keyword, semicolon] (.breakLoop keyword)
  | continueLoop {place : Place} {closed : Bool} {keyword semicolon : Token}
      (isContinue : keyword.kind = .kwContinue) (allowed : place.inLoop = true)
      (ends : semicolon.kind = .semicolon) :
      Derives (.statement place closed) [keyword, semicolon] (.continueLoop keyword)
  | braces {place : Place} {closed : Bool} {opening closing : Token} {tokens : List Token}
      {body : List Stmt} (opens : opening.kind = .leftBrace)
      (inside : Derives (.block place) tokens body) (closes : closing.kind = .rightBrace) :
      Derives (.statement place closed) (opening :: tokens ++ [closing]) (.block body)
  | whileLoop {place : Place} {closed : Bool} {keyword opening closing : Token}
      {conditions bodies : List Token} {condition : Expr} {body : Stmt}
      (isWhile : keyword.kind = .kwWhile) (opens : opening.kind = .leftParen)
      (tested : Derives (.expr .comma) conditions condition) (closes : closing.kind = .rightParen)
      (repeated : Derives (.statement place.loopBody closed) bodies body) :
      Derives (.statement place closed)
        (keyword :: opening :: conditions ++ closing :: bodies) (.loop condition body none)
  | forLoop {place : Place} {closed : Bool} {keyword opening semicolon closing : Token}
      {firsts conditions increments bodies : List Token} {first : Option Stmt}
      {condition increment : Option Expr} {body : Stmt}
      (isFor : keyword.kind = .kwFor) (opens : opening.kind = .leftParen)
      (starts : Derives .initializer firsts first)
      (tested : Derives .optional conditions condition) (ends : semicolon.kind = .semicolon)
      (advances : Derives .optional increments increment) (closes : closing.kind = .rightParen)
      (repeated : Derives (.statement place.loopBody closed) bodies body) :
      Derives (.statement place closed)
        (keyword :: opening :: firsts ++ conditions ++ semicolon :: increments ++
          closing :: bodies)
        (forTree first condition increment body)
  | branch {place : Place} {closed : Bool} {keyword opening closing otherwise : Token}
      {conditions yeses noes : List Token} {condition : Expr} {yes no : Stmt}
      (isIf : keyword.kind = .kwIf) (opens : opening.kind = .leftParen)
      (tested : Derives (.expr .comma) conditions condition) (closes : closing.kind = .rightParen)
      (chosen : Derives (.statement place true) yeses yes)
      (isElse : otherwise.kind = .kwElse) (other : Derives (.statement place closed) noes no) :
      Derives (.statement place closed)
        (keyword :: opening :: conditions ++ closing :: yeses ++ otherwise :: noes)
        (.branch condition yes (some no))
  | branchAlone {place : Place} {keyword opening closing : Token}
      {conditions yeses : List Token} {condition : Expr} {yes : Stmt}
      (isIf : keyword.kind = .kwIf) (opens : opening.kind = .leftParen)
      (tested : Derives (.expr .comma) conditions condition) (closes : closing.kind = .rightParen)
      (chosen : Derives (.statement place false) yeses yes) :
      Derives (.statement place false)
        (keyword :: opening :: conditions ++ closing :: yeses) (.branch condition yes none)
  | definition {place : Place} {tokens : List Token} {stmt : Stmt}
      (defines : Derives .definition tokens stmt) : Derives (.declaration place) tokens stmt
  | function {place : Place} {keyword name : Token} {tokens : List Token} {routine : Routine}
      (isFun : keyword.kind = .kwFun) (isName : name.kind = .identifier)
      (does : Derives .routine tokens routine) :
      Derives (.declaration place) (keyword :: name :: tokens) (.function name routine)
  | classDecl {place : Place} {keyword name opening closing : Token} {above tokens : List Token}
      {superclass : Option Token} {methods : List (Token × Routine)}
      (isClass : keyword.kind = .kwClass) (isName : name.kind = .identifier)
      (extended : Superclass above superclass) (opens : opening.kind = .leftBrace)
      (inside : Derives .methods tokens methods) (closes : closing.kind = .rightBrace) :
      Derives (.declaration place)
        (keyword :: name :: above ++ opening :: tokens ++ [closing])
        (.classDecl name superclass methods)
  | statement {place : Place} {tokens : List Token} {stmt : Stmt}
      (derives : Derives (.statement place false) tokens stmt) :
      Derives (.declaration place) tokens stmt
  | done {place : Place} : Derives (.block place) [] []
  | next {place : Place} {tokens others : List Token} {stmt : Stmt} {stmts : List Stmt}
      (first : Derives (.declaration place) tokens stmt)
      (rest : Derives (.block place) others stmts) :
      Derives (.block place) (tokens ++ others) (stmt :: stmts)

end Lox.Grammar
