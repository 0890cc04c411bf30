import Lox.Program.Parser.Statement
import Lox.Proofs.Grammar.Rules

/-!
# Keywords in trees

A tree has as many nodes that begin with a keyword at which a statement may begin as there are such
keywords among the tokens that spell it. So tokens with fewer of them spell another tree.
-/

namespace Lox

mutual

/-- How many keywords that may begin a statement an expression is spelled with. -/
@[simp] def Expr.keywords : Expr → Nat
  | .literal _ | .var _ | .self _ | .super _ _ => 0
  | .assign _ value => value.keywords
  | .unary _ _ operand => operand.keywords
  | .binary _ _ left right | .logical _ _ left right | .comma _ left right =>
    left.keywords + right.keywords
  | .conditional condition yes no => condition.keywords + yes.keywords + no.keywords
  | .grouping inner => inner.keywords
  | .call callee _ arguments => callee.keywords + Expr.keywordsAll arguments
  | .lambda routine => 1 + routine.keywords
  | .get object _ => object.keywords
  | .set object _ value => object.keywords + value.keywords

@[simp] def Expr.keywordsAll : List Expr → Nat
  | [] => 0
  | expr :: rest => expr.keywords + Expr.keywordsAll rest

@[simp] def Expr.keywordsOr : Option Expr → Nat
  | none => 0
  | some expr => expr.keywords

/-- A `for` and a `while` are both loops with one keyword. -/
@[simp] def Stmt.keywords : Stmt → Nat
  | .expression value => value.keywords
  | .print value => 1 + value.keywords
  | .define _ initializer => 1 + Expr.keywordsOr initializer
  | .block body => Stmt.keywordsAll body
  | .branch condition yes no => 1 + condition.keywords + yes.keywords + Stmt.keywordsOr no
  | .loop condition body increment =>
    1 + condition.keywords + body.keywords + Expr.keywordsOr increment
  | .breakLoop _ | .continueLoop _ => 0
  | .function _ routine => 1 + routine.keywords
  | .giveBack _ value => 1 + Expr.keywordsOr value
  | .classDecl _ _ methods => 1 + Routine.keywordsOfMethods methods

@[simp] def Stmt.keywordsAll : List Stmt → Nat
  | [] => 0
  | stmt :: rest => stmt.keywords + Stmt.keywordsAll rest

@[simp] def Stmt.keywordsOr : Option Stmt → Nat
  | none => 0
  | some stmt => stmt.keywords

@[simp] def Routine.keywords : Routine → Nat
  | ⟨_, body⟩ => Stmt.keywordsAll body

@[simp] def Routine.keywordsOfMethods : List (Token × Routine) → Nat
  | [] => 0
  | (_, routine) :: rest => routine.keywords + Routine.keywordsOfMethods rest

end

namespace Grammar

open Lox.Parser (beginsStatement)

/-- The keywords among the tokens that may begin a statement. -/
def keywordCount (tokens : List Token) : Nat :=
  tokens.countP fun token => beginsStatement token.kind

@[simp] theorem keywordCount_nil : keywordCount [] = 0 := rfl

@[simp] theorem keywordCount_cons (token : Token) (tokens : List Token) :
    keywordCount (token :: tokens) =
      keywordCount tokens + if beginsStatement token.kind then 1 else 0 :=
  List.countP_cons

@[simp] theorem keywordCount_append (tokens more : List Token) :
    keywordCount (tokens ++ more) = keywordCount tokens + keywordCount more :=
  List.countP_append

theorem Joins.keywords {tier : Tier} {kind : Token.Kind} {node : Token → Expr → Expr → Expr}
    (joins : Joins tier kind node) (operator : Token) (left right : Expr) :
    beginsStatement kind = false ∧
      (node operator left right).keywords = left.keywords + right.keywords := by
  cases joins <;> exact ⟨rfl, by simp only [Expr.keywords]⟩

theorem Signs.keywords {kind : Token.Kind} {op : UnaryOp} (signs : Signs kind op) :
    beginsStatement kind = false := by
  cases signs <;> rfl

theorem Atom.keywords {token : Token} {expr : Expr} (alone : Atom token expr) :
    beginsStatement token.kind = false ∧ expr.keywords = 0 := by
  cases alone <;> simp [*, beginsStatement, Expr.keywords]

theorem Names.keywords {tokens names : List Token} (between : Names tokens names) :
    keywordCount tokens = 0 := by
  induction between with
  | last isName => simp [isName, beginsStatement]
  | more isName isComma _ ih => simp [isName, isComma, beginsStatement, ih]

theorem Parameters.keywords {tokens params : List Token} (takes : Parameters tokens params) :
    keywordCount tokens = 0 := by
  cases takes with
  | none => rfl
  | some between => exact between.keywords

theorem Superclass.keywords {tokens : List Token} {superclass : Option Token}
    (extended : Superclass tokens superclass) : keywordCount tokens = 0 := by
  cases extended with
  | none => rfl
  | some isLess isName => simp [isLess, isName, beginsStatement]

theorem forTree_keywords (initializer : Option Stmt) (condition increment : Option Expr)
    (body : Stmt) : (forTree initializer condition increment body).keywords =
      1 + Stmt.keywordsOr initializer + Expr.keywordsOr condition + Expr.keywordsOr increment +
        body.keywords := by
  cases initializer <;> cases condition <;>
    simp [forTree, Stmt.keywords, Stmt.keywordsAll, Stmt.keywordsOr, Expr.keywordsOr,
      Expr.keywords] <;> omega

@[simp] def Nonterminal.keywords : (n : Nonterminal) → n.Tree → Nat
  | expr _, tree => Expr.keywords tree
  | optional, tree => Expr.keywordsOr tree
  | elements, trees | arguments, trees => Expr.keywordsAll trees
  | routine, tree => Routine.keywords tree
  | methods, trees => Routine.keywordsOfMethods trees
  | definition, tree | statement _ _, tree | declaration _, tree => Stmt.keywords tree
  | initializer, tree => Stmt.keywordsOr tree
  | block _, trees => Stmt.keywordsAll trees

/-- As many keywords are among the tokens as in the tree. -/
theorem Derives.keywordCount_eq {n : Nonterminal} {tokens : List Token} {tree : n.Tree}
    (derives : Derives n tokens tree) : keywordCount tokens = n.keywords tree := by
  induction derives with
  | tighter _ _ same => exact same
  | @join _ _ _ _ operator left right _ joins _ _ _ first second =>
    obtain ⟨unmarked, sum⟩ := joins.keywords operator left right
    simp [first, second, unmarked, sum]
  | assign isName isEquals _ assigned => simp [isName, isEquals, assigned, beginsStatement]
  | set _ isDot isName isEquals _ owner assigned =>
    simp [isDot, isName, isEquals, owner, assigned, beginsStatement]
  | conditional _ isQuestion _ isColon _ tested chosen other =>
    simp [isQuestion, isColon, tested, chosen, other, beginsStatement]
    omega
  | sign signs _ signed => simp [signs.keywords, signed]
  | call _ opens _ closes called given => simp [opens, closes, called, given, beginsStatement]
  | get _ isDot isName owner => simp [isDot, isName, owner, beginsStatement]
  | atom alone => simp [alone.keywords]
  | super isSuper isDot isName => simp [isSuper, isDot, isName, beginsStatement]
  | grouping opens _ closes grouped => simp [opens, closes, grouped, beginsStatement]
  | lambda isFun _ does =>
    simp [isFun, does, beginsStatement]
    omega
  | leftOut => rfl
  | given _ same => exact same
  | lastElement _ element => simp [element]
  | moreElements _ isComma _ element rest => simp [isComma, element, rest, beginsStatement]
  | noArguments => rfl
  | someArguments _ _ between => exact between
  | routine opens takes closes opensBody _ closesBody does =>
    simp [opens, takes.keywords, closes, opensBody, closesBody, does, beginsStatement]
  | noMethods => rfl
  | moreMethods isName _ _ does rest => simp [isName, does, rest, beginsStatement]
  | define isLet isName ends => simp [isLet, isName, ends, beginsStatement]
  | defineAs isLet isName isEquals _ ends initial =>
    simp [isLet, isName, isEquals, ends, initial, beginsStatement]
    omega
  | noInitializer ends => simp [ends, beginsStatement]
  | definitionInitializer _ defines => exact defines
  | expressionInitializer _ ends evaluated => simp [ends, evaluated, beginsStatement]
  | expression _ ends evaluated => simp [ends, evaluated, beginsStatement]
  | print isPrint _ ends printed =>
    simp [isPrint, ends, printed, beginsStatement]
    omega
  | giveBack isReturn _ _ ends given =>
    simp [isReturn, ends, given, beginsStatement]
    omega
  | breakLoop isBreak _ ends => simp [isBreak, ends, beginsStatement]
  | continueLoop isContinue _ ends => simp [isContinue, ends, beginsStatement]
  | braces opens _ closes inside => simp [opens, closes, inside, beginsStatement]
  | whileLoop isWhile opens _ closes _ tested repeated =>
    simp [isWhile, opens, closes, tested, repeated, beginsStatement]
    omega
  | forLoop isFor opens _ _ ends _ closes _ starts tested advances repeated =>
    simp [isFor, opens, ends, closes, starts, tested, advances, repeated, forTree_keywords,
      beginsStatement]
    omega
  | branch isIf opens _ closes _ isElse _ tested chosen other =>
    simp [isIf, opens, closes, isElse, tested, chosen, other, beginsStatement]
    omega
  | branchAlone isIf opens _ closes _ tested chosen =>
    simp [isIf, opens, closes, tested, chosen, beginsStatement]
    omega
  | definition _ defines => exact defines
  | function isFun isName _ does =>
    simp [isFun, isName, does, beginsStatement]
    omega
  | classDecl isClass isName extended opens _ closes inside =>
    simp [isClass, isName, extended.keywords, opens, closes, inside, beginsStatement]
    omega
  | statement _ same => exact same
  | done => rfl
  | next _ _ first rest => simp [first, rest]

end Grammar
end Lox
