import Lox.Token.Basic

/-!
# Program trees

Expressions, statements and the routines that functions run. A node keeps the tokens by which an
error in it is located. Objects are part of the tree, although no run supports them.
-/

namespace Lox

inductive UnaryOp where
  | negate | not
  deriving DecidableEq, Repr

inductive BinaryOp where
  | add | subtract | multiply | divide
  | equal | notEqual
  | less | lessEqual | greater | greaterEqual
  deriving DecidableEq, Repr

/-- The operators that may leave their right operand alone. -/
inductive LogicalOp where
  | and | or
  deriving DecidableEq, Repr

mutual

inductive Expr where
  | literal (value : Literal)
  | var (name : Token)
  | assign (name : Token) (value : Expr)
  | unary (op : UnaryOp) (operator : Token) (operand : Expr)
  | binary (op : BinaryOp) (operator : Token) (left right : Expr)
  | logical (op : LogicalOp) (operator : Token) (left right : Expr)
  | comma (operator : Token) (left right : Expr)
  | conditional (condition yes no : Expr)
  | grouping (inner : Expr)
  /-- A call is located by its closing parenthesis. -/
  | call (callee : Expr) (paren : Token) (arguments : List Expr)
  | lambda (routine : Routine)
  | get (object : Expr) (name : Token)
  | set (object : Expr) (name : Token) (value : Expr)
  | self (keyword : Token)
  | super (keyword method : Token)

inductive Stmt where
  | expression (value : Expr)
  | print (value : Expr)
  | define (name : Token) (initializer : Option Expr)
  | block (body : List Stmt)
  | branch (condition : Expr) (yes : Stmt) (no : Option Stmt)
  /-- The increment runs after each round of the body that ends normally or by `continue`. -/
  | loop (condition : Expr) (body : Stmt) (increment : Option Expr)
  | breakLoop (keyword : Token)
  | continueLoop (keyword : Token)
  | function (name : Token) (routine : Routine)
  | giveBack (keyword : Token) (value : Option Expr)
  | classDecl (name : Token) (superclass : Option Token) (methods : List (Token × Routine))

/-- What a function does when it is called. -/
structure Routine where
  params : List Token
  body : List Stmt

end

instance : Inhabited Expr := ⟨.literal .nil⟩

instance : Inhabited Stmt := ⟨.block []⟩

instance : Inhabited Routine := ⟨⟨[], []⟩⟩

end Lox
