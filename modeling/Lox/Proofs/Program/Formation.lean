import Mathlib.Data.List.Basic
import Lox.Proofs.Grammar.Rules

/-!
# Well-formed trees

What a run may rely on: the tokens that can be blamed in a tree are all known, and jumps and returns
stand where they may. Every tree that tokens spell is well-formed, with the tokens as those known.
-/

namespace Lox

open Grammar

mutual

/-- An expression whose tokens are all known. -/
inductive Expr.Formed (known : Token → Prop) : Expr → Prop
  | literal (value : Literal) : Expr.Formed known (.literal value)
  | var {name : Token} (named : known name) : Expr.Formed known (.var name)
  | assign {name : Token} {value : Expr} (named : known name) (assigned : Expr.Formed known value) :
      Expr.Formed known (.assign name value)
  | unary {op : UnaryOp} {operator : Token} {operand : Expr} (operates : known operator)
      (inner : Expr.Formed known operand) : Expr.Formed known (.unary op operator operand)
  | binary {op : BinaryOp} {operator : Token} {left right : Expr} (operates : known operator)
      (first : Expr.Formed known left) (second : Expr.Formed known right) :
      Expr.Formed known (.binary op operator left right)
  | logical {op : LogicalOp} {operator : Token} {left right : Expr} (operates : known operator)
      (first : Expr.Formed known left) (second : Expr.Formed known right) :
      Expr.Formed known (.logical op operator left right)
  | comma {operator : Token} {left right : Expr} (operates : known operator)
      (first : Expr.Formed known left) (second : Expr.Formed known right) :
      Expr.Formed known (.comma operator left right)
  | conditional {condition yes no : Expr} (tested : Expr.Formed known condition)
      (chosen : Expr.Formed known yes) (other : Expr.Formed known no) :
      Expr.Formed known (.conditional condition yes no)
  | grouping {inner : Expr} (grouped : Expr.Formed known inner) :
      Expr.Formed known (.grouping inner)
  | call {callee : Expr} {paren : Token} {arguments : List Expr} (called : Expr.Formed known callee)
      (closes : known paren) (given : ∀ argument ∈ arguments, Expr.Formed known argument) :
      Expr.Formed known (.call callee paren arguments)
  | lambda {routine : Routine} (does : Routine.Formed known routine) :
      Expr.Formed known (.lambda routine)
  | get {object : Expr} {name : Token} (owner : Expr.Formed known object) (named : known name) :
      Expr.Formed known (.get object name)
  | set {object value : Expr} {name : Token} (owner : Expr.Formed known object) (named : known name)
      (assigned : Expr.Formed known value) : Expr.Formed known (.set object name value)
  | self {keyword : Token} (isSelf : known keyword) : Expr.Formed known (.self keyword)
  | super {keyword method : Token} (isSuper : known keyword) (named : known method) :
      Expr.Formed known (.super keyword method)

/-- A statement whose tokens are all known, and which may stand at a place. -/
inductive Stmt.Formed (known : Token → Prop) : Place → Stmt → Prop
  | expression {place : Place} {value : Expr} (evaluated : Expr.Formed known value) :
      Stmt.Formed known place (.expression value)
  | print {place : Place} {value : Expr} (printed : Expr.Formed known value) :
      Stmt.Formed known place (.print value)
  | define {place : Place} {name : Token} {initializer : Option Expr} (named : known name)
      (initial : ∀ value ∈ initializer, Expr.Formed known value) :
      Stmt.Formed known place (.define name initializer)
  | block {place : Place} {body : List Stmt}
      (inside : ∀ stmt ∈ body, Stmt.Formed known place stmt) :
      Stmt.Formed known place (.block body)
  | branch {place : Place} {condition : Expr} {yes : Stmt} {no : Option Stmt}
      (tested : Expr.Formed known condition) (chosen : Stmt.Formed known place yes)
      (other : ∀ stmt ∈ no, Stmt.Formed known place stmt) :
      Stmt.Formed known place (.branch condition yes no)
  | loop {place : Place} {condition : Expr} {body : Stmt} {increment : Option Expr}
      (tested : Expr.Formed known condition) (repeated : Stmt.Formed known place.loopBody body)
      (advances : ∀ value ∈ increment, Expr.Formed known value) :
      Stmt.Formed known place (.loop condition body increment)
  | breakLoop {place : Place} {keyword : Token} (isBreak : known keyword)
      (allowed : place.inLoop = true) : Stmt.Formed known place (.breakLoop keyword)
  | continueLoop {place : Place} {keyword : Token} (isContinue : known keyword)
      (allowed : place.inLoop = true) : Stmt.Formed known place (.continueLoop keyword)
  | function {place : Place} {name : Token} {routine : Routine} (named : known name)
      (does : Routine.Formed known routine) : Stmt.Formed known place (.function name routine)
  | giveBack {place : Place} {keyword : Token} {value : Option Expr} (isReturn : known keyword)
      (allowed : place.inFunction = true) (given : ∀ expr ∈ value, Expr.Formed known expr) :
      Stmt.Formed known place (.giveBack keyword value)
  | classDecl {place : Place} {name : Token} {superclass : Option Token}
      {methods : List (Token × Routine)} (named : known name) :
      Stmt.Formed known place (.classDecl name superclass methods)

/-- A routine whose body may stand as such, wherever the routine stands. -/
inductive Routine.Formed (known : Token → Prop) : Routine → Prop
  | mk {params : List Token} {body : List Stmt}
      (does : ∀ stmt ∈ body, Stmt.Formed known .routineBody stmt) :
      Routine.Formed known ⟨params, body⟩

end

namespace Grammar

variable {known : Token → Prop}

def Nonterminal.Formed (known : Token → Prop) : (n : Nonterminal) → n.Tree → Prop
  | expr _, tree => Expr.Formed known tree
  | optional, value => ∀ expr ∈ value, Expr.Formed known expr
  | elements, exprs | arguments, exprs => ∀ expr ∈ exprs, Expr.Formed known expr
  | routine, tree => Routine.Formed known tree
  | methods, _ => True
  | definition, stmt => ∀ place, Stmt.Formed known place stmt
  | initializer, first => ∀ place, ∀ stmt ∈ first, Stmt.Formed known place stmt
  | statement place _, stmt | declaration place, stmt => Stmt.Formed known place stmt
  | block place, stmts => ∀ stmt ∈ stmts, Stmt.Formed known place stmt

theorem Joins.formed {tier : Tier} {operator : Token} {node : Token → Expr → Expr → Expr}
    {left right : Expr} (joins : Joins tier operator.kind node) (operates : known operator)
    (first : left.Formed known) (second : right.Formed known) :
    (node operator left right).Formed known := by
  generalize operator.kind = kind at joins
  cases joins with
  | comma => exact .comma operates first second
  | or | and => exact .logical operates first second
  | _ => exact .binary operates first second

theorem Atom.formed {token : Token} {expr : Expr} (alone : Atom token expr) (is : known token) :
    expr.Formed known := by
  cases alone with
  | self => exact .self is
  | var => exact .var is
  | _ => exact .literal _

theorem forTree_formed {place : Place} {first : Option Stmt} {condition increment : Option Expr}
    {body : Stmt} (starts : ∀ stmt ∈ first, Stmt.Formed known place stmt)
    (tested : ∀ expr ∈ condition, expr.Formed known)
    (advances : ∀ expr ∈ increment, expr.Formed known)
    (repeated : Stmt.Formed known place.loopBody body) :
    Stmt.Formed known place (forTree first condition increment body) := by
  have tests : (condition.getD (.literal (.bool true))).Formed known := by
    cases condition with
    | none => exact .literal _
    | some expr => exact tested expr rfl
  have looped := Stmt.Formed.loop tests repeated advances
  cases first with
  | none => exact looped
  | some stmt => exact .block (by simpa using ⟨starts stmt rfl, looped⟩)

theorem Derives.formed {n : Nonterminal} {tokens : List Token} {tree : n.Tree}
    (derives : Derives n tokens tree) (inside : ∀ token ∈ tokens, known token) :
    n.Formed known tree := by
  induction derives with
    try simp only [List.forall_mem_append, List.forall_mem_cons, List.cons_append] at inside
  | tighter _ _ ih => exact ih inside
  | join joins _ _ _ left right => exact joins.formed inside.2.1 (left inside.1) (right inside.2.2)
  | assign _ _ _ ih => exact .assign inside.1 (ih inside.2.2)
  | set _ _ _ _ _ object value =>
    exact .set (object inside.1) inside.2.2.1 (value inside.2.2.2.2)
  | conditional _ _ _ _ _ condition yes no =>
    exact .conditional (condition inside.1.1) (yes inside.1.2.2) (no inside.2.2)
  | sign _ _ ih => exact .unary inside.1 (ih inside.2)
  | call _ _ _ _ callee arguments =>
    exact .call (callee inside.1.1) inside.2.1 (arguments inside.1.2.2)
  | get _ _ _ ih => exact .get (ih inside.1) inside.2.2.1
  | atom alone => exact alone.formed inside.1
  | super => exact .super inside.1 inside.2.2.1
  | grouping _ _ _ ih => exact .grouping (ih inside.2.1)
  | lambda _ _ ih => exact .lambda (ih inside.2)
  | leftOut => exact fun _ absurd => nomatch absurd
  | given _ ih => exact fun _ same => Option.some.inj same ▸ ih inside
  | lastElement _ ih => exact List.forall_mem_singleton.mpr (ih inside)
  | moreElements _ _ _ first later =>
    exact List.forall_mem_cons.mpr ⟨first inside.1, later inside.2.2⟩
  | noArguments => exact fun _ absurd => nomatch absurd
  | someArguments _ _ ih => exact ih inside
  | routine _ _ _ _ _ _ ih => exact .mk (ih inside.2.1.2.2.2)
  | noMethods | moreMethods => trivial
  | define => exact fun _ => .define inside.2.1 fun _ absurd => nomatch absurd
  | defineAs _ _ _ _ _ ih =>
    exact fun _ => .define inside.2.1 fun _ same => Option.some.inj same ▸ ih inside.2.2.2.1
  | noInitializer => exact fun _ _ absurd => nomatch absurd
  | definitionInitializer _ ih => exact fun place _ same => Option.some.inj same ▸ ih inside place
  | expressionInitializer _ _ ih =>
    exact fun _ _ same => Option.some.inj same ▸ .expression (ih inside.1)
  | expression _ _ ih => exact .expression (ih inside.1)
  | print _ _ _ ih => exact .print (ih inside.2.1)
  | giveBack _ allowed _ _ ih => exact .giveBack inside.1 allowed (ih inside.2.1)
  | breakLoop _ allowed => exact .breakLoop inside.1 allowed
  | continueLoop _ allowed => exact .continueLoop inside.1 allowed
  | braces _ _ _ ih => exact .block (ih inside.2.1)
  | whileLoop _ _ _ _ _ condition body =>
    exact .loop (condition inside.2.2.1) (body inside.2.2.2.2) fun _ absurd => nomatch absurd
  | forLoop _ _ _ _ _ _ _ _ first condition increment body =>
    obtain ⟨-, -, ⟨⟨firsts, conditions⟩, -, increments⟩, -, bodies⟩ := inside
    exact forTree_formed (first firsts _) (condition conditions) (increment increments)
      (body bodies)
  | branch _ _ _ _ _ _ _ condition yes no =>
    obtain ⟨-, -, ⟨conditions, -, yeses⟩, -, noes⟩ := inside
    exact .branch (condition conditions) (yes yeses)
      fun _ same => Option.some.inj same ▸ no noes
  | branchAlone _ _ _ _ _ condition yes =>
    exact .branch (condition inside.2.2.1) (yes inside.2.2.2.2) fun _ absurd => nomatch absurd
  | definition _ ih => exact ih inside _
  | function _ _ _ ih => exact .function inside.2.1 (ih inside.2.2)
  | classDecl => exact .classDecl inside.2.1
  | statement _ ih => exact ih inside
  | done => exact fun _ absurd => nomatch absurd
  | next _ _ first later => exact List.forall_mem_cons.mpr ⟨first inside.1, later inside.2⟩

end Grammar
end Lox
