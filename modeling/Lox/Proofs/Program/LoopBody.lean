import Lox.Proofs.Grammar.Rules

/-!
# Bodies of loops

A statement that is the body of a loop declares nothing in the scope of the loop: what it declares,
it declares inside braces. A `continue` in it belongs to the loop unless an inner loop stands
between them.
-/

namespace Lox

open Grammar

/-- The statement declares no name in the scope in which it is run. -/
inductive Stmt.Undeclaring : Stmt → Prop
  | expression (value : Expr) : Undeclaring (.expression value)
  | print (value : Expr) : Undeclaring (.print value)
  | block (body : List Stmt) : Undeclaring (.block body)
  | branch (condition : Expr) {yes : Stmt} {no : Option Stmt} (chosen : Undeclaring yes)
      (other : ∀ stmt ∈ no, Undeclaring stmt) : Undeclaring (.branch condition yes no)
  | loop (condition : Expr) {body : Stmt} (increment : Option Expr) (repeated : Undeclaring body) :
      Undeclaring (.loop condition body increment)
  | breakLoop (keyword : Token) : Undeclaring (.breakLoop keyword)
  | continueLoop (keyword : Token) : Undeclaring (.continueLoop keyword)
  | giveBack (keyword : Token) (value : Option Expr) : Undeclaring (.giveBack keyword value)

/-- If it is the tree of a statement, it declares nothing. -/
def Grammar.Nonterminal.Undeclaring : (n : Nonterminal) → n.Tree → Prop
  | statement _ _, stmt => Stmt.Undeclaring stmt
  | _, _ => True

theorem Grammar.Derives.undeclaring {n : Nonterminal} {tokens : List Token} {tree : n.Tree}
    (derives : Derives n tokens tree) : n.Undeclaring tree := by
  induction derives with
  | expression => exact .expression _
  | print => exact .print _
  | giveBack => exact .giveBack _ _
  | breakLoop => exact .breakLoop _
  | continueLoop => exact .continueLoop _
  | braces => exact .block _
  | whileLoop _ _ _ _ _ _ body => exact .loop _ _ body
  | @forLoop _ _ _ _ _ _ _ _ _ _ first _ _ _ _ _ _ _ _ _ _ _ _ _ _ body =>
    cases first with
    | none => exact .loop _ _ body
    | some first => exact .block _
  | branch _ _ _ _ _ _ _ _ yes no => exact .branch _ yes fun _ same => Option.some.inj same ▸ no
  | branchAlone _ _ _ _ _ _ yes => exact .branch _ yes fun _ absurd => nomatch absurd
  | _ => trivial

mutual

/-- Whether a `continue` of the statement belongs to the loop around it. -/
def Stmt.continues : Stmt → Bool
  | .continueLoop _ => true
  | .block body => Stmt.continuesAny body
  | .branch _ yes no => yes.continues || Stmt.continuesOr no
  | .expression _ | .print _ | .define _ _ | .loop _ _ _ | .breakLoop _ | .function _ _
  | .giveBack _ _ | .classDecl _ _ _ => false

def Stmt.continuesAny : List Stmt → Bool
  | [] => false
  | stmt :: rest => stmt.continues || Stmt.continuesAny rest

def Stmt.continuesOr : Option Stmt → Bool
  | none => false
  | some stmt => stmt.continues

end

end Lox
