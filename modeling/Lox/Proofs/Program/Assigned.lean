import Lox.Program.Tree

/-!
# Names that are assigned to

The names to which some part of a tree assigns, whether or not that part ever runs.
-/

namespace Lox

mutual

def Expr.assigned : Expr → List String
  | .literal _ | .var _ | .self _ | .super _ _ => []
  | .assign name value => name.lexeme :: value.assigned
  | .unary _ _ operand => operand.assigned
  | .binary _ _ left right | .logical _ _ left right | .comma _ left right =>
    left.assigned ++ right.assigned
  | .conditional condition yes no => condition.assigned ++ (yes.assigned ++ no.assigned)
  | .grouping inner => inner.assigned
  | .call callee _ arguments => callee.assigned ++ Expr.assignedAll arguments
  | .lambda routine => routine.assigned
  | .get object _ => object.assigned
  | .set object _ value => object.assigned ++ value.assigned

def Expr.assignedAll : List Expr → List String
  | [] => []
  | expr :: rest => expr.assigned ++ Expr.assignedAll rest

/-- An expression that is left out assigns to nothing. -/
def Expr.assignedOr : Option Expr → List String
  | none => []
  | some expr => expr.assigned

def Stmt.assigned : Stmt → List String
  | .expression value | .print value => value.assigned
  | .define _ initializer => Expr.assignedOr initializer
  | .block body => Stmt.assignedAll body
  | .branch condition yes no => condition.assigned ++ (yes.assigned ++ Stmt.assignedOr no)
  | .loop condition body increment =>
    condition.assigned ++ (body.assigned ++ Expr.assignedOr increment)
  | .breakLoop _ | .continueLoop _ => []
  | .function _ routine => routine.assigned
  | .giveBack _ value => Expr.assignedOr value
  | .classDecl _ _ methods => Routine.assignedAll methods

def Stmt.assignedAll : List Stmt → List String
  | [] => []
  | stmt :: rest => stmt.assigned ++ Stmt.assignedAll rest

def Stmt.assignedOr : Option Stmt → List String
  | none => []
  | some stmt => stmt.assigned

def Routine.assigned : Routine → List String
  | ⟨_, body⟩ => Stmt.assignedAll body

def Routine.assignedAll : List (Token × Routine) → List String
  | [] => []
  | (_, routine) :: rest => routine.assigned ++ Routine.assignedAll rest

end

end Lox
