import Lox.Program.Tree

/-!
# Programs in another place

A relocation gives each token a line and a span of its own choice, and leaves what the token is. To
relocate a tree is to relocate all tokens in it.
-/

namespace Lox

/-- The line and the span that each token gets. -/
abbrev Relocation := Token → Nat × Span

namespace Relocation

/-- Leaves all tokens where they are. -/
def stay : Relocation := fun token => (token.line, token.span)

/-- Takes all tokens to one place. -/
def forget : Relocation := fun _ => (0, .nowhere)

/-- Moves all tokens down by some lines and on by some bytes. -/
def shift (lines bytes : Nat) : Relocation := fun token =>
  (token.line + lines, ⟨token.span.start + bytes, token.span.stop + bytes⟩)

end Relocation

def Token.relocate (move : Relocation) (token : Token) : Token :=
  { token with line := (move token).1, span := (move token).2 }

/-- One relocation and then another. -/
def Relocation.andThen (first second : Relocation) : Relocation :=
  fun token => second (token.relocate first)

mutual

def Expr.relocate (move : Relocation) : Expr → Expr
  | .literal value => .literal value
  | .var name => .var (name.relocate move)
  | .assign name value => .assign (name.relocate move) (value.relocate move)
  | .unary op operator operand => .unary op (operator.relocate move) (operand.relocate move)
  | .binary op operator left right =>
    .binary op (operator.relocate move) (left.relocate move) (right.relocate move)
  | .logical op operator left right =>
    .logical op (operator.relocate move) (left.relocate move) (right.relocate move)
  | .comma operator left right =>
    .comma (operator.relocate move) (left.relocate move) (right.relocate move)
  | .conditional condition yes no =>
    .conditional (condition.relocate move) (yes.relocate move) (no.relocate move)
  | .grouping inner => .grouping (inner.relocate move)
  | .call callee paren arguments =>
    .call (callee.relocate move) (paren.relocate move) (Expr.relocateAll move arguments)
  | .lambda routine => .lambda (routine.relocate move)
  | .get object name => .get (object.relocate move) (name.relocate move)
  | .set object name value =>
    .set (object.relocate move) (name.relocate move) (value.relocate move)
  | .self keyword => .self (keyword.relocate move)
  | .super keyword method => .super (keyword.relocate move) (method.relocate move)

def Expr.relocateAll (move : Relocation) : List Expr → List Expr
  | [] => []
  | expr :: rest => expr.relocate move :: Expr.relocateAll move rest

def Expr.relocateOr (move : Relocation) : Option Expr → Option Expr
  | none => none
  | some expr => some (expr.relocate move)

def Stmt.relocate (move : Relocation) : Stmt → Stmt
  | .expression value => .expression (value.relocate move)
  | .print value => .print (value.relocate move)
  | .define name initializer => .define (name.relocate move) (Expr.relocateOr move initializer)
  | .block body => .block (Stmt.relocateAll move body)
  | .branch condition yes no =>
    .branch (condition.relocate move) (yes.relocate move) (Stmt.relocateOr move no)
  | .loop condition body increment =>
    .loop (condition.relocate move) (body.relocate move) (Expr.relocateOr move increment)
  | .breakLoop keyword => .breakLoop (keyword.relocate move)
  | .continueLoop keyword => .continueLoop (keyword.relocate move)
  | .function name routine => .function (name.relocate move) (routine.relocate move)
  | .giveBack keyword value =>
    .giveBack (keyword.relocate move) (Expr.relocateOr move value)
  | .classDecl name superclass methods =>
    .classDecl (name.relocate move) (superclass.map (·.relocate move))
      (Routine.relocateMethods move methods)

def Stmt.relocateAll (move : Relocation) : List Stmt → List Stmt
  | [] => []
  | stmt :: rest => stmt.relocate move :: Stmt.relocateAll move rest

def Stmt.relocateOr (move : Relocation) : Option Stmt → Option Stmt
  | none => none
  | some stmt => some (stmt.relocate move)

def Routine.relocate (move : Relocation) : Routine → Routine
  | ⟨params, body⟩ => ⟨params.map (·.relocate move), Stmt.relocateAll move body⟩

def Routine.relocateMethods (move : Relocation) :
    List (Token × Routine) → List (Token × Routine)
  | [] => []
  | (name, routine) :: rest =>
    (name.relocate move, routine.relocate move) :: Routine.relocateMethods move rest

end

section

variable {move first second : Relocation}

@[simp] theorem Token.relocate_kind (token : Token) : (token.relocate move).kind = token.kind := rfl

@[simp] theorem Token.relocate_lexeme (token : Token) :
    (token.relocate move).lexeme = token.lexeme := rfl

@[simp] theorem Token.relocate_literal (token : Token) :
    (token.relocate move).literal = token.literal := rfl

theorem Token.relocate_stay (token : Token) : token.relocate .stay = token := rfl

theorem Token.relocate_relocate (token : Token) :
    (token.relocate first).relocate second = token.relocate (first.andThen second) := rfl

theorem Expr.relocateAll_eq_map (exprs : List Expr) :
    Expr.relocateAll move exprs = exprs.map (·.relocate move) := by
  induction exprs with
  | nil => rfl
  | cons expr rest ih => rw [Expr.relocateAll, ih, List.map_cons]

theorem Stmt.relocateAll_eq_map (stmts : List Stmt) :
    Stmt.relocateAll move stmts = stmts.map (·.relocate move) := by
  induction stmts with
  | nil => rfl
  | cons stmt rest ih => rw [Stmt.relocateAll, ih, List.map_cons]

theorem Routine.relocateMethods_eq_map (methods : List (Token × Routine)) :
    Routine.relocateMethods move methods =
      methods.map fun method => (method.1.relocate move, method.2.relocate move) := by
  induction methods with
  | nil => rfl
  | cons method rest ih => rw [Routine.relocateMethods, ih, List.map_cons]

end

/-! ## No relocation -/

mutual

theorem Expr.relocate_stay (expr : Expr) : expr.relocate .stay = expr := by
  cases expr <;> simp only [Expr.relocate, Token.relocate_stay] <;>
    simp only [Expr.relocate_stay, Expr.relocateAll_stay, Routine.relocate_stay]

theorem Expr.relocateAll_stay (exprs : List Expr) : Expr.relocateAll .stay exprs = exprs := by
  cases exprs with
  | nil => rfl
  | cons expr rest => rw [Expr.relocateAll, expr.relocate_stay, Expr.relocateAll_stay rest]

theorem Expr.relocateOr_stay (expr? : Option Expr) : Expr.relocateOr .stay expr? = expr? := by
  cases expr? with
  | none => rfl
  | some expr => rw [Expr.relocateOr, expr.relocate_stay]

theorem Stmt.relocate_stay (stmt : Stmt) : stmt.relocate .stay = stmt := by
  cases stmt <;> simp only [Stmt.relocate, Token.relocate_stay, Option.map_id'] <;>
    simp only [Expr.relocate_stay, Expr.relocateOr_stay, Stmt.relocate_stay, Stmt.relocateAll_stay,
      Stmt.relocateOr_stay, Routine.relocate_stay, Routine.relocateMethods_stay]

theorem Stmt.relocateAll_stay (stmts : List Stmt) : Stmt.relocateAll .stay stmts = stmts := by
  cases stmts with
  | nil => rfl
  | cons stmt rest => rw [Stmt.relocateAll, stmt.relocate_stay, Stmt.relocateAll_stay rest]

theorem Stmt.relocateOr_stay (stmt? : Option Stmt) : Stmt.relocateOr .stay stmt? = stmt? := by
  cases stmt? with
  | none => rfl
  | some stmt => rw [Stmt.relocateOr, stmt.relocate_stay]

theorem Routine.relocate_stay (routine : Routine) : routine.relocate .stay = routine := by
  obtain ⟨params, body⟩ := routine
  simp only [Routine.relocate, Token.relocate_stay, List.map_id', Stmt.relocateAll_stay body]

theorem Routine.relocateMethods_stay (methods : List (Token × Routine)) :
    Routine.relocateMethods .stay methods = methods := by
  cases methods with
  | nil => rfl
  | cons method rest =>
    obtain ⟨name, routine⟩ := method
    rw [Routine.relocateMethods, Token.relocate_stay, routine.relocate_stay,
      Routine.relocateMethods_stay rest]

end

/-! ## Two relocations -/

section

variable (first second : Relocation)

mutual

theorem Expr.relocate_relocate (expr : Expr) :
    (expr.relocate first).relocate second = expr.relocate (first.andThen second) := by
  cases expr <;> simp only [Expr.relocate, Token.relocate_relocate] <;>
    simp only [Expr.relocate_relocate, Expr.relocateAll_relocate, Routine.relocate_relocate]

theorem Expr.relocateAll_relocate (exprs : List Expr) :
    Expr.relocateAll second (Expr.relocateAll first exprs) =
      Expr.relocateAll (first.andThen second) exprs := by
  cases exprs with
  | nil => rfl
  | cons expr rest =>
    simp only [Expr.relocateAll, expr.relocate_relocate, Expr.relocateAll_relocate rest]

theorem Expr.relocateOr_relocate (expr? : Option Expr) :
    Expr.relocateOr second (Expr.relocateOr first expr?) =
      Expr.relocateOr (first.andThen second) expr? := by
  cases expr? with
  | none => rfl
  | some expr => simp only [Expr.relocateOr, expr.relocate_relocate]

theorem Stmt.relocate_relocate (stmt : Stmt) :
    (stmt.relocate first).relocate second = stmt.relocate (first.andThen second) := by
  cases stmt <;>
    simp only [Stmt.relocate, Token.relocate_relocate, Option.map_map, Function.comp_def] <;>
    simp only [Expr.relocate_relocate, Expr.relocateOr_relocate, Stmt.relocate_relocate,
      Stmt.relocateAll_relocate, Stmt.relocateOr_relocate, Routine.relocate_relocate,
      Routine.relocateMethods_relocate]

theorem Stmt.relocateAll_relocate (stmts : List Stmt) :
    Stmt.relocateAll second (Stmt.relocateAll first stmts) =
      Stmt.relocateAll (first.andThen second) stmts := by
  cases stmts with
  | nil => rfl
  | cons stmt rest =>
    simp only [Stmt.relocateAll, stmt.relocate_relocate, Stmt.relocateAll_relocate rest]

theorem Stmt.relocateOr_relocate (stmt? : Option Stmt) :
    Stmt.relocateOr second (Stmt.relocateOr first stmt?) =
      Stmt.relocateOr (first.andThen second) stmt? := by
  cases stmt? with
  | none => rfl
  | some stmt => simp only [Stmt.relocateOr, stmt.relocate_relocate]

theorem Routine.relocate_relocate (routine : Routine) :
    (routine.relocate first).relocate second = routine.relocate (first.andThen second) := by
  obtain ⟨params, body⟩ := routine
  simp only [Routine.relocate, List.map_map, Function.comp_def, Token.relocate_relocate,
    Stmt.relocateAll_relocate body]

theorem Routine.relocateMethods_relocate (methods : List (Token × Routine)) :
    Routine.relocateMethods second (Routine.relocateMethods first methods) =
      Routine.relocateMethods (first.andThen second) methods := by
  cases methods with
  | nil => rfl
  | cons method rest =>
    obtain ⟨name, routine⟩ := method
    simp only [Routine.relocateMethods, Token.relocate_relocate, routine.relocate_relocate,
      Routine.relocateMethods_relocate rest]

end

end

end Lox
