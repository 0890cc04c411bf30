import Lox.Proofs.Control.Mirror
import Lox.Proofs.Run.Variable
import Lox.Proofs.Value.Relocation
import Lox.Run.Evaluate

/-!
# Running relocated programs

No run looks at the place of a token. A relocated program, run on a machine whose functions are
relocated, prints the same and binds the same names to relocated values; if it stops at an error, it
is the same error at the relocated token.
-/

namespace Lox

section

variable (move : Relocation)

def Machine.relocate (machine : Machine) : Machine :=
  { machine with store := machine.store.relocate move }

def RuntimeError.relocate : RuntimeError → RuntimeError
  | blamed cause token => blamed cause (token.relocate move)
  | output failure => output failure

def Halt.relocate : Halt → Halt
  | .error stop => .error (stop.relocate move)
  | .outOfFuel => .outOfFuel

def Completion.relocate : Completion → Completion
  | returned value => returned (value.relocate move)
  | completion => completion

end

theorem Machine.relocate_stay (machine : Machine) : machine.relocate .stay = machine := by
  simp only [Machine.relocate, Store.relocate_stay]

theorem Machine.relocate_relocate (first second : Relocation) (machine : Machine) :
    (machine.relocate first).relocate second = machine.relocate (first.andThen second) := by
  simp only [Machine.relocate, Store.relocate_relocate]

namespace Run

variable {move : Relocation} {α β : Type}

def mirror (move : Relocation) : Mirror Halt Machine :=
  ⟨Machine.relocate move, Halt.relocate move⟩

/-! ## Steps -/

theorem mirrors_outOfFuel {related : α → β → Prop} :
    Mirrors (mirror move) related (throw .outOfFuel) (throw .outOfFuel) :=
  fun _ => rfl

theorem mirrors_fail {related : α → β → Prop} (cause : RuntimeError.Cause) (token : Token) :
    Mirrors (mirror move) related (fail cause token) (fail cause (token.relocate move)) :=
  fun _ => rfl

theorem mirrors_get : Mirrors (mirror move) (Image (Machine.relocate move)) get get :=
  .of_ok (fun _ => rfl) (fun _ => rfl) fun _ => rfl

theorem mirrors_ofOperator {f : α → β} (operator : Token) (result : Except RuntimeError.Cause α) :
    Mirrors (mirror move) (Image f) (ofOperator operator result)
      (ofOperator (operator.relocate move) (result.map f)) := by
  cases result with
  | ok value => exact .pure rfl
  | error cause => exact mirrors_fail cause operator

theorem mirrors_lookup (name : Token) :
    Mirrors (mirror move) (Image (Value.relocate move)) (lookup name)
      (lookup (name.relocate move)) := by
  refine mirrors_get.bind_image fun machine => ?_
  simp only [Machine.relocate, Store.get?_relocate, Token.relocate_lexeme]
  cases machine.store.get? machine.scope name.lexeme with
  | some value => exact .pure rfl
  | none => exact mirrors_fail _ name

theorem mirrors_define (name : String) (value : Value) :
    Mirrors (mirror move) (Image id) (define name value) (define name (value.relocate move)) := by
  refine .of_ok (fun _ => rfl) (fun machine => ?_) fun _ => rfl
  show EStateM.Result.ok () _ = _
  simp only [mirror, Machine.relocate, Store.define_relocate]

theorem mirrors_assign (name : Token) (value : Value) :
    Mirrors (mirror move) (Image id) (assign name value)
      (assign (name.relocate move) (value.relocate move)) := by
  intro machine
  rw [run_assign, run_assign]
  simp only [mirror, Machine.relocate, Store.holder?_relocate, Token.relocate_lexeme]
  cases machine.store.holder? machine.scope name.lexeme with
  | some holder => exact ⟨(), rfl, by rw [Store.define_relocate]⟩
  | none => rfl

theorem mirrors_newScope (parent : ScopeId) (bindings : List (String × Value)) :
    Mirrors (mirror move) (Image id) (newScope parent bindings)
      (newScope parent (bindings.map fun binding => (binding.1, binding.2.relocate move))) := by
  refine .of_ok (fun _ => rfl) (fun machine => ?_) fun _ => rfl
  show EStateM.Result.ok _ _ = _
  simp only [mirror, Machine.relocate, Store.defineAll_relocate, id]
  simp [Store.relocate, Scope.relocate]

theorem mirrors_newClosure (name : Option String) (routine : Routine) :
    Mirrors (mirror move) (Image (Value.relocate move)) (newClosure name routine)
      (newClosure name (routine.relocate move)) :=
  .of_ok (fun _ => rfl) (fun _ => rfl) fun _ => rfl

theorem inScope_eq_wrap (scope : ScopeId) (run : Run α) :
    inScope scope run =
      wrap (fun machine => { machine with scope })
        (fun machine after => { after with scope := machine.scope }) run := by
  funext machine
  unfold inScope wrap
  cases run { machine with scope } <;> rfl

theorem mirrors_inScope {related : α → β → Prop} {run : Run α} {other : Run β} (scope : ScopeId)
    (mirrors : Mirrors (mirror move) related run other) :
    Mirrors (mirror move) related (inScope scope run) (inScope scope other) := by
  rw [inScope_eq_wrap, inScope_eq_wrap]
  exact mirrors.wrap (fun _ => rfl) fun _ _ => rfl

theorem mirrors_print (value : Value) :
    Mirrors (mirror move) (Image id) (print value) (print (value.relocate move)) := by
  unfold print
  rw [Value.text_relocate]
  refine Mirrors.bind_image (f := id) (.of_ok (fun _ => rfl) (fun _ => rfl) fun _ => rfl)
    fun complete => ?_
  cases complete with
  | true => exact .pure rfl
  | false => exact fun _ => rfl

theorem mirrors_flush : Mirrors (mirror move) (Image id) flush flush := by
  refine mirrors_get.bind_image fun machine => ?_
  show Mirrors _ _ _ (unless machine.sink.flushes do throw (Halt.error (.output .flush)))
  cases machine.sink.flushes with
  | true => exact .pure rfl
  | false => exact fun _ => rfl

theorem mirrors_readClock :
    Mirrors (mirror move) (Image (Value.relocate move)) readClock readClock :=
  .of_ok (fun _ => rfl) (fun _ => rfl) fun _ => rfl

/-! ## The induction -/

/-- With the given fuel, everything runs relocated as it runs. -/
structure Relocating (move : Relocation) (fuel : Nat) : Prop where
  evaluate : ∀ expr : Expr,
    Mirrors (mirror move) (Image (Value.relocate move)) (evaluate fuel expr)
      (evaluate fuel (expr.relocate move))
  evaluateAll : ∀ exprs : List Expr,
    Mirrors (mirror move) (Image (List.map (Value.relocate move))) (evaluateAll fuel exprs)
      (evaluateAll fuel (Expr.relocateAll move exprs))
  invoke : ∀ (callable : Callable) (arguments : List Value),
    Mirrors (mirror move) (Image (Value.relocate move)) (invoke fuel callable arguments)
      (invoke fuel (callable.relocate move) (arguments.map (Value.relocate move)))
  execute : ∀ stmt : Stmt,
    Mirrors (mirror move) (Image (Completion.relocate move)) (execute fuel stmt)
      (execute fuel (stmt.relocate move))
  evaluateOr : ∀ expr? : Option Expr,
    Mirrors (mirror move) (Image (Value.relocate move)) (evaluateOr fuel expr?)
      (evaluateOr fuel (Expr.relocateOr move expr?))
  executeAll : ∀ stmts : List Stmt,
    Mirrors (mirror move) (Image (Completion.relocate move)) (executeAll fuel stmts)
      (executeAll fuel (Stmt.relocateAll move stmts))
  executeLoop : ∀ (condition : Expr) (body : Stmt) (increment : Option Expr),
    Mirrors (mirror move) (Image (Completion.relocate move))
      (executeLoop fuel condition body increment)
      (executeLoop fuel (condition.relocate move) (body.relocate move)
        (Expr.relocateOr move increment))

section

variable {fuel : Nat} (relocating : Relocating move fuel)

include relocating

theorem mirrors_evaluate (expr : Expr) :
    Mirrors (mirror move) (Image (Value.relocate move)) (evaluate (fuel + 1) expr)
      (evaluate (fuel + 1) (expr.relocate move)) := by
  cases expr with
  | literal value => exact .pure (Value.relocate_ofLiteral value).symm
  | var name => exact mirrors_lookup name
  | assign name value =>
    refine (relocating.evaluate value).bind_image fun value => ?_
    exact (mirrors_assign name value).bind_image fun _ => .pure rfl
  | unary op operator operand =>
    refine (relocating.evaluate operand).bind_image fun operand => ?_
    rw [op.apply_relocate]
    exact mirrors_ofOperator operator _
  | binary op operator left right =>
    refine (relocating.evaluate left).bind_image fun left => ?_
    refine (relocating.evaluate right).bind_image fun right => ?_
    rw [op.apply_relocate]
    exact mirrors_ofOperator operator _
  | logical op operator left right =>
    refine (relocating.evaluate left).bind_image fun left => ?_
    rw [op.settledBy_relocate]
    split
    · exact .pure rfl
    · exact relocating.evaluate right
  | comma operator left right =>
    exact (relocating.evaluate left).bind_image fun _ => relocating.evaluate right
  | conditional condition yes no =>
    refine (relocating.evaluate condition).bind_image fun value => ?_
    rw [value.truthy_relocate]
    split
    · exact relocating.evaluate yes
    · exact relocating.evaluate no
  | grouping inner => exact relocating.evaluate inner
  | call callee paren arguments =>
    refine (relocating.evaluate callee).bind_image fun function => ?_
    refine (relocating.evaluateAll arguments).bind_image fun values => ?_
    cases function with
    | callable callable =>
      simp only [Value.relocate, Callable.arity_relocate, List.length_map]
      split
      · exact relocating.invoke callable values
      · exact mirrors_fail _ paren
    | _ => exact mirrors_fail _ paren
  | lambda routine => exact mirrors_newClosure none routine
  | get object name => exact mirrors_fail _ name
  | set object name value => exact mirrors_fail _ name
  | self keyword => exact mirrors_fail _ keyword
  | super keyword method => exact mirrors_fail _ keyword

theorem mirrors_evaluateAll (exprs : List Expr) :
    Mirrors (mirror move) (Image (List.map (Value.relocate move))) (evaluateAll (fuel + 1) exprs)
      (evaluateAll (fuel + 1) (Expr.relocateAll move exprs)) := by
  cases exprs with
  | nil => exact .pure rfl
  | cons expr rest =>
    exact (relocating.evaluate expr).bind_image fun _ =>
      (relocating.evaluateAll rest).bind_image fun _ => .pure rfl

theorem mirrors_evaluateOr (expr? : Option Expr) :
    Mirrors (mirror move) (Image (Value.relocate move)) (evaluateOr (fuel + 1) expr?)
      (evaluateOr (fuel + 1) (Expr.relocateOr move expr?)) := by
  cases expr? with
  | none => exact .pure rfl
  | some expr => exact relocating.evaluate expr

theorem mirrors_invoke (callable : Callable) (arguments : List Value) :
    Mirrors (mirror move) (Image (Value.relocate move)) (invoke (fuel + 1) callable arguments)
      (invoke (fuel + 1) (callable.relocate move) (arguments.map (Value.relocate move))) := by
  obtain ⟨identity, action⟩ := callable
  cases action with
  | native native arity =>
    cases native
    exact mirrors_readClock
  | closure name routine scope =>
    obtain ⟨params, body⟩ := routine
    have names : (params.map (·.relocate move)).map (·.lexeme) = params.map (·.lexeme) := by simp
    have bound : (((params.map (·.relocate move)).map (·.lexeme)).zip
          (arguments.map (Value.relocate move))) =
        ((params.map (·.lexeme)).zip arguments).map
          fun binding => (binding.1, binding.2.relocate move) := by
      rw [names, List.zip_map_right]
      rfl
    simp only [Callable.relocate, Action.relocate, Routine.relocate, invoke, Observer.invoke, bound]
    refine (mirrors_newScope scope _).bind_image fun inner => ?_
    refine (mirrors_inScope inner (relocating.executeAll body)).bind_image fun completion => ?_
    cases completion <;> exact .pure rfl

theorem mirrors_execute (stmt : Stmt) :
    Mirrors (mirror move) (Image (Completion.relocate move)) (execute (fuel + 1) stmt)
      (execute (fuel + 1) (stmt.relocate move)) := by
  cases stmt with
  | expression value => exact (relocating.evaluate value).bind_image fun _ => .pure rfl
  | print value =>
    exact (relocating.evaluate value).bind_image fun value =>
      (mirrors_print value).bind_image fun _ => .pure rfl
  | define name initializer =>
    exact (relocating.evaluateOr initializer).bind_image fun value =>
      (mirrors_define name.lexeme value).bind_image fun _ => .pure rfl
  | block body =>
    refine mirrors_get.bind_image fun machine => ?_
    refine (mirrors_newScope machine.scope []).bind_image fun inner => ?_
    exact mirrors_inScope inner (relocating.executeAll body)
  | branch condition yes no =>
    refine (relocating.evaluate condition).bind_image fun value => ?_
    rw [value.truthy_relocate]
    split
    · exact relocating.execute yes
    · cases no with
      | some no => exact relocating.execute no
      | none => exact .pure rfl
  | loop condition body increment => exact relocating.executeLoop condition body increment
  | breakLoop keyword => exact .pure rfl
  | continueLoop keyword => exact .pure rfl
  | function name routine =>
    exact (mirrors_newClosure _ routine).bind_image fun value =>
      (mirrors_define name.lexeme value).bind_image fun _ => .pure rfl
  | giveBack keyword value =>
    exact (relocating.evaluateOr value).bind_image fun _ => .pure rfl
  | classDecl name superclass methods => exact mirrors_fail _ name

theorem mirrors_executeAll (stmts : List Stmt) :
    Mirrors (mirror move) (Image (Completion.relocate move)) (executeAll (fuel + 1) stmts)
      (executeAll (fuel + 1) (Stmt.relocateAll move stmts)) := by
  cases stmts with
  | nil => exact .pure rfl
  | cons stmt rest =>
    refine (relocating.execute stmt).bind_image fun completion => ?_
    cases completion with
    | normal => exact relocating.executeAll rest
    | _ => exact .pure rfl

theorem mirrors_executeLoop (condition : Expr) (body : Stmt) (increment : Option Expr) :
    Mirrors (mirror move) (Image (Completion.relocate move))
      (executeLoop (fuel + 1) condition body increment)
      (executeLoop (fuel + 1) (condition.relocate move) (body.relocate move)
        (Expr.relocateOr move increment)) := by
  have again := relocating.executeLoop condition body increment
  refine (relocating.evaluate condition).bind_image fun value => ?_
  rw [value.truthy_relocate]
  split
  · refine (relocating.execute body).bind_image fun completion => ?_
    cases completion with
    | broke => exact .pure rfl
    | returned value => exact .pure rfl
    | normal => exact (relocating.evaluateOr increment).bind_image fun _ => again
    | continued => exact (relocating.evaluateOr increment).bind_image fun _ => again
  · exact .pure rfl

end

/-- The induction over the fuel. -/
theorem relocating (move : Relocation) (fuel : Nat) : Relocating move fuel := by
  induction fuel with
  | zero => constructor <;> intros <;> exact mirrors_outOfFuel
  | succ fuel ih =>
    exact {
      evaluate := mirrors_evaluate ih
      evaluateAll := mirrors_evaluateAll ih
      invoke := mirrors_invoke ih
      execute := mirrors_execute ih
      evaluateOr := mirrors_evaluateOr ih
      executeAll := mirrors_executeAll ih
      executeLoop := mirrors_executeLoop ih }

/-! ## Programs -/

theorem mirrors_executeTop (echo : Bool) (fuel : Nat) (stmt : Stmt) :
    Mirrors (mirror move) Eq (executeTop echo fuel stmt)
      (executeTop echo fuel (stmt.relocate move)) := by
  have executed := ((relocating move fuel).execute stmt).discard
  cases echo with
  | false => cases stmt <;> exact executed
  | true =>
    cases stmt with
    | expression value =>
      exact ((relocating move fuel).evaluate value).bind_image fun value =>
        (mirrors_print value).mono fun _ _ _ => rfl
    | _ => exact executed

theorem mirrors_forM (echo : Bool) (fuel : Nat) (program : List Stmt) :
    Mirrors (mirror move) Eq (program.forM (executeTop echo fuel))
      ((program.map (·.relocate move)).forM (executeTop echo fuel)) := by
  induction program with
  | nil => exact .pure rfl
  | cons stmt rest ih =>
    exact (mirrors_executeTop echo fuel stmt).bind fun _ _ _ => ih

theorem mirrors_runProgram (echo : Bool) (fuel : Nat) (program : List Stmt) :
    Mirrors (mirror move) Eq (runProgram echo fuel program)
      (runProgram echo fuel (program.map (·.relocate move))) := by
  have outermost : Mirrors (mirror move) Eq
      (modify (m := Run) fun machine => { machine with scope := machine.globals })
      (modify fun machine => { machine with scope := machine.globals }) :=
    .of_ok (fun _ => rfl) (fun _ => rfl) fun _ => rfl
  refine outermost.bind fun _ _ _ => (mirrors_forM echo fuel program).bind fun _ _ _ => ?_
  exact mirrors_flush.mono fun _ _ _ => rfl

/-- How a run of a relocated program ends. -/
def relocateResult (move : Relocation) :
    EStateM.Result Halt Machine Unit → EStateM.Result Halt Machine Unit
  | .ok _ after => .ok () (after.relocate move)
  | .error halt after => .error (halt.relocate move) (after.relocate move)

theorem runProgram_relocate (echo : Bool) (fuel : Nat) (program : List Stmt) (machine : Machine) :
    runProgram echo fuel (program.map (·.relocate move)) (machine.relocate move) =
      relocateResult move (runProgram echo fuel program machine) := by
  have mirrors : Mirrors (mirror move) _ _ _ := mirrors_runProgram echo fuel program
  have ends := mirrors machine
  cases result : runProgram echo fuel program machine with
  | ok value after =>
    rw [result] at ends
    obtain ⟨_, _, same⟩ := ends
    exact same
  | error halt after =>
    rw [result] at ends
    exact ends

end Run
end Lox
