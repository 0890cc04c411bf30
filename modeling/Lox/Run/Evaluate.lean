import Lox.Run.Observer
import Lox.Run.Operator

/-!
# Running programs

Expressions are evaluated and statements executed by functions that call each other, each call with
less fuel. With too little fuel the run stops as out of fuel, which is no error of the program.

There is one evaluator for all observers. A program is run by that of the observer who only runs it.
-/

namespace Lox.Run

namespace Observer

variable {m : Type → Type} [Monad m] (observer : Observer m)

/-- Stops for want of fuel. -/
def starve {α : Type} : m α :=
  observer.step (throw .outOfFuel)

/-- Stops with an error that blames a token. -/
def blame {α : Type} (cause : RuntimeError.Cause) (token : Token) : m α :=
  observer.step (fail cause token)

mutual

def evaluate : (fuel : Nat) → Expr → m Value
  | 0, _ => observer.starve
  | fuel + 1, expr =>
    match expr with
    | .literal value => return .ofLiteral value
    | .var name => observer.step (lookup name)
    | .assign name value => do
      let value ← evaluate fuel value
      observer.step (assign name value)
      return value
    | .unary op operator operand => do
      let operand ← evaluate fuel operand
      observer.step (ofOperator operator (op.apply operand))
    | .binary op operator left right => do
      let left ← evaluate fuel left
      let right ← evaluate fuel right
      observer.step (ofOperator operator (op.apply left right))
    | .logical op _ left right => do
      let left ← evaluate fuel left
      if op.settledBy left then return left else evaluate fuel right
    | .comma _ left right => do
      let _ ← evaluate fuel left
      evaluate fuel right
    | .conditional condition yes no => do
      if (← evaluate fuel condition).truthy then evaluate fuel yes else evaluate fuel no
    | .grouping inner => evaluate fuel inner
    | .call callee paren arguments => do
      let callee ← evaluate fuel callee
      let arguments ← evaluateAll fuel arguments
      match callee with
      | .callable callable =>
        if arguments.length = callable.arity then invoke fuel callable arguments
        else observer.blame (.arityMismatch callable.arity arguments.length) paren
      | _ => observer.blame .notCallable paren
    | .lambda routine => observer.newClosure none routine
    | .get _ name => observer.blame (.unsupported .propertyAccess) name
    | .set _ name _ => observer.blame (.unsupported .propertyAssignment) name
    | .self keyword => observer.blame (.unsupported .self) keyword
    | .super keyword _ => observer.blame (.unsupported .super) keyword

/-- Evaluates arguments from left to right. -/
def evaluateAll : (fuel : Nat) → List Expr → m (List Value)
  | 0, _ => observer.starve
  | fuel + 1, exprs =>
    match exprs with
    | [] => return []
    | expr :: rest => do
      let value ← evaluate fuel expr
      let values ← evaluateAll fuel rest
      return value :: values

/-- Calls a function with as many arguments as it takes. A body that does not return gives nil. -/
def invoke : (fuel : Nat) → Callable → List Value → m Value
  | 0, _, _ => observer.starve
  | fuel + 1, callable, arguments =>
    match callable.action with
    | .native .clock _ => observer.step readClock
    | .closure _ routine scope => do
      let inner ← observer.step (newScope scope ((routine.params.map (·.lexeme)).zip arguments))
      match ← observer.complete .body (observer.inScope inner (executeAll fuel routine.body)) with
      | .returned value => return value
      | _ => return .nil

def execute : (fuel : Nat) → Stmt → m Completion
  | 0, _ => observer.starve
  | fuel + 1, stmt =>
    match stmt with
    | .expression value => do
      let _ ← evaluate fuel value
      return .normal
    | .print value => do
      observer.step (print (← evaluate fuel value))
      return .normal
    | .define name initializer => do
      let value ← evaluateOr fuel initializer
      observer.step (define name.lexeme value)
      return .normal
    | .block body => do
      let inner ← observer.step (newScope (← observer.step get).scope [])
      observer.inScope inner (executeAll fuel body)
    | .branch condition yes no => do
      if (← evaluate fuel condition).truthy then execute fuel yes
      else
        match no with
        | some no => execute fuel no
        | none => return .normal
    | .loop condition body increment =>
      observer.complete .loop (executeLoop fuel condition body increment)
    | .breakLoop _ => return .broke
    | .continueLoop _ => return .continued
    | .function name routine => do
      observer.step (define name.lexeme (← observer.newClosure (some name.lexeme) routine))
      return .normal
    | .giveBack _ value => do
      let value ← evaluateOr fuel value
      return .returned value
    | .classDecl name _ _ => observer.blame (.unsupported .classes) name

/-- Evaluates an expression that may be left out, for nil. -/
def evaluateOr : (fuel : Nat) → Option Expr → m Value
  | 0, _ => observer.starve
  | fuel + 1, expr? =>
    match expr? with
    | some expr => evaluate fuel expr
    | none => return .nil

/-- Executes statements up to the first that does not end normally. -/
def executeAll : (fuel : Nat) → List Stmt → m Completion
  | 0, _ => observer.starve
  | fuel + 1, stmts =>
    match stmts with
    | [] => return .normal
    | stmt :: rest => do
      match ← execute fuel stmt with
      | .normal => executeAll fuel rest
      | completion => return completion

/-- Executes the rounds of a loop. -/
def executeLoop : (fuel : Nat) → Expr → Stmt → Option Expr → m Completion
  | 0, _, _, _ => observer.starve
  | fuel + 1, condition, body, increment => do
    if (← evaluate fuel condition).truthy then
      match ← execute fuel body with
      | .broke => return .normal
      | .returned value => return .returned value
      | .normal | .continued =>
        let _ ← evaluateOr fuel increment
        executeLoop fuel condition body increment
    else return .normal

end

/-- Executes a statement at the top of a program. In echo mode the value of an expression statement
is printed. -/
def executeTop (echo : Bool) (fuel : Nat) (stmt : Stmt) : m Unit :=
  match echo, stmt with
  | true, .expression value => do observer.step (print (← observer.evaluate fuel value))
  | _, stmt => discard (observer.complete .top (observer.execute fuel stmt))

/-- Runs a program from the global scope and flushes what it printed. -/
def runProgram (echo : Bool) (fuel : Nat) (program : List Stmt) : m Unit := do
  observer.step (modify fun machine => { machine with scope := machine.globals })
  program.forM (observer.executeTop echo fuel)
  observer.step flush

end Observer

def evaluate (fuel : Nat) (expr : Expr) : Run Value :=
  Observer.idle.evaluate fuel expr

def evaluateAll (fuel : Nat) (exprs : List Expr) : Run (List Value) :=
  Observer.idle.evaluateAll fuel exprs

def invoke (fuel : Nat) (callable : Callable) (arguments : List Value) : Run Value :=
  Observer.idle.invoke fuel callable arguments

def execute (fuel : Nat) (stmt : Stmt) : Run Completion :=
  Observer.idle.execute fuel stmt

def evaluateOr (fuel : Nat) (expr? : Option Expr) : Run Value :=
  Observer.idle.evaluateOr fuel expr?

def executeAll (fuel : Nat) (stmts : List Stmt) : Run Completion :=
  Observer.idle.executeAll fuel stmts

def executeLoop (fuel : Nat) (condition : Expr) (body : Stmt) (increment : Option Expr) :
    Run Completion :=
  Observer.idle.executeLoop fuel condition body increment

def executeTop (echo : Bool) (fuel : Nat) (stmt : Stmt) : Run Unit :=
  Observer.idle.executeTop echo fuel stmt

/-- Runs a program from the global scope and flushes what it printed. -/
def runProgram (echo : Bool) (fuel : Nat) (program : List Stmt) : Run Unit :=
  Observer.idle.runProgram echo fuel program

end Lox.Run
