import Lox.Run.Error
import Lox.Value.Store

/-!
# The machine

The state in which a program runs, and the steps that read or change it. A run ends with a result,
with an error of the program, or because its fuel is used up; the state is kept in each case.
-/

namespace Lox

structure Machine where
  store : Store
  /-- The outermost scope. -/
  globals : ScopeId
  /-- The scope in which names are looked up now. -/
  scope : ScopeId
  sink : Sink
  /-- What the clock shows, reading by reading. -/
  clock : Nat → Number
  /-- How many readings were taken. -/
  readings : Nat

/-- Why a run stopped early. -/
inductive Halt where
  | error (error : RuntimeError)
  | outOfFuel
  deriving DecidableEq, Repr

/-- A run that gives an `α`. -/
abbrev Run := EStateM Halt Machine

/-- How a statement ended. All but `normal` leave the statements around it, up to a loop or a
call. -/
inductive Completion where
  | normal
  | broke
  | continued
  | returned (value : Value)

namespace Machine

/-- A machine whose global scope binds the native functions. -/
def fresh (sink : Sink) (clock : Nat → Number) : Machine :=
  let (globals, store) := Store.empty.newScope none
  { store := store.defineNatives globals, globals, scope := globals, sink, clock, readings := 0 }

end Machine

namespace Run

variable {α : Type}

def fail (cause : RuntimeError.Cause) (token : Token) : Run α :=
  throw (.error (.blamed cause token))

/-- Takes the result of an operator, or blames its token. -/
def ofOperator (token : Token) : Except RuntimeError.Cause α → Run α
  | .ok value => return value
  | .error cause => fail cause token

/-- Looks a variable up from the current scope. -/
def lookup (name : Token) : Run Value := do
  let machine ← get
  match machine.store.get? machine.scope name.lexeme with
  | some value => return value
  | none => fail (.undefinedVariable name.lexeme) name

/-- Binds a name in the current scope. -/
def define (name : String) (value : Value) : Run Unit :=
  modify fun machine =>
    { machine with store := machine.store.define machine.scope name value }

/-- Changes the nearest binding of a variable. -/
def assign (name : Token) (value : Value) : Run Unit := do
  let assigned ← modifyGet fun machine =>
    let (assigned, store) := machine.store.assign machine.scope name.lexeme value
    (assigned, { machine with store })
  unless assigned do fail (.undefinedVariable name.lexeme) name

/-- Makes a scope inside `parent`, with the given bindings made one after the other. -/
def newScope (parent : ScopeId) (bindings : List (String × Value)) : Run ScopeId :=
  modifyGet fun machine =>
    let (id, store) := machine.store.newScope (some parent)
    let store := bindings.foldl (fun store (name, value) => store.define id name value) store
    (id, { machine with store })

/-- Makes a function in the current scope. -/
def newClosure (name : Option String) (routine : Routine) : Run Value :=
  modifyGet fun machine =>
    let (callable, store) := machine.store.newCallable (.closure name routine machine.scope)
    (.callable callable, { machine with store })

/-- Runs in another scope and comes back to the current one, however the run ends. -/
@[inline]
def inScope (scope : ScopeId) (run : Run α) : Run α := fun machine =>
  let current := machine.scope
  match run { machine with scope } with
  | .ok a after => .ok a { after with scope := current }
  | .error halt after => .error halt { after with scope := current }

/-- Prints a value and a line feed. -/
def print (value : Value) : Run Unit := do
  let complete ← modifyGet fun machine =>
    let (complete, sink) := machine.sink.write (value.text ++ "\n")
    (complete, { machine with sink })
  unless complete do throw (.error (.output .full))

def flush : Run Unit := do
  unless (← get).sink.flushes do throw (.error (.output .flush))

/-- Reads the clock. -/
def readClock : Run Value :=
  modifyGet fun machine =>
    (.number (machine.clock machine.readings), { machine with readings := machine.readings + 1 })

end Run
end Lox
