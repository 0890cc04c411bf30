import Lox.Program.Tree
import Lox.Text.Quoted

/-!
# Values

What expressions evaluate to. Each callable value carries an identity, issued when it is made, and
is equal to itself alone.
-/

namespace Lox

/-- The place of a scope in the store. -/
structure ScopeId where
  index : Nat
  deriving DecidableEq, Repr, Inhabited

/-- A function that the language provides. -/
inductive Native where
  | clock
  deriving DecidableEq, Repr

/-- The name by which a native function is known to programs. -/
def Native.name : Native → String
  | clock => "clock"

/-- What a call does. -/
inductive Action where
  /-- Runs a routine in a new scope inside the scope in which the function was made. -/
  | closure (name : Option String) (routine : Routine) (scope : ScopeId)
  | native (function : Native) (arity : Nat)

structure Callable where
  identity : Nat
  action : Action

namespace Callable

/-- How many arguments a call takes. -/
def arity (callable : Callable) : Nat :=
  match callable.action with
  | .closure _ routine _ => routine.params.length
  | .native _ arity => arity

def text (callable : Callable) : String :=
  match callable.action with
  | .closure (some name) _ _ => "<fn " ++ name ++ ">"
  | .closure none _ _ => "<fn anonymous>"
  | .native function _ => "<native fn " ++ function.name ++ ">"

/-- The full description of a function of the program; a native function has none. -/
def description? (callable : Callable) : Option String :=
  match callable.action with
  | .closure name _ _ =>
    let shown :=
      match name with
      | some name => "Some(" ++ Text.quoted name ++ ")"
      | none => "None"
    some ("Callable(LoxFunction \x7b name: " ++ shown ++ ", arity: " ++ toString callable.arity ++
      " \x7d)")
  | .native _ _ => none

end Callable

inductive Value where
  | nil
  | bool (value : Bool)
  | number (value : Number)
  | string (value : String)
  | callable (value : Callable)

instance : Inhabited Value := ⟨.nil⟩

/-- The types that programs can tell apart. -/
inductive ValueType where
  | nil | bool | number | string | callable
  deriving DecidableEq, Repr

def ValueType.name : ValueType → String
  | nil => "nil"
  | bool => "boolean"
  | number => "number"
  | string => "string"
  | callable => "function"

namespace Value

def ofLiteral : Literal → Value
  | .nil => .nil
  | .bool value => .bool value
  | .number value => .number value
  | .string value => .string value

def type : Value → ValueType
  | nil => .nil
  | bool _ => .bool
  | number _ => .number
  | string _ => .string
  | callable _ => .callable

/-- All values but `nil` and `false` count as true. -/
def truthy : Value → Bool
  | nil => false
  | bool value => value
  | _ => true

/-- Equality as programs see it. Nothing is converted, so values of two types differ. -/
def equal : Value → Value → Bool
  | nil, nil => true
  | bool left, bool right => left == right
  | number left, number right => left.equal right
  | string left, string right => left == right
  | callable left, callable right => left.identity == right.identity
  | _, _ => false

/-- The text that is printed of a value. -/
def text : Value → String
  | nil => "nil"
  | bool value => if value then "true" else "false"
  | number value => value.text .value
  | string value => value
  | callable value => value.text

def number? : Value → Option Number
  | number value => some value
  | _ => none

theorem equal_comm (left right : Value) : left.equal right = right.equal left := by
  cases left <;> cases right <;> simp [equal, Number.equal_comm, Bool.beq_comm]

end Value
end Lox
