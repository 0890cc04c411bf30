import Lox.Value.Basic

/-!
# The store

Scopes bind names to values and link to the scope around them. They live in one store, which only
grows: a scope, once made, keeps its place and its link. The store also issues the identities of
callable values.
-/

namespace Lox

structure Scope where
  /-- The names bound here, each once. -/
  bindings : List (String × Value)
  /-- The scope around this one. -/
  parent : Option ScopeId

instance : Inhabited Scope := ⟨⟨[], none⟩⟩

namespace Scope

def get? (scope : Scope) (name : String) : Option Value :=
  scope.bindings.lookup name

/-- Gives `name` a value, in place of an earlier one if it has one. -/
def bind (name : String) (value : Value) : List (String × Value) → List (String × Value)
  | [] => [(name, value)]
  | (known, old) :: rest =>
    if known = name then (name, value) :: rest else (known, old) :: bind name value rest

def define (scope : Scope) (name : String) (value : Value) : Scope :=
  { scope with bindings := bind name value scope.bindings }

def names (scope : Scope) : List String :=
  scope.bindings.map (·.1)

end Scope

structure Store where
  scopes : Array Scope
  /-- How many identities are issued. -/
  issued : Nat

namespace Store

def empty : Store := ⟨#[], 0⟩

def scope? (store : Store) (id : ScopeId) : Option Scope :=
  store.scopes[id.index]?

/-- Makes a scope without bindings. -/
def newScope (store : Store) (parent : Option ScopeId) : ScopeId × Store :=
  (⟨store.scopes.size⟩, { store with scopes := store.scopes.push ⟨[], parent⟩ })

/-- Makes a callable value that is equal to none made before. -/
def newCallable (store : Store) (action : Action) : Callable × Store :=
  (⟨store.issued, action⟩, { store with issued := store.issued + 1 })

/-- Binds a name in a scope itself, whatever the scopes around it bind. -/
def define (store : Store) (id : ScopeId) (name : String) (value : Value) : Store :=
  { store with scopes := store.scopes.modify id.index (·.define name value) }

/-- The scopes from one outward, at most `count` of them. -/
def chainFor (store : Store) : (count : Nat) → ScopeId → List ScopeId
  | 0, _ => []
  | count + 1, id =>
    match store.scope? id with
    | none => []
    | some scope =>
      match scope.parent with
      | none => [id]
      | some parent => id :: store.chainFor count parent

/-- The scopes from one outward. A scope is made after the one around it, so no chain is longer
than the place of its first scope allows. -/
def chain (store : Store) (id : ScopeId) : List ScopeId :=
  store.chainFor (id.index + 1) id

/-- The value of a name in the nearest of at most `count` scopes outward that binds it. -/
def getFor? (store : Store) (name : String) : (count : Nat) → ScopeId → Option Value
  | 0, _ => none
  | count + 1, id =>
    match store.scope? id with
    | none => none
    | some scope =>
      match scope.get? name, scope.parent with
      | some value, _ => some value
      | none, some parent => store.getFor? name count parent
      | none, none => none

/-- The value of a name, seen from a scope. -/
def get? (store : Store) (id : ScopeId) (name : String) : Option Value :=
  store.getFor? name (id.index + 1) id

/-- Gives a new value to a name in the nearest of at most `count` scopes outward that binds it, and
says whether there is one. -/
def assignFor (store : Store) (name : String) (value : Value) :
    (count : Nat) → ScopeId → Bool × Store
  | 0, _ => (false, store)
  | count + 1, id =>
    match store.scope? id with
    | none => (false, store)
    | some scope =>
      match scope.get? name, scope.parent with
      | some _, _ => (true, store.define id name value)
      | none, some parent => store.assignFor name value count parent
      | none, none => (false, store)

/-- Gives a new value to a name where it is bound, seen from a scope, and says whether it is bound.
No binding is made. -/
def assign (store : Store) (id : ScopeId) (name : String) (value : Value) : Bool × Store :=
  store.assignFor name value (id.index + 1) id

/-- The store in which a name has a new value, if it is bound. -/
def assign? (store : Store) (id : ScopeId) (name : String) (value : Value) : Option Store :=
  match store.assign id name value with
  | (true, store) => some store
  | (false, _) => none

/-- How many scopes there are from one outward. -/
def depth (store : Store) (id : ScopeId) : Nat :=
  (store.chain id).length

/-- Binds the native functions in a scope. -/
def defineNatives (store : Store) (id : ScopeId) : Store :=
  let (clock, store) := store.newCallable (.native .clock 0)
  store.define id Native.clock.name (.callable clock)

/-- The order of names by their UTF-8 bytes, which is that of their code points. -/
def nameLe (left right : String) : Bool :=
  !right.toList.lex left.toList

/-- The description of a scope: its names in order, and how deep it lies. -/
def description (store : Store) (id : ScopeId) : String :=
  let names := (((store.scope? id).map Scope.names).getD []).mergeSort nameLe
  "Environment \x7b names: [" ++ ", ".intercalate (names.map Text.quoted) ++ "], depth: " ++
    toString (store.depth id) ++ " \x7d"

end Store
end Lox
