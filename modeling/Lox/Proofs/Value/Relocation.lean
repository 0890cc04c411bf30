import Lox.Proofs.Program.Relocation
import Lox.Proofs.Value.Holder
import Lox.Run.Operator

/-!
# Values and stores with relocated functions

A function value keeps the tokens of its routine, and a store those of all functions bound in it. To
relocate a value or a store is to relocate these tokens: which scopes there are, what they bind and
what programs see of a value stays.
-/

namespace Lox

section

variable (move : Relocation)

def Action.relocate : Action → Action
  | closure name routine scope => closure name (routine.relocate move) scope
  | native function arity => native function arity

def Callable.relocate (callable : Callable) : Callable :=
  { callable with action := callable.action.relocate move }

def Value.relocate : Value → Value
  | callable function => callable (function.relocate move)
  | value => value

def Scope.relocate (scope : Scope) : Scope :=
  { scope with bindings := scope.bindings.map fun binding => (binding.1, binding.2.relocate move) }

def Store.relocate (store : Store) : Store :=
  { store with scopes := store.scopes.map (Scope.relocate move) }

end

/-! ## No relocation, and two -/

section

variable (first second : Relocation)

theorem Action.relocate_stay (action : Action) : action.relocate .stay = action := by
  cases action with
  | closure name routine scope => simp only [Action.relocate, Routine.relocate_stay]
  | native function arity => rfl

theorem Action.relocate_relocate (action : Action) :
    (action.relocate first).relocate second = action.relocate (first.andThen second) := by
  cases action with
  | closure name routine scope => simp only [Action.relocate, Routine.relocate_relocate]
  | native function arity => rfl

theorem Value.relocate_stay (value : Value) : value.relocate .stay = value := by
  cases value with
  | callable function => simp only [Value.relocate, Callable.relocate, Action.relocate_stay]
  | _ => rfl

theorem Value.relocate_relocate (value : Value) :
    (value.relocate first).relocate second = value.relocate (first.andThen second) := by
  cases value with
  | callable function => simp only [Value.relocate, Callable.relocate, Action.relocate_relocate]
  | _ => rfl

theorem Store.relocate_stay (store : Store) : store.relocate .stay = store := by
  have same : Scope.relocate .stay = id := by
    funext scope
    simp [Scope.relocate, Value.relocate_stay]
  simp [Store.relocate, same]

theorem Store.relocate_relocate (store : Store) :
    (store.relocate first).relocate second = store.relocate (first.andThen second) := by
  have same : Scope.relocate second ∘ Scope.relocate first =
      Scope.relocate (first.andThen second) := by
    funext scope
    simp [Scope.relocate, Value.relocate_relocate, Function.comp_def]
  simp [Store.relocate, same]

end

variable {move : Relocation}

/-! ## What programs see of a value -/

@[simp] theorem Callable.arity_relocate (callable : Callable) :
    (callable.relocate move).arity = callable.arity := by
  obtain ⟨identity, action⟩ := callable
  cases action with
  | closure name routine scope =>
    obtain ⟨params, body⟩ := routine
    simp [Callable.arity, Callable.relocate, Action.relocate, Routine.relocate]
  | native function arity => rfl

@[simp] theorem Callable.text_relocate (callable : Callable) :
    (callable.relocate move).text = callable.text := by
  obtain ⟨identity, action⟩ := callable
  cases action with
  | closure name routine scope => cases name <;> rfl
  | native function arity => rfl

namespace Value

@[simp] theorem relocate_bool (value : Bool) : (bool value).relocate move = bool value := rfl

@[simp] theorem relocate_ofLiteral (literal : Literal) :
    (ofLiteral literal).relocate move = ofLiteral literal := by
  cases literal <;> rfl

@[simp] theorem truthy_relocate (value : Value) : (value.relocate move).truthy = value.truthy := by
  cases value <;> rfl

@[simp] theorem text_relocate (value : Value) : (value.relocate move).text = value.text := by
  cases value with
  | callable function => exact function.text_relocate
  | _ => rfl

@[simp] theorem equal_relocate (left right : Value) :
    (left.relocate move).equal (right.relocate move) = left.equal right := by
  cases left <;> cases right <;> rfl

end Value

/-! ## Operators -/

/-- The result of an operator is no function, so there is nothing in it to relocate. -/
theorem UnaryOp.apply_relocate (op : UnaryOp) (operand : Value) :
    op.apply (operand.relocate move) = (op.apply operand).map (Value.relocate move) := by
  cases op with
  | not => simp [UnaryOp.apply, Except.map]
  | negate => cases operand <;> rfl

theorem arithmetic_relocate (operation : Number → Number → Number) (left right : Value) :
    arithmetic operation (left.relocate move) (right.relocate move) =
      (arithmetic operation left right).map (Value.relocate move) := by
  cases left <;> cases right <;> rfl

theorem addValues_relocate (left right : Value) :
    addValues (left.relocate move) (right.relocate move) =
      (addValues left right).map (Value.relocate move) := by
  cases left <;> cases right <;> simp [addValues, Value.relocate, Except.map, Value.text]

theorem divideValues_relocate (left right : Value) :
    divideValues (left.relocate move) (right.relocate move) =
      (divideValues left right).map (Value.relocate move) := by
  cases left <;> cases right <;> try rfl
  simp only [Value.relocate, divideValues]
  split <;> rfl

theorem compareValues_relocate (comparison : Number → Number → Bool) (left right : Value) :
    compareValues comparison (left.relocate move) (right.relocate move) =
      (compareValues comparison left right).map (Value.relocate move) := by
  cases left <;> cases right <;> rfl

theorem BinaryOp.apply_relocate (op : BinaryOp) (left right : Value) :
    op.apply (left.relocate move) (right.relocate move) =
      (op.apply left right).map (Value.relocate move) := by
  cases op with
  | add => exact addValues_relocate left right
  | subtract => exact arithmetic_relocate _ left right
  | multiply => exact arithmetic_relocate _ left right
  | divide => exact divideValues_relocate left right
  | equal => simp [BinaryOp.apply, Except.map]
  | notEqual => simp [BinaryOp.apply, Except.map]
  | less => exact compareValues_relocate _ left right
  | lessEqual => exact compareValues_relocate _ left right
  | greater => exact compareValues_relocate _ left right
  | greaterEqual => exact compareValues_relocate _ left right

theorem LogicalOp.settledBy_relocate (op : LogicalOp) (left : Value) :
    op.settledBy (left.relocate move) = op.settledBy left := by
  cases op <;> simp [LogicalOp.settledBy]

/-! ## Stores -/

namespace Scope

theorem get?_relocate (scope : Scope) (name : String) :
    (scope.relocate move).get? name = (scope.get? name).map (Value.relocate move) := by
  suffices ∀ bindings : List (String × Value),
      (bindings.map fun binding => (binding.1, binding.2.relocate move)).lookup name =
        (bindings.lookup name).map (Value.relocate move) from this scope.bindings
  intro bindings
  induction bindings with
  | nil => rfl
  | cons first rest ih =>
    rw [List.map_cons, List.lookup_cons, List.lookup_cons, ih]
    cases name == first.1 <;> rfl

theorem define_relocate (scope : Scope) (name : String) (value : Value) :
    (scope.define name value).relocate move =
      (scope.relocate move).define name (value.relocate move) := by
  suffices ∀ bindings : List (String × Value),
      (bind name value bindings).map (fun binding => (binding.1, binding.2.relocate move)) =
        bind name (value.relocate move)
          (bindings.map fun binding => (binding.1, binding.2.relocate move)) by
    simp only [Scope.define, Scope.relocate, this]
  intro bindings
  induction bindings with
  | nil => rfl
  | cons first rest ih =>
    obtain ⟨known, old⟩ := first
    simp only [bind, List.map_cons, ← ih, apply_ite (List.map _)]

end Scope

namespace Store

theorem scope?_relocate (store : Store) (id : ScopeId) :
    (store.relocate move).scope? id = (store.scope? id).map (Scope.relocate move) :=
  Array.getElem?_map

theorem holderFor?_relocate (store : Store) (name : String) (count : Nat) (id : ScopeId) :
    (store.relocate move).holderFor? name count id = store.holderFor? name count id := by
  induction count generalizing id with
  | zero => rfl
  | succ count ih =>
    rw [holderFor?, holderFor?, scope?_relocate]
    cases store.scope? id with
    | none => rfl
    | some scope =>
      simp only [Option.map_some, Scope.get?_relocate]
      cases scope.get? name with
      | some value => rfl
      | none =>
        have outer : (scope.relocate move).parent = scope.parent := rfl
        rw [outer]
        cases scope.parent with
        | some parent => exact ih parent
        | none => rfl

theorem holder?_relocate (store : Store) (id : ScopeId) (name : String) :
    (store.relocate move).holder? id name = store.holder? id name :=
  holderFor?_relocate store name _ id

theorem get?_relocate (store : Store) (id : ScopeId) (name : String) :
    (store.relocate move).get? id name = (store.get? id name).map (Value.relocate move) := by
  rw [get?_eq, get?_eq, holder?_relocate]
  cases store.holder? id name with
  | none => rfl
  | some holder =>
    simp only [Option.bind_some, scope?_relocate]
    cases store.scope? holder with
    | none => rfl
    | some scope => exact scope.get?_relocate name

theorem define_relocate (store : Store) (id : ScopeId) (name : String) (value : Value) :
    (store.define id name value).relocate move =
      (store.relocate move).define id name (value.relocate move) := by
  have scopes : (store.scopes.modify id.index (·.define name value)).map (Scope.relocate move) =
      (store.scopes.map (Scope.relocate move)).modify id.index
        (·.define name (value.relocate move)) := by
    apply Array.ext_getElem?
    intro index
    simp only [Array.getElem?_map, Array.getElem?_modify, apply_ite (Option.map _), Option.map_map,
      Function.comp_def, Scope.define_relocate]
  simp only [Store.define, Store.relocate, scopes]

theorem defineAll_relocate (store : Store) (id : ScopeId) (bindings : List (String × Value)) :
    (bindings.foldl (fun store (name, value) => store.define id name value) store).relocate move =
      (bindings.map fun binding => (binding.1, binding.2.relocate move)).foldl
        (fun store (name, value) => store.define id name value) (store.relocate move) := by
  induction bindings generalizing store with
  | nil => rfl
  | cons first rest ih =>
    rw [List.foldl_cons, ih, define_relocate]
    rfl

end Store
end Lox
