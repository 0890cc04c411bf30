import Lox.Value.Store

/-!
# Where a name is bound

A lookup and an assignment walk outward, each on its own, until a scope binds the name. Both stop at
the same scope: it holds the name. The lookup gives the value it has there, and the assignment is a
definition there.
-/

namespace Lox.Store

variable {store : Store} {name : String} {id holder : ScopeId}

/-- The nearest of at most `count` scopes outward that binds a name. -/
def holderFor? (store : Store) (name : String) : (count : Nat) → ScopeId → Option ScopeId
  | 0, _ => none
  | count + 1, id =>
    match store.scope? id with
    | none => none
    | some scope =>
      match scope.get? name, scope.parent with
      | some _, _ => some id
      | none, some parent => store.holderFor? name count parent
      | none, none => none

/-- The nearest scope outward that binds a name. -/
def holder? (store : Store) (id : ScopeId) (name : String) : Option ScopeId :=
  store.holderFor? name (id.index + 1) id

/-- A scope that holds a name is there, and binds it. -/
theorem holderFor?_bound {count : Nat} (found : store.holderFor? name count id = some holder) :
    ∃ scope, store.scope? holder = some scope ∧ (scope.get? name).isSome := by
  induction count generalizing id with
  | zero => cases found
  | succ count ih =>
    unfold holderFor? at found
    split at found
    · cases found
    · next scope there =>
      split at found
      · next bound =>
        obtain rfl : id = holder := Option.some.inj found
        exact ⟨scope, there, by simp [bound]⟩
      · exact ih found
      · cases found

theorem getFor?_eq (store : Store) (name : String) (count : Nat) (id : ScopeId) :
    store.getFor? name count id =
      (store.holderFor? name count id).bind fun holder =>
        (store.scope? holder).bind (·.get? name) := by
  induction count generalizing id with
  | zero => rfl
  | succ count ih =>
    rw [getFor?, holderFor?]
    cases found : store.scope? id with
    | none => rfl
    | some scope =>
      cases bound : scope.get? name with
      | some value => simp [bound, found]
      | none =>
        cases around : scope.parent with
        | none => simp [bound, around]
        | some parent => simpa [bound, around] using ih parent

theorem assignFor_eq (store : Store) (name : String) (value : Value) (count : Nat) (id : ScopeId) :
    store.assignFor name value count id =
      match store.holderFor? name count id with
      | some holder => (true, store.define holder name value)
      | none => (false, store) := by
  induction count generalizing id with
  | zero => rfl
  | succ count ih =>
    rw [assignFor, holderFor?]
    cases store.scope? id with
    | none => rfl
    | some scope =>
      cases bound : scope.get? name with
      | some value => simp [bound]
      | none =>
        cases around : scope.parent with
        | none => simp [bound, around]
        | some parent => simpa [bound, around] using ih parent

/-- A lookup gives the value that a name has where it is held. -/
theorem get?_eq (store : Store) (id : ScopeId) (name : String) :
    store.get? id name =
      (store.holder? id name).bind fun holder => (store.scope? holder).bind (·.get? name) :=
  getFor?_eq store name _ id

/-- An assignment is a definition where the name is held. -/
theorem assign_eq (store : Store) (id : ScopeId) (name : String) (value : Value) :
    store.assign id name value =
      match store.holder? id name with
      | some holder => (true, store.define holder name value)
      | none => (false, store) :=
  assignFor_eq store name value _ id

theorem assign?_eq (store : Store) (id : ScopeId) (name : String) (value : Value) :
    store.assign? id name value = (store.holder? id name).map (store.define · name value) := by
  rw [assign?, assign_eq]
  cases store.holder? id name <;> rfl

end Lox.Store
