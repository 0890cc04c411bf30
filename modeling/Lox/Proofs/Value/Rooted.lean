import Lox.Proofs.Value.Frame
import Lox.Proofs.Value.Holder

/-!
# Scopes around scopes

In a rooted store each scope is made after the one around it, and only one scope has none around it.
So the links from any scope lead to that one, and a name that is bound there is found from
everywhere.
-/

namespace Lox.Store

variable {store : Store} {root id : ScopeId} {name : String}

/-! ## Scopes that are there -/

def Has (store : Store) (id : ScopeId) : Prop :=
  id.index < store.scopes.size

theorem has_iff : store.Has id ↔ ∃ scope, store.scope? id = some scope := by
  unfold Has scope?
  constructor
  · intro inside
    exact ⟨_, Array.getElem?_eq_getElem inside⟩
  · rintro ⟨scope, found⟩
    exact (Array.getElem?_eq_some_iff.mp found).1

theorem has_of_scope? {scope : Scope} (found : store.scope? id = some scope) : store.Has id :=
  has_iff.mpr ⟨scope, found⟩

@[simp] theorem has_define {other : ScopeId} {value : Value} :
    (store.define other name value).Has id ↔ store.Has id := by
  simp [Has, define]

theorem has_newScope_iff {parent : Option ScopeId} :
    (store.newScope parent).2.Has id ↔ id = (store.newScope parent).1 ∨ store.Has id := by
  obtain ⟨index⟩ := id
  simp only [Has, newScope, Array.size_push, ScopeId.mk.injEq]
  omega

theorem Has.newScope (has : store.Has id) (parent : Option ScopeId) :
    (store.newScope parent).2.Has id :=
  has_newScope_iff.mpr (.inr has)

theorem has_newScope_self (parent : Option ScopeId) :
    (store.newScope parent).2.Has (store.newScope parent).1 :=
  has_newScope_iff.mpr (.inl rfl)

theorem scope?_newScope (store : Store) (parent : Option ScopeId) (id : ScopeId) :
    (store.newScope parent).2.scope? id =
      if id = (store.newScope parent).1 then some ⟨[], parent⟩ else store.scope? id := by
  obtain ⟨index⟩ := id
  simp only [newScope, scope?, Array.getElem?_push, ScopeId.mk.injEq]

/-- Bindings made one after the other make no scopes. -/
theorem has_defineAll {other : ScopeId} (bindings : List (String × Value)) :
    (bindings.foldl (fun store (name, value) => store.define other name value) store).Has id ↔
      store.Has id := by
  induction bindings generalizing store with
  | nil => rfl
  | cons first rest ih => exact (ih ..).trans has_define

/-! ## Rooted stores -/

structure Rooted (store : Store) (root : ScopeId) : Prop where
  /-- No other scope is an outermost one. -/
  outermost : ∀ {id scope}, store.scope? id = some scope → scope.parent = none → id = root
  inward : ∀ {id scope parent}, store.scope? id = some scope → scope.parent = some parent →
    parent.index < id.index

/-- The links from a scope end in the root, around which there is no scope. -/
inductive LeadsTo (store : Store) (root : ScopeId) : ScopeId → Prop
  | here {scope : Scope} (found : store.scope? root = some scope)
      (outermost : scope.parent = none) :
      LeadsTo store root root
  | outward {id parent : ScopeId} {scope : Scope} (found : store.scope? id = some scope)
      (around : scope.parent = some parent) (further : LeadsTo store root parent) :
      LeadsTo store root id

/-- A scope itself binds a name. -/
def BindsAt (store : Store) (id : ScopeId) (name : String) : Prop :=
  ∃ scope, store.scope? id = some scope ∧ (scope.get? name).isSome

namespace Rooted

variable (rooted : store.Rooted root)

include rooted

theorem leadsTo (has : store.Has id) : store.LeadsTo root id := by
  obtain ⟨index⟩ := id
  induction index using Nat.strongRecOn with
  | ind index ih =>
    obtain ⟨scope, found⟩ := has_iff.mp has
    cases around : scope.parent with
    | none =>
      obtain rfl := rooted.outermost found around
      exact .here found around
    | some parent =>
      have smaller := rooted.inward found around
      exact .outward found around (ih parent.index smaller (Nat.lt_trans smaller has))

/-- From each scope, as many steps outward as its place allows reach the root. -/
theorem holderFor?_isSome (bound : store.BindsAt root name) (leads : store.LeadsTo root id)
    {count : Nat} (enough : id.index < count) : (store.holderFor? name count id).isSome := by
  induction leads generalizing count with
  | here found =>
    obtain ⟨fewer, rfl⟩ : ∃ fewer, count = fewer + 1 := ⟨count - 1, by omega⟩
    obtain ⟨scope, there, binds⟩ := bound
    obtain ⟨value, known⟩ := Option.isSome_iff_exists.mp binds
    simp [holderFor?, there, known]
  | @outward id parent scope found around _ ih =>
    obtain ⟨fewer, rfl⟩ : ∃ fewer, count = fewer + 1 := ⟨count - 1, by omega⟩
    have smaller := rooted.inward found around
    have further := ih (show parent.index < fewer by omega)
    cases known : scope.get? name with
    | some value => simp [holderFor?, found, known]
    | none => simpa [holderFor?, found, known, around] using further

theorem holder?_isSome (bound : store.BindsAt root name) (has : store.Has id) :
    (store.holder? id name).isSome :=
  rooted.holderFor?_isSome bound (rooted.leadsTo has) (Nat.lt_succ_self _)

/-- What the root binds is found from everywhere. -/
theorem get?_isSome (bound : store.BindsAt root name) (has : store.Has id) :
    (store.get? id name).isSome := by
  obtain ⟨holder, found⟩ := Option.isSome_iff_exists.mp (rooted.holder?_isSome bound has)
  obtain ⟨scope, there, binds⟩ := holderFor?_bound found
  simpa [get?_eq, found, there] using binds

theorem define (other : ScopeId) (name : String) (value : Value) :
    (store.define other name value).Rooted root := by
  -- A definition leaves the parent of each scope as it is.
  have old : ∀ {id scope}, (store.define other name value).scope? id = some scope →
      ∃ before, store.scope? id = some before ∧ before.parent = scope.parent := by
    intro id scope found
    rw [scope?_define] at found
    split at found
    · obtain ⟨before, there, rfl⟩ := Option.map_eq_some_iff.mp found
      exact ⟨before, there, rfl⟩
    · exact ⟨scope, found, rfl⟩
  constructor
  · intro id scope found around
    obtain ⟨before, there, same⟩ := old found
    exact rooted.outermost there (same.trans around)
  · intro id scope parent found around
    obtain ⟨before, there, same⟩ := old found
    exact rooted.inward there (same.trans around)

theorem newScope {parent : ScopeId} (has : store.Has parent) :
    (store.newScope (some parent)).2.Rooted root := by
  constructor
  · intro id scope found around
    rw [scope?_newScope] at found
    split at found
    · cases found
      cases around
    · exact rooted.outermost found around
  · intro id scope around found isParent
    rw [scope?_newScope] at found
    split at found
    · next isNew =>
      cases found
      cases isParent
      rw [isNew]
      exact has
    · exact rooted.inward found isParent

theorem newCallable (action : Action) : (store.newCallable action).2.Rooted root :=
  ⟨rooted.outermost, rooted.inward⟩

end Rooted

/-- A name that is bound stays bound where it is. -/
theorem BindsAt.kept {after : Store} (bound : store.BindsAt id name)
    (kept : store.Kept (fun _ => False) (some id) after) : after.BindsAt id name := by
  obtain ⟨scope, found, binds⟩ := bound
  obtain ⟨later, there, grows, -⟩ := kept id scope found
  have known : name ∈ scope.names := Scope.lookup_isSome_iff.mp binds
  exact ⟨later, there, Scope.lookup_isSome_iff.mpr (grows.names.subset known)⟩

theorem BindsAt.define (bound : store.BindsAt id name) (other : ScopeId) (known : String)
    (value : Value) : (store.define other known value).BindsAt id name := by
  by_cases same : other = id
  · rw [same]
    exact bound.kept (kept_define _ _ _ _)
  · obtain ⟨scope, found, binds⟩ := bound
    exact ⟨scope, by rw [scope?_define, if_neg same, found], binds⟩

theorem BindsAt.newScope (bound : store.BindsAt id name) (parent : Option ScopeId) :
    (store.newScope parent).2.BindsAt id name :=
  bound.kept (kept_newScope _ _)

end Lox.Store
