import Lox.Value.Store

/-!
# What becomes of the scopes of a store

A store is kept if each of its scopes is still there, with its parent and with its names, in their
order. One scope may be allowed to have got more names. In the others the names that are `fixed`
have the values they had.
-/

namespace Lox

namespace Scope

/-- The scope has its parent and its names, and maybe more names behind them. -/
structure Grown (before after : Scope) : Prop where
  parent : after.parent = before.parent
  names : before.names <+: after.names

/-- The scope has its parent, exactly its names, and the values of those that are `fixed`. -/
structure Kept (fixed : String → Prop) (before after : Scope) : Prop where
  parent : after.parent = before.parent
  names : after.names = before.names
  values : ∀ name, fixed name → after.get? name = before.get? name

variable {fixed : String → Prop} {before middle after scope : Scope} {name : String} {value : Value}

theorem Kept.refl (scope : Scope) : scope.Kept fixed scope :=
  ⟨rfl, rfl, fun _ _ => rfl⟩

theorem Kept.trans (first : before.Kept fixed middle) (second : middle.Kept fixed after) :
    before.Kept fixed after where
  parent := second.parent.trans first.parent
  names := second.names.trans first.names
  values name isFixed := (second.values name isFixed).trans (first.values name isFixed)

theorem Kept.grown (kept : before.Kept fixed after) : before.Grown after :=
  ⟨kept.parent, kept.names ▸ List.prefix_rfl⟩

theorem Grown.trans (first : before.Grown middle) (second : middle.Grown after) :
    before.Grown after :=
  ⟨second.parent.trans first.parent, first.names.trans second.names⟩

theorem lookup_isSome_iff {bindings : List (String × Value)} :
    (bindings.lookup name).isSome ↔ name ∈ bindings.map (·.1) := by
  induction bindings with
  | nil => simp
  | cons first rest ih =>
    by_cases same : name = first.1
    · simp [same]
    · have differ : (name == first.1) = false := beq_eq_false_iff_ne.mpr same
      rw [List.lookup_cons, differ, List.map_cons, List.mem_cons, ← ih]
      simp [same]

theorem names_bind_of_mem {bindings : List (String × Value)}
    (bound : name ∈ bindings.map (·.1)) :
    (bind name value bindings).map (·.1) = bindings.map (·.1) := by
  induction bindings with
  | nil => simp at bound
  | cons first rest ih =>
    obtain ⟨known, old⟩ := first
    unfold bind
    split
    · next same => simp [same]
    · next differ =>
      rcases List.mem_cons.mp bound with same | later
      · exact absurd same.symm differ
      · simp [ih later]

theorem names_bind_of_not_mem {bindings : List (String × Value)}
    (unbound : name ∉ bindings.map (·.1)) :
    (bind name value bindings).map (·.1) = bindings.map (·.1) ++ [name] := by
  induction bindings with
  | nil => simp [bind]
  | cons first rest ih =>
    obtain ⟨known, old⟩ := first
    simp only [List.map_cons, List.mem_cons, not_or] at unbound
    unfold bind
    rw [if_neg (Ne.symm unbound.1)]
    simp [ih unbound.2]

theorem lookup_bind_of_ne {bindings : List (String × Value)} {other : String}
    (differ : other ≠ name) : (bind name value bindings).lookup other = bindings.lookup other := by
  have unequal : (other == name) = false := beq_eq_false_iff_ne.mpr differ
  induction bindings with
  | nil => simp [bind, List.lookup_cons, unequal]
  | cons first rest ih =>
    obtain ⟨known, old⟩ := first
    unfold bind
    split
    · next same =>
      subst same
      simp [List.lookup_cons, unequal]
    · simp [List.lookup_cons, ih]

theorem grown_define : scope.Grown (scope.define name value) := by
  refine ⟨rfl, ?_⟩
  unfold names define
  by_cases bound : name ∈ scope.bindings.map (·.1)
  · exact ⟨[], by rw [names_bind_of_mem bound, List.append_nil]⟩
  · rw [names_bind_of_not_mem bound]
    exact List.prefix_append _ _

/-- To give a name that is bound another value changes no names. -/
theorem kept_define (bound : (scope.get? name).isSome) (free : ¬ fixed name) :
    scope.Kept fixed (scope.define name value) where
  parent := rfl
  names := names_bind_of_mem (lookup_isSome_iff.mp bound)
  values _ isFixed := lookup_bind_of_ne fun same => free (same ▸ isFixed)

end Scope

namespace Store

/-- Each scope of `before` is kept in `after`, except that `grown` may have got more names. -/
def Kept (fixed : String → Prop) (grown : Option ScopeId) (before after : Store) : Prop :=
  ∀ id scope, before.scope? id = some scope → ∃ later, after.scope? id = some later ∧
    scope.Grown later ∧ (grown ≠ some id → scope.Kept fixed later)

variable {fixed : String → Prop} {grown : Option ScopeId} {before middle after store : Store}

theorem Kept.refl (store : Store) : store.Kept fixed grown store := by
  intro id scope found
  have kept : scope.Kept fixed scope := .refl scope
  exact ⟨scope, found, kept.grown, fun _ => kept⟩

theorem Kept.trans (first : before.Kept fixed grown middle)
    (second : middle.Kept fixed grown after) : before.Kept fixed grown after := by
  intro id scope found
  obtain ⟨next, foundNext, grows, keeps⟩ := first id scope found
  obtain ⟨later, foundLater, growsOn, keepsOn⟩ := second id next foundNext
  exact ⟨later, foundLater, grows.trans growsOn, fun other => (keeps other).trans (keepsOn other)⟩

theorem Kept.weaken (kept : before.Kept fixed none after) (grown : Option ScopeId) :
    before.Kept fixed grown after := by
  intro id scope found
  obtain ⟨later, foundLater, grows, keeps⟩ := kept id scope found
  exact ⟨later, foundLater, grows, fun _ => keeps (by simp)⟩

/-- What happens to a scope that was not there before touches nothing that was. -/
theorem Kept.trans_new {id : ScopeId} (first : before.Kept fixed grown middle)
    (second : middle.Kept fixed (some id) after) (new : before.scope? id = none) :
    before.Kept fixed grown after := by
  intro other scope found
  have differ : id ≠ other := by
    intro same
    rw [same, found] at new
    cases new
  obtain ⟨next, foundNext, grows, keeps⟩ := first other scope found
  obtain ⟨later, foundLater, growsOn, keepsOn⟩ := second other next foundNext
  have kept := keepsOn (by simpa using differ)
  exact ⟨later, foundLater, grows.trans growsOn, fun allowed => (keeps allowed).trans kept⟩

theorem scope?_define (store : Store) (id other : ScopeId) (name : String) (value : Value) :
    (store.define id name value).scope? other =
      if id = other then (store.scope? other).map (·.define name value)
      else store.scope? other := by
  obtain ⟨index⟩ := id
  obtain ⟨place⟩ := other
  simp only [define, scope?, Array.getElem?_modify, ScopeId.mk.injEq]

theorem kept_define (store : Store) (id : ScopeId) (name : String) (value : Value) :
    store.Kept fixed (some id) (store.define id name value) := by
  intro other scope found
  rw [scope?_define, found]
  split
  · next same => exact ⟨_, rfl, Scope.grown_define, fun differ => absurd (same ▸ rfl) differ⟩
  · have kept : scope.Kept fixed scope := .refl scope
    exact ⟨scope, rfl, kept.grown, fun _ => kept⟩

/-- To give a name that a scope binds another value changes no names. -/
theorem kept_define_of_bound {id : ScopeId} {scope : Scope} {name : String}
    (found : store.scope? id = some scope) (bound : (scope.get? name).isSome)
    (free : ¬ fixed name) (value : Value) : store.Kept fixed none (store.define id name value) := by
  intro other old foundOld
  rw [scope?_define, foundOld]
  split
  · next same =>
    subst same
    obtain rfl : scope = old := Option.some.inj (found.symm.trans foundOld)
    have kept : scope.Kept fixed (scope.define name value) := Scope.kept_define bound free
    exact ⟨_, rfl, kept.grown, fun _ => kept⟩
  · have kept : old.Kept fixed old := .refl old
    exact ⟨old, rfl, kept.grown, fun _ => kept⟩

theorem scope?_newScope_self (store : Store) (parent : Option ScopeId) :
    store.scope? (store.newScope parent).1 = none := by
  simp [scope?, newScope]

theorem kept_newScope (store : Store) (parent : Option ScopeId) :
    store.Kept fixed grown (store.newScope parent).2 := by
  intro id scope found
  have kept : scope.Kept fixed scope := .refl scope
  refine ⟨scope, ?_, kept.grown, fun _ => kept⟩
  have inside : id.index < store.scopes.size := (Array.getElem?_eq_some_iff.mp found).1
  simpa [scope?, newScope, Array.getElem?_push, Nat.ne_of_lt inside] using found

theorem kept_defineAll (store : Store) (id : ScopeId) (bindings : List (String × Value)) :
    store.Kept fixed (some id)
      (bindings.foldl (fun store (name, value) => store.define id name value) store) := by
  induction bindings generalizing store with
  | nil => exact .refl store
  | cons first rest ih => exact (kept_define store id first.1 first.2).trans (ih _)

end Store
end Lox
