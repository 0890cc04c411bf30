import Lox.Proofs.Value.Holder

/-!
# What the values of a store are like

What holds of all the values that a store binds holds of them after each change of the store that
binds no other kind of value.
-/

namespace Lox

def Scope.Binds (good : Value → Prop) (scope : Scope) : Prop :=
  ∀ binding ∈ scope.bindings, good binding.2

def Store.Binds (good : Value → Prop) (store : Store) : Prop :=
  ∀ scope ∈ store.scopes, scope.Binds good

variable {good : Value → Prop} {value : Value}

theorem Scope.Binds.define {scope : Scope} (binds : scope.Binds good) (bound : good value)
    (name : String) : (scope.define name value).Binds good := by
  suffices ∀ bindings : List (String × Value), (∀ binding ∈ bindings, good binding.2) →
      ∀ binding ∈ Scope.bind name value bindings, good binding.2 from
    this scope.bindings binds
  intro bindings
  induction bindings with
  | nil => simpa [Scope.bind] using bound
  | cons first rest ih =>
    intro all
    rw [List.forall_mem_cons] at all
    obtain ⟨known, old⟩ := first
    unfold Scope.bind
    split
    · exact List.forall_mem_cons.mpr ⟨bound, all.2⟩
    · exact List.forall_mem_cons.mpr ⟨all.1, ih all.2⟩

theorem Scope.Binds.get? {scope : Scope} {name : String} (binds : scope.Binds good)
    (found : scope.get? name = some value) : good value := by
  obtain ⟨_, _, same, _⟩ := List.lookup_eq_some_iff.mp found
  exact binds (name, value) (by simp [same])

namespace Store.Binds

variable {store : Store} (binds : store.Binds good)

include binds

theorem define (bound : good value) (id : ScopeId) (name : String) :
    (store.define id name value).Binds good := by
  intro scope member
  obtain ⟨index, found⟩ := Array.mem_iff_getElem?.mp member
  simp only [Store.define, Array.getElem?_modify] at found
  split at found
  · obtain ⟨old, at_index, rfl⟩ := Option.map_eq_some_iff.mp found
    exact (binds old (Array.mem_of_getElem? at_index)).define bound name
  · exact binds scope (Array.mem_of_getElem? found)

theorem get? {id : ScopeId} {name : String} (found : store.get? id name = some value) :
    good value := by
  simp only [Store.get?_eq, Option.bind_eq_some_iff] at found
  obtain ⟨holder, -, scope, at_holder, bound⟩ := found
  exact (binds scope (Array.mem_of_getElem? at_holder)).get? bound

theorem newScope (parent : Option ScopeId) : (store.newScope parent).2.Binds good := by
  intro scope member
  rcases Array.mem_push.mp member with old | rfl
  · exact binds scope old
  · exact fun _ absurd => nomatch absurd

/-- Bindings made one after the other. -/
theorem defineAll {bindings : List (String × Value)} (bound : ∀ binding ∈ bindings, good binding.2)
    (id : ScopeId) :
    (bindings.foldl (fun store (name, value) => store.define id name value) store).Binds good := by
  induction bindings generalizing store with
  | nil => exact binds
  | cons first rest ih =>
    rw [List.forall_mem_cons] at bound
    exact ih (binds.define bound.1 id first.1) bound.2

theorem mono {wider : Value → Prop} (implies : ∀ value, good value → wider value) :
    store.Binds wider :=
  fun scope member binding bound => implies _ (binds scope member binding bound)

end Store.Binds
end Lox
