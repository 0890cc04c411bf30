import Lox.Proofs.Value.Rooted

/-!
# Which binding a name means

Seen from a scope, a name means its nearest binding outward, and that is the one binding that an
assignment from there changes. A definition makes or changes a binding of one scope. It is seen from
the scopes from which that scope is in view: no scope on the way to it binds the name.
-/

namespace Lox

theorem Scope.get?_define (scope : Scope) (name other : String) (value : Value) :
    (scope.define name value).get? other =
      if other = name then some value else scope.get? other := by
  unfold get? define
  split
  · next same =>
    subst same
    induction scope.bindings with
    | nil => simp [bind]
    | cons first rest ih =>
      unfold bind
      split
      · simp
      · next differ =>
        rw [List.lookup_cons, beq_eq_false_iff_ne.mpr (Ne.symm differ)]
        exact ih
  · next differ => exact lookup_bind_of_ne differ

namespace Store

variable {store after : Store} {id target holder : ScopeId} {name other : String} {value : Value}

/-! ## Scopes in view -/

/-- Each scope is made after the one around it. -/
def Ordered (store : Store) : Prop :=
  ∀ id scope parent, store.scope? id = some scope → scope.parent = some parent →
    parent.index < id.index

theorem Ordered.define (ordered : store.Ordered) (target : ScopeId) (name : String)
    (value : Value) : (store.define target name value).Ordered := by
  intro id scope parent found around
  rw [scope?_define] at found
  split at found
  · obtain ⟨before, there, rfl⟩ := Option.map_eq_some_iff.mp found
    exact ordered id before parent there around
  · exact ordered id scope parent found around

theorem Ordered.newScope (ordered : store.Ordered) {parent : Option ScopeId}
    (has : ∀ id, parent = some id → store.Has id) : (store.newScope parent).2.Ordered := by
  intro id scope outer found around
  rw [scope?_newScope] at found
  split at found
  · next isNew =>
    cases found
    rw [isNew]
    exact has outer around
  · exact ordered id scope outer found around

/-- The target is on the way outward from a scope, and no scope nearer than it binds the name. -/
inductive InView (store : Store) (name : String) (target : ScopeId) : ScopeId → Prop
  | here (has : store.Has target) : InView store name target target
  | outward {id parent : ScopeId} {scope : Scope} (found : store.scope? id = some scope)
      (unbound : scope.get? name = none) (around : scope.parent = some parent)
      (further : InView store name target parent) : InView store name target id

theorem InView.has (inView : store.InView name target id) : store.Has target := by
  induction inView with
  | here has => exact has
  | outward _ _ _ _ ih => exact ih

theorem InView.index_le (ordered : store.Ordered) (inView : store.InView name target id) :
    target.index ≤ id.index := by
  induction inView with
  | here => exact Nat.le_refl _
  | outward found _ around _ ih => exact Nat.le_trans ih (Nat.le_of_lt (ordered _ _ _ found around))

/-- Seen from a scope, the name means the binding that `holder` has for it. -/
structure Resolves (store : Store) (name : String) (id holder : ScopeId) : Prop where
  inView : store.InView name holder id
  bound : store.BindsAt holder name

theorem Resolves.has (resolves : store.Resolves name id holder) : store.Has id := by
  cases resolves.inView with
  | here has => exact has
  | outward found => exact has_of_scope? found

/-- A name that a scope binds itself means that binding. -/
theorem resolves_of_bound {scope : Scope} (found : store.scope? id = some scope)
    (bound : (scope.get? name).isSome) : store.Resolves name id holder ↔ holder = id := by
  constructor
  · intro resolves
    cases resolves.inView with
    | here => rfl
    | outward foundToo unbound =>
      obtain rfl := Option.some.inj (found.symm.trans foundToo)
      rw [unbound] at bound
      cases bound
  · rintro rfl
    exact ⟨.here (has_of_scope? found), scope, found, bound⟩

/-- A name that a scope does not bind means what it means one scope further out. -/
theorem resolves_of_unbound {scope : Scope} (found : store.scope? id = some scope)
    (unbound : scope.get? name = none) :
    store.Resolves name id holder ↔
      ∃ parent, scope.parent = some parent ∧ store.Resolves name parent holder := by
  constructor
  · rintro ⟨inView, bound⟩
    cases inView with
    | here =>
      obtain ⟨same, foundToo, binds⟩ := bound
      obtain rfl := Option.some.inj (found.symm.trans foundToo)
      rw [unbound] at binds
      cases binds
    | outward foundToo _ around further =>
      obtain rfl := Option.some.inj (found.symm.trans foundToo)
      exact ⟨_, around, further, bound⟩
  · rintro ⟨parent, around, inView, bound⟩
    exact ⟨.outward found unbound around inView, bound⟩

/-- The walk outward finds what a name means, in as many steps as the place of the scope allows. -/
theorem holderFor?_eq_some_iff (ordered : store.Ordered) {count : Nat} (enough : id.index < count) :
    store.holderFor? name count id = some holder ↔ store.Resolves name id holder := by
  induction count generalizing id with
  | zero => omega
  | succ count ih =>
    cases found : store.scope? id with
    | none =>
      have missing : ¬ store.Resolves name id holder := by
        intro resolves
        obtain ⟨scope, there⟩ := has_iff.mp resolves.has
        rw [found] at there
        cases there
      simp [holderFor?, found, missing]
    | some scope =>
      cases bound : scope.get? name with
      | some known =>
        rw [resolves_of_bound found (by simp [bound])]
        simp [holderFor?, found, bound, eq_comm]
      | none =>
        rw [resolves_of_unbound found bound]
        cases around : scope.parent with
        | none => simp [holderFor?, found, bound, around]
        | some parent =>
          have nearer := ordered id scope parent found around
          simp [holderFor?, found, bound, around, ih (show parent.index < count by omega)]

theorem holder?_eq_some_iff (ordered : store.Ordered) :
    store.holder? id name = some holder ↔ store.Resolves name id holder :=
  holderFor?_eq_some_iff ordered (Nat.lt_succ_self _)

/-- The value of a name is that of the binding it means. -/
theorem Resolves.get?_eq (ordered : store.Ordered) (resolves : store.Resolves name id holder)
    {scope : Scope} (found : store.scope? holder = some scope) :
    store.get? id name = scope.get? name := by
  simp [Store.get?_eq, (holder?_eq_some_iff ordered).mpr resolves, found]

/-! ## Definitions -/

theorem InView.define (ordered : store.Ordered) (inView : store.InView name target id) :
    (store.define target name value).InView name target id := by
  induction inView with
  | here has => exact .here (has_define.mpr has)
  | @outward id parent scope found unbound around further ih =>
    -- The scope is further in than the target, so it is another one.
    have differ : target ≠ id := by
      rintro rfl
      have outer := further.index_le ordered
      have inner := ordered _ _ _ found around
      omega
    refine .outward ?_ unbound around ih
    rw [scope?_define, if_neg differ, found]

/-- Where the scope is in view, the definition is seen. -/
theorem get?_define_of_inView (ordered : store.Ordered) (inView : store.InView name target id) :
    (store.define target name value).get? id name = some value := by
  obtain ⟨scope, found⟩ := has_iff.mp inView.has
  have defined : (store.define target name value).scope? target =
      some (scope.define name value) := by
    rw [scope?_define, if_pos rfl, found]
    rfl
  have known : (scope.define name value).get? name = some value := by
    rw [Scope.get?_define, if_pos rfl]
  have resolves : (store.define target name value).Resolves name id target :=
    ⟨inView.define ordered, _, defined, by simp [known]⟩
  rw [resolves.get?_eq (ordered.define target name value) defined, known]

/-- A definition changes nothing that a scope has for another name, nor the scope around it. -/
theorem scope?_define_kept (value : Value) {scope : Scope} (found : store.scope? id = some scope)
    (kept : ¬ (other = name ∧ target = id)) :
    ∃ later, (store.define target name value).scope? id = some later ∧
      later.get? other = scope.get? other ∧ later.parent = scope.parent := by
  rw [scope?_define, found]
  split
  · next same =>
    refine ⟨_, rfl, ?_, rfl⟩
    rw [Scope.get?_define, if_neg fun isName => kept ⟨isName, same⟩]
  · exact ⟨scope, rfl, rfl, rfl⟩

theorem holderFor?_define (hidden : ¬ (other = name ∧ store.InView name target id)) (count : Nat) :
    (store.define target name value).holderFor? other count id =
      store.holderFor? other count id := by
  induction count generalizing id with
  | zero => rfl
  | succ count ih =>
    cases found : store.scope? id with
    | none => simp [holderFor?, scope?_define, found]
    | some scope =>
      have kept : ¬ (other = name ∧ target = id) := by
        rintro ⟨isName, rfl⟩
        exact hidden ⟨isName, .here (has_of_scope? found)⟩
      obtain ⟨later, foundLater, sameValue, sameParent⟩ := scope?_define_kept value found kept
      simp only [holderFor?, found, foundLater, sameValue, sameParent]
      cases unbound : scope.get? other with
      | some known => rfl
      | none =>
        cases around : scope.parent with
        | none => rfl
        | some parent =>
          apply ih
          rintro ⟨rfl, inView⟩
          exact hidden ⟨rfl, .outward found unbound around inView⟩

/-- Everywhere else, and for all other names, nothing is changed. -/
theorem get?_define_of_hidden (ordered : store.Ordered)
    (hidden : ¬ (other = name ∧ store.InView name target id)) :
    (store.define target name value).get? id other = store.get? id other := by
  have sameHolder : (store.define target name value).holder? id other = store.holder? id other :=
    holderFor?_define hidden _
  rw [get?_eq, get?_eq, sameHolder]
  cases held : store.holder? id other with
  | none => rfl
  | some holder =>
    have resolves := (holder?_eq_some_iff ordered).mp held
    obtain ⟨scope, found, -⟩ := resolves.bound
    have kept : ¬ (other = name ∧ target = holder) := by
      rintro ⟨rfl, rfl⟩
      exact hidden ⟨rfl, resolves.inView⟩
    obtain ⟨later, foundLater, sameValue, -⟩ := scope?_define_kept value found kept
    simp [found, foundLater, sameValue]

/-! ## Assignments -/

/-- An assignment fails exactly where the name has no value. -/
theorem assign?_eq_none_iff : store.assign? id name value = none ↔ store.get? id name = none := by
  rw [assign?_eq, get?_eq]
  cases held : store.holder? id name with
  | none => simp
  | some holder =>
    obtain ⟨scope, found, bound⟩ := holderFor?_bound held
    obtain ⟨known, isKnown⟩ := Option.isSome_iff_exists.mp bound
    simp [found, isKnown]

/-- An assignment is a definition in the scope whose binding the name means. -/
theorem assign?_eq_some (ordered : store.Ordered)
    (assigned : store.assign? id name value = some after) :
    ∃ holder, store.Resolves name id holder ∧ after = store.define holder name value := by
  rw [assign?_eq] at assigned
  cases held : store.holder? id name with
  | none => simp [held] at assigned
  | some holder =>
    rw [held] at assigned
    exact ⟨holder, (holder?_eq_some_iff ordered).mp held, (Option.some.inj assigned).symm⟩

end Store
end Lox
