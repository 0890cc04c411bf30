import Mathlib.Data.List.Forall2
import Lox.Proofs.Run.Variable
import Lox.Proofs.Value.Resolution

/-!
# Scopes and their handles

A tree of scopes is built step by step through handles, of which a scope may have several. In every
tree that can be built, an assignment changes the one binding that its name means and a definition
the one binding of its scope, and no step tells two handles to a scope apart.
-/

namespace Lox

/-- What is done to a scope through a handle. -/
inductive ScopeAction where
  /-- Makes a scope inside, with a handle. -/
  | nest
  /-- Makes another handle. -/
  | copy
  | define (name : String) (value : Value)
  | assign (name : String) (value : Value)
  | look (name : String)

inductive ScopeStep where
  /-- Makes a scope with none around it, with a handle. -/
  | new
  | act (handle : Nat) (action : ScopeAction)

inductive ScopeAnswer where
  | made (handle : Nat)
  | done
  | found (value : Value)
  | undefined
  | noHandle

/-- Scopes, and the scope of each handle. -/
structure ScopeTree where
  store : Store
  handles : List ScopeId

namespace ScopeTree

def empty : ScopeTree := ⟨.empty, []⟩

def make (tree : ScopeTree) (parent : Option ScopeId) : ScopeAnswer × ScopeTree :=
  let (id, store) := tree.store.newScope parent
  (.made tree.handles.length, ⟨store, tree.handles ++ [id]⟩)

def act (tree : ScopeTree) (id : ScopeId) : ScopeAction → ScopeAnswer × ScopeTree
  | .nest => tree.make (some id)
  | .copy => (.made tree.handles.length, { tree with handles := tree.handles ++ [id] })
  | .define name value => (.done, { tree with store := tree.store.define id name value })
  | .assign name value =>
    match tree.store.assign? id name value with
    | some store => (.done, { tree with store })
    | none => (.undefined, tree)
  | .look name =>
    match tree.store.get? id name with
    | some value => (.found value, tree)
    | none => (.undefined, tree)

def step (tree : ScopeTree) : ScopeStep → ScopeAnswer × ScopeTree
  | .new => tree.make none
  | .act handle action =>
    match tree.handles[handle]? with
    | some id => tree.act id action
    | none => (.noHandle, tree)

/-- Takes steps one after another, and gives their answers. -/
def run (tree : ScopeTree) : List ScopeStep → List ScopeAnswer × ScopeTree
  | [] => ([], tree)
  | step :: rest =>
    let (answer, tree) := tree.step step
    let (answers, tree) := tree.run rest
    (answer :: answers, tree)

/-! ## Trees that can be built -/

structure Formed (tree : ScopeTree) : Prop where
  ordered : tree.store.Ordered
  has : ∀ id ∈ tree.handles, tree.store.Has id

variable {tree : ScopeTree}

theorem formed_empty : empty.Formed where
  ordered := fun _ _ _ absurd => nomatch absurd
  has := fun _ absurd => nomatch absurd

theorem Formed.define (formed : tree.Formed) (id : ScopeId) (name : String) (value : Value) :
    Formed { tree with store := tree.store.define id name value } where
  ordered := formed.ordered.define id name value
  has := fun other member => Store.has_define.mpr (formed.has other member)

theorem Formed.make (formed : tree.Formed) {parent : Option ScopeId}
    (has : ∀ id, parent = some id → tree.store.Has id) : (tree.make parent).2.Formed where
  ordered := formed.ordered.newScope has
  has := by
    intro id member
    rcases List.mem_append.mp member with old | new
    · exact (formed.has id old).newScope parent
    · rw [List.mem_singleton.mp new]
      exact Store.has_newScope_self parent

theorem Formed.act (formed : tree.Formed) {id : ScopeId} (member : id ∈ tree.handles)
    (action : ScopeAction) : (tree.act id action).2.Formed := by
  cases action with
  | nest =>
    apply formed.make
    rintro _ ⟨⟩
    exact formed.has id member
  | copy =>
    refine ⟨formed.ordered, fun other handle => ?_⟩
    rcases List.mem_append.mp handle with old | new
    · exact formed.has other old
    · exact List.mem_singleton.mp new ▸ formed.has id member
  | define name value => exact formed.define id name value
  | assign name value =>
    simp only [ScopeTree.act]
    cases assigned : tree.store.assign? id name value with
    | none => exact formed
    | some after =>
      obtain ⟨holder, -, rfl⟩ := Store.assign?_eq_some formed.ordered assigned
      exact formed.define holder name value
  | look name =>
    simp only [ScopeTree.act]
    split <;> exact formed

theorem Formed.step (formed : tree.Formed) (step : ScopeStep) : (tree.step step).2.Formed := by
  cases step with
  | new => exact formed.make fun _ absurd => nomatch absurd
  | act handle action =>
    simp only [ScopeTree.step]
    split
    · next id found => exact formed.act (List.mem_of_getElem? found) action
    · exact formed

theorem Formed.run (formed : tree.Formed) (steps : List ScopeStep) : (tree.run steps).2.Formed := by
  induction steps generalizing tree with
  | nil => exact formed
  | cons step rest ih => exact ih (formed.step step)

/-! ## Two handles to a scope -/

/-- The steps are the same, except that one may have one handle where the other has the other. -/
inductive Twins (one other : Nat) : ScopeStep → ScopeStep → Prop
  | same (step : ScopeStep) : Twins one other step step
  | forth (action : ScopeAction) : Twins one other (.act one action) (.act other action)
  | back (action : ScopeAction) : Twins one other (.act other action) (.act one action)

theorem handles_step (tree : ScopeTree) (step : ScopeStep) :
    tree.handles <+: (tree.step step).2.handles := by
  cases step with
  | new => exact List.prefix_append _ _
  | act handle action =>
    simp only [ScopeTree.step]
    split
    · next id found =>
      cases action with
      | nest => exact List.prefix_append _ _
      | copy => exact List.prefix_append _ _
      | define name value => exact List.prefix_rfl
      | assign name value =>
        simp only [ScopeTree.act]
        split <;> exact List.prefix_rfl
      | look name =>
        simp only [ScopeTree.act]
        split <;> exact List.prefix_rfl
    · exact List.prefix_rfl

/-- A handle stays with its scope. -/
theorem handle_step {handle : Nat} {id : ScopeId} (known : tree.handles[handle]? = some id)
    (step : ScopeStep) : (tree.step step).2.handles[handle]? = some id := by
  obtain ⟨more, same⟩ := tree.handles_step step
  rw [← same, List.getElem?_append_left (List.getElem?_eq_some_iff.mp known).1, known]

theorem step_twins {one other : Nat} {first second : ScopeStep}
    (shared : tree.handles[one]? = tree.handles[other]?) (twins : Twins one other first second) :
    tree.step first = tree.step second := by
  cases twins with
  | same => rfl
  | forth action => simp only [ScopeTree.step, shared]
  | back action => simp only [ScopeTree.step, shared]

theorem run_twins {one other : Nat} {id : ScopeId} {steps others : List ScopeStep}
    (handle : tree.handles[one]? = some id) (handleToo : tree.handles[other]? = some id)
    (twins : List.Forall₂ (Twins one other) steps others) : tree.run steps = tree.run others := by
  induction twins generalizing tree with
  | nil => rfl
  | @cons first second _ _ twin _ ih =>
    have same := step_twins (handle.trans handleToo.symm) twin
    simp only [ScopeTree.run, ← same]
    rw [ih (handle_step handle first) (handle_step handleToo first)]

end ScopeTree

/-! ## Lookups and assignments of a machine -/

namespace Run

variable {machine : Machine} {id : ScopeId} {name : Token}

/-- From a scope from which a name has no value, it can be neither looked up nor assigned to. -/
theorem inScope_of_undefined (noValue : machine.store.get? id name.lexeme = none) (value : Value) :
    inScope id (lookup name) machine = undefined name machine ∧
      inScope id (assign name value) machine = undefined name machine := by
  have fails : machine.store.assign? id name.lexeme value = none :=
    Store.assign?_eq_none_iff.mpr noValue
  constructor
  · simp only [inScope, run_lookup, noValue]
    rfl
  · simp only [inScope, run_assign_eq_assign?, fails]
    rfl

theorem inScope_of_defined {known : Value}
    (hasValue : machine.store.get? id name.lexeme = some known) (value : Value) :
    inScope id (lookup name) machine = .ok known machine ∧
      ∃ after, machine.store.assign? id name.lexeme value = some after ∧
        inScope id (assign name value) machine = .ok () { machine with store := after } := by
  constructor
  · simp only [inScope, run_lookup, hasValue]
  · cases assigned : machine.store.assign? id name.lexeme value with
    | none =>
      rw [Store.assign?_eq_none_iff.mp assigned] at hasValue
      cases hasValue
    | some after =>
      refine ⟨after, rfl, ?_⟩
      simp only [inScope, run_assign_eq_assign?, assigned]

end Run

open Run

/-- In each tree of scopes that can be built: an assignment that succeeds is seen from the scopes
from which its name means the same binding; one fails, with the same error as a lookup, where the
name has no value, and then nothing is changed; a definition is seen from the scopes from which its
scope is in view; and whatever is done next, a copy of a handle can stand for it, and it for the
copy, without any answer or the tree becoming another. All other lookups give what they gave. -/
theorem scope_operations_touch_one_binding (steps : List ScopeStep) :
    let tree := (ScopeTree.empty.run steps).2
    let store := tree.store
    (∀ id name value after, store.assign? id name value = some after →
      ∃ holder, store.Resolves name id holder ∧ ∀ observer other,
        (other = name ∧ store.Resolves name observer holder →
          after.get? observer other = some value) ∧
        (¬ (other = name ∧ store.Resolves name observer holder) →
          after.get? observer other = store.get? observer other)) ∧
    (∀ machine id name value, machine.store = store →
      (store.get? id name.lexeme = none →
        inScope id (lookup name) machine = undefined name machine ∧
        inScope id (assign name value) machine = undefined name machine) ∧
      ∀ known, store.get? id name.lexeme = some known →
        inScope id (lookup name) machine = .ok known machine ∧
        ∃ after, store.assign? id name.lexeme value = some after ∧
          inScope id (assign name value) machine = .ok () { machine with store := after }) ∧
    (∀ id name value observer other,
      (other = name ∧ store.InView name id observer →
        (store.define id name value).get? observer other = some value) ∧
      (¬ (other = name ∧ store.InView name id observer) →
        (store.define id name value).get? observer other = store.get? observer other)) ∧
    ∀ handle id, tree.handles[handle]? = some id → ∃ copied copy,
      tree.step (.act handle .copy) = (.made copy, copied) ∧
      ∀ later others, List.Forall₂ (ScopeTree.Twins handle copy) later others →
        copied.run later = copied.run others := by
  intro tree store
  have formed : tree.Formed := ScopeTree.formed_empty.run steps
  have ordered : store.Ordered := formed.ordered
  refine ⟨?_, ?_, ?_, ?_⟩
  · intro id name value after assigned
    obtain ⟨holder, resolves, rfl⟩ := Store.assign?_eq_some ordered assigned
    refine ⟨holder, resolves, fun observer other => ⟨?_, ?_⟩⟩
    · rintro ⟨rfl, seen⟩
      exact Store.get?_define_of_inView ordered seen.inView
    · intro unseen
      apply Store.get?_define_of_hidden ordered
      rintro ⟨rfl, inView⟩
      exact unseen ⟨rfl, inView, resolves.bound⟩
  · intro machine id name value same
    rw [← same]
    exact ⟨fun noValue => inScope_of_undefined noValue value,
      fun known hasValue => inScope_of_defined hasValue value⟩
  · intro id name value observer other
    refine ⟨?_, Store.get?_define_of_hidden ordered⟩
    rintro ⟨rfl, inView⟩
    exact Store.get?_define_of_inView ordered inView
  · intro handle id known
    have copied : tree.step (.act handle .copy) =
        (.made tree.handles.length, { tree with handles := tree.handles ++ [id] }) := by
      simp only [ScopeTree.step, known, ScopeTree.act]
    have kept := ScopeTree.handle_step known (.act handle .copy)
    rw [copied] at kept
    have made : (tree.handles ++ [id])[tree.handles.length]? = some id :=
      List.getElem?_concat_length
    exact ⟨_, _, copied, fun later others twins => ScopeTree.run_twins kept made twins⟩

end Lox
