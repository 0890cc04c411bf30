import Mathlib.Data.List.Forall2
import Lox.Proofs.Value.Carries
import Lox.Proofs.Value.Rooted

/-!
# Empty scopes between scopes

A padded store has all the scopes of another store, and empty scopes besides, through which the
links between the others may lead. Names are found in it as in the other store: nothing is bound in
an empty scope, and none of them is an outermost one. Values are alike if they differ at most in
that the home of a function lies behind empty scopes.
-/

namespace Lox

structure Padding where
  /-- Where each scope of the store lies in the padded store. -/
  places : List ScopeId
  /-- The empty scopes, each with the scope around it. -/
  added : List (ScopeId × ScopeId)

namespace Padding

def Places (padding : Padding) (id place : ScopeId) : Prop :=
  padding.places[id.index]? = some place

/-- From there, one comes through empty scopes to the place of the scope. -/
inductive StandsFor (padding : Padding) (id : ScopeId) : ScopeId → Prop
  | here {place : ScopeId} (placed : padding.Places id place) : StandsFor padding id place
  | inside {place around : ScopeId} (added : (place, around) ∈ padding.added)
      (further : StandsFor padding id around) : StandsFor padding id place

structure Grows (padding more : Padding) : Prop where
  places : padding.places <+: more.places
  added : padding.added ⊆ more.added

variable {padding more most : Padding} {id place : ScopeId}

theorem Grows.refl (padding : Padding) : padding.Grows padding :=
  ⟨List.prefix_rfl, List.Subset.refl _⟩

theorem Grows.trans (first : padding.Grows more) (second : more.Grows most) :
    padding.Grows most :=
  ⟨first.places.trans second.places, List.Subset.trans first.added second.added⟩

theorem Places.grow (placed : padding.Places id place) (grows : padding.Grows more) :
    more.Places id place := by
  obtain ⟨rest, same⟩ := grows.places
  have inside := (List.getElem?_eq_some_iff.mp placed).1
  rw [Places, ← same, List.getElem?_append_left inside]
  exact placed

theorem StandsFor.grow (stands : padding.StandsFor id place) (grows : padding.Grows more) :
    more.StandsFor id place := by
  induction stands with
  | here placed => exact .here (placed.grow grows)
  | inside added _ ih => exact .inside (grows.added added) ih

end Padding

variable {padding more : Padding} {name : String}

/-- Related options are both left out or both given. -/
theorem rel_cases {α β : Type} {related : α → β → Prop} {a? : Option α} {b? : Option β}
    (rel : Option.Rel related a? b?) :
    a? = none ∧ b? = none ∨ ∃ a b, a? = some a ∧ b? = some b ∧ related a b := by
  cases rel with
  | none => exact .inl ⟨rfl, rfl⟩
  | some holds => exact .inr ⟨_, _, rfl, rfl, holds⟩

/-! ## Values -/

inductive Action.Alike (padding : Padding) : Action → Action → Prop
  | closure (name : Option String) (routine : Routine) {home place : ScopeId}
      (stands : padding.StandsFor home place) :
      Alike padding (.closure name routine home) (.closure name routine place)
  | native (function : Native) (arity : Nat) :
      Alike padding (.native function arity) (.native function arity)

inductive Value.Alike (padding : Padding) : Value → Value → Prop
  | plain {value : Value} (plain : value.Plain) : Alike padding value value
  | callable (identity : Nat) {action other : Action} (actions : action.Alike padding other) :
      Alike padding (.callable ⟨identity, action⟩) (.callable ⟨identity, other⟩)

theorem Action.Alike.grow {action other : Action} (alike : action.Alike padding other)
    (grows : padding.Grows more) : action.Alike more other := by
  cases alike with
  | closure name routine stands => exact .closure name routine (stands.grow grows)
  | native function arity => exact .native function arity

/-- Functions that are alike take as many arguments and print the same. -/
theorem Action.Alike.same {action other : Action} (alike : action.Alike padding other)
    (identity : Nat) : (Callable.mk identity action).arity = (Callable.mk identity other).arity ∧
      (Callable.mk identity action).text = (Callable.mk identity other).text := by
  cases alike with
  | closure name routine stands => cases name <;> exact ⟨rfl, rfl⟩
  | native function arity => exact ⟨rfl, rfl⟩

namespace Value.Alike

variable {value other : Value} (alike : value.Alike padding other)

include alike

theorem grow (grows : padding.Grows more) : value.Alike more other := by
  cases alike with
  | plain plain => exact .plain plain
  | callable identity actions => exact .callable identity (actions.grow grows)

theorem text : value.text = other.text := by
  cases alike with
  | plain plain => rfl
  | callable identity actions => exact (actions.same identity).2

theorem truthy : value.truthy = other.truthy := by
  cases alike <;> rfl

theorem settles (op : LogicalOp) : op.settledBy value = op.settledBy other := by
  cases op <;> simp [LogicalOp.settledBy, alike.truthy]

theorem apply_unary (op : UnaryOp) : op.apply value = op.apply other := by
  cases alike with
  | plain plain => rfl
  | callable identity actions => cases op <;> rfl

theorem apply_binary {right rightToo : Value} (rights : right.Alike padding rightToo)
    (op : BinaryOp) : op.apply value right = op.apply other rightToo := by
  have texts := alike.text
  have textsToo := rights.text
  cases alike with
  | plain plain =>
    cases rights with
    | plain plain => rfl
    | callable identity actions =>
      cases value with
      | callable function => exact absurd rfl plain
      | string value =>
        cases op with
        | add => exact congrArg (fun text => Except.ok (Value.string (value ++ text))) textsToo
        | _ => rfl
      | _ => cases op <;> rfl
  | callable identity actions =>
    cases rights with
    | plain plain =>
      cases right with
      | callable function => exact absurd rfl plain
      | string value =>
        cases op with
        | add => exact congrArg (fun text => Except.ok (Value.string (text ++ value))) texts
        | _ => rfl
      | _ => cases op <;> rfl
    | callable identity actions => cases op <;> rfl

end Value.Alike

/-! ## Scopes -/

/-- The bindings are of the same names, in order, to values that are alike. -/
def BindingsAlike (padding : Padding) :
    List (String × Value) → List (String × Value) → Prop :=
  List.Forall₂ fun binding other => binding.1 = other.1 ∧ binding.2.Alike padding other.2

theorem BindingsAlike.grow {bindings others : List (String × Value)}
    (alike : BindingsAlike padding bindings others) (grows : padding.Grows more) :
    BindingsAlike more bindings others :=
  alike.imp fun _ _ both => ⟨both.1, both.2.grow grows⟩

theorem BindingsAlike.bind {bindings others : List (String × Value)}
    (alike : BindingsAlike padding bindings others) {value other : Value}
    (values : value.Alike padding other) (name : String) :
    BindingsAlike padding (Scope.bind name value bindings) (Scope.bind name other others) := by
  induction alike with
  | nil => exact .cons ⟨rfl, values⟩ .nil
  | @cons binding other _ _ first rest ih =>
    obtain ⟨known, old⟩ := binding
    obtain ⟨knownToo, oldToo⟩ := other
    obtain rfl : known = knownToo := first.1
    unfold Scope.bind
    split
    · exact .cons ⟨rfl, values⟩ rest
    · exact .cons first ih

theorem BindingsAlike.lookup {bindings others : List (String × Value)}
    (alike : BindingsAlike padding bindings others) (name : String) :
    Option.Rel (Value.Alike padding) (bindings.lookup name) (others.lookup name) := by
  induction alike with
  | nil => exact .none
  | @cons binding other _ _ first rest ih =>
    obtain ⟨known, old⟩ := binding
    obtain ⟨knownToo, oldToo⟩ := other
    obtain rfl : known = knownToo := first.1
    rw [List.lookup_cons, List.lookup_cons]
    split
    · exact .some first.2
    · exact ih

/-- The same names bound to values that are alike. -/
theorem BindingsAlike.zip (names : List String) {values others : List Value}
    (alike : List.Forall₂ (Value.Alike padding) values others) :
    BindingsAlike padding (names.zip values) (names.zip others) := by
  induction alike generalizing names with
  | nil => simpa using .nil
  | cons first rest ih =>
    cases names with
    | nil => exact .nil
    | cons name names => exact .cons ⟨rfl, first⟩ (ih names)

structure Scope.Alike (padding : Padding) (scope other : Scope) : Prop where
  bindings : BindingsAlike padding scope.bindings other.bindings
  parent : Option.Rel padding.StandsFor scope.parent other.parent

theorem Scope.Alike.grow {scope other : Scope} (alike : scope.Alike padding other)
    (grows : padding.Grows more) : scope.Alike more other where
  bindings := alike.bindings.grow grows
  parent := by
    rcases rel_cases alike.parent with ⟨outermost, outermostToo⟩ | ⟨_, _, around, aroundToo, stands⟩
    · rw [outermost, outermostToo]
      exact .none
    · rw [around, aroundToo]
      exact .some (stands.grow grows)

/-! ## Stores -/

/-- The second store is the first with the padding put in. -/
structure Padding.Fits (padding : Padding) (store padded : Store) : Prop where
  issued : store.issued = padded.issued
  all : padding.places.length = store.scopes.size
  apart : ∀ {id other place}, padding.Places id place → padding.Places other place → id = other
  alike : ∀ {id place scope}, padding.Places id place → store.scope? id = some scope →
    ∃ other, padded.scope? place = some other ∧ scope.Alike padding other
  empty : ∀ {place around}, (place, around) ∈ padding.added →
    padded.scope? place = some ⟨[], some around⟩ ∧ ∀ id, ¬ padding.Places id place
  onto : ∀ {place}, padded.Has place →
    (∃ id, padding.Places id place) ∨ ∃ around, (place, around) ∈ padding.added

namespace Padding

/-- A scope that both stores make, in its place in the padded store. -/
def extend (padding : Padding) (place : ScopeId) : Padding :=
  { padding with places := padding.places ++ [place] }

/-- An empty scope that only the padded store makes. -/
def pad (padding : Padding) (place around : ScopeId) : Padding :=
  { padding with added := (place, around) :: padding.added }

theorem grows_extend (padding : Padding) (place : ScopeId) :
    padding.Grows (padding.extend place) :=
  ⟨List.prefix_append _ _, List.Subset.refl _⟩

theorem grows_pad (padding : Padding) (place around : ScopeId) :
    padding.Grows (padding.pad place around) :=
  ⟨List.prefix_rfl, List.subset_cons_self _ _⟩

namespace Fits

variable {store padded : Store} {id place root rootToo : ScopeId} (fits : padding.Fits store padded)

include fits

theorem scopes (placed : padding.Places id place) :
    ∃ scope other, store.scope? id = some scope ∧ padded.scope? place = some other ∧
      scope.Alike padding other := by
  have inside : id.index < padding.places.length := (List.getElem?_eq_some_iff.mp placed).1
  rw [fits.all] at inside
  obtain ⟨scope, found⟩ := Store.has_iff.mp inside
  obtain ⟨other, foundToo, alike⟩ := fits.alike placed found
  exact ⟨scope, other, found, foundToo, alike⟩

theorem has (stands : padding.StandsFor id place) : store.Has id ∧ padded.Has place := by
  induction stands with
  | here placed =>
    obtain ⟨scope, other, found, foundToo, -⟩ := fits.scopes placed
    exact ⟨Store.has_of_scope? found, Store.has_of_scope? foundToo⟩
  | inside added _ ih => exact ⟨ih.1, Store.has_of_scope? (fits.empty added).1⟩

/-- A name is held in the place of the scope that holds it. The induction is on the steps in the
padded store, some of which only pass an empty scope. -/
theorem holderFor? (rooted : store.Rooted root) (rootedToo : padded.Rooted rootToo)
    {count steps : Nat} (stands : padding.StandsFor id place) (enough : id.index < count)
    (enoughToo : place.index < steps) :
    Option.Rel padding.Places (store.holderFor? name count id)
      (padded.holderFor? name steps place) := by
  induction steps generalizing id place count with
  | zero => omega
  | succ steps ih =>
    cases stands with
    | inside added further =>
      have found := (fits.empty added).1
      have smaller := rootedToo.inward found rfl
      have passed := ih further enough (by omega)
      simpa [Store.holderFor?, found, Scope.get?] using passed
    | here placed =>
      obtain ⟨fewer, rfl⟩ : ∃ fewer, count = fewer + 1 := ⟨count - 1, by omega⟩
      obtain ⟨scope, other, found, foundToo, alike⟩ := fits.scopes placed
      unfold Store.holderFor?
      rw [found, foundToo]
      simp only [Scope.get?]
      rcases rel_cases (alike.bindings.lookup name) with
        ⟨free, freeToo⟩ | ⟨_, _, bound, boundToo, -⟩
      · rw [free, freeToo]
        rcases rel_cases alike.parent with ⟨outermost, outermostToo⟩ |
          ⟨parent, parentToo, around, aroundToo, stands⟩
        · rw [outermost, outermostToo]
          exact .none
        · rw [around, aroundToo]
          have smaller := rooted.inward found around
          have smallerToo := rootedToo.inward foundToo aroundToo
          exact ih stands (by omega) (by omega)
      · rw [bound, boundToo]
        exact .some placed

theorem holder? (rooted : store.Rooted root) (rootedToo : padded.Rooted rootToo)
    (stands : padding.StandsFor id place) (name : String) :
    Option.Rel padding.Places (store.holder? id name) (padded.holder? place name) :=
  fits.holderFor? rooted rootedToo stands (Nat.lt_succ_self _) (Nat.lt_succ_self _)

theorem get? (rooted : store.Rooted root) (rootedToo : padded.Rooted rootToo)
    (stands : padding.StandsFor id place) (name : String) :
    Option.Rel (Value.Alike padding) (store.get? id name) (padded.get? place name) := by
  rw [Store.get?_eq, Store.get?_eq]
  rcases rel_cases (fits.holder? rooted rootedToo stands name) with ⟨free, freeToo⟩ |
    ⟨holder, holderToo, held, heldToo, placed⟩
  · rw [free, freeToo]
    exact .none
  · obtain ⟨scope, other, found, foundToo, alike⟩ := fits.scopes placed
    simpa [held, heldToo, found, foundToo, Scope.get?] using alike.bindings.lookup name

/-! ### Changes of both stores -/

theorem define (placed : padding.Places id place) {value other : Value}
    (values : value.Alike padding other) (name : String) :
    padding.Fits (store.define id name value) (padded.define place name other) where
  issued := fits.issued
  all := by simpa [Store.define] using fits.all
  apart := fits.apart
  alike := by
    intro another elsewhere scope placedToo found
    rw [Store.scope?_define] at found ⊢
    by_cases same : id = another
    · subst same
      obtain rfl : place = elsewhere := Option.some.inj (placed.symm.trans placedToo)
      rw [if_pos rfl] at found ⊢
      obtain ⟨old, foundOld, rfl⟩ := Option.map_eq_some_iff.mp found
      obtain ⟨oldToo, foundToo, alike⟩ := fits.alike placed foundOld
      rw [foundToo]
      exact ⟨_, rfl, alike.bindings.bind values name, alike.parent⟩
    · have differ : place ≠ elsewhere := by
        rintro rfl
        exact same (fits.apart placed placedToo)
      rw [if_neg same] at found
      rw [if_neg differ]
      exact fits.alike placedToo found
  empty := by
    intro another around added
    obtain ⟨found, nowhere⟩ := fits.empty added
    refine ⟨?_, nowhere⟩
    rw [Store.scope?_define, if_neg ?_]
    · exact found
    · rintro rfl
      exact nowhere id placed
  onto has := fits.onto (Store.has_define.mp has)

/-- Bindings made one after the other. -/
theorem defineAll (placed : padding.Places id place) {bindings others : List (String × Value)}
    (alike : BindingsAlike padding bindings others) :
    padding.Fits (bindings.foldl (fun store (name, value) => store.define id name value) store)
      (others.foldl (fun store (name, value) => store.define place name value) padded) := by
  induction alike generalizing store padded with
  | nil => exact fits
  | @cons binding other _ _ first rest ih =>
    obtain ⟨known, value⟩ := binding
    obtain ⟨knownToo, valueToo⟩ := other
    obtain rfl : known = knownToo := first.1
    exact ih (fits.define placed first.2 known)

theorem newCallable (action other : Action) :
    padding.Fits (store.newCallable action).2 (padded.newCallable other).2 :=
  { fits with issued := congrArg (· + 1) fits.issued }

theorem newScope {parent around : ScopeId} (stands : padding.StandsFor parent around) :
    let place := (padded.newScope (some around)).1
    (padding.extend place).Fits (store.newScope (some parent)).2 (padded.newScope (some around)).2 ∧
      (padding.extend place).Places (store.newScope (some parent)).1 place := by
  intro place
  have grows := padding.grows_extend place
  have unused : ∀ {id}, ¬ padding.Places id place := fun placed =>
    Nat.lt_irrefl _ (fits.has (.here placed)).2
  have last : (padding.extend place).Places (store.newScope (some parent)).1 place := by
    show (padding.places ++ [place])[store.scopes.size]? = some place
    rw [← fits.all, List.getElem?_concat_length]
  -- What has a place is the new scope, or had its place before.
  have cases_places : ∀ {id elsewhere}, (padding.extend place).Places id elsewhere →
      padding.Places id elsewhere ∨ id = (store.newScope (some parent)).1 ∧ elsewhere = place := by
    intro id elsewhere placed
    rcases Nat.lt_trichotomy id.index padding.places.length with earlier | isLast | beyond
    · left
      rwa [Places, extend, List.getElem?_append_left earlier] at placed
    · right
      obtain rfl : id = (store.newScope (some parent)).1 := by
        rw [fits.all] at isLast
        exact congrArg ScopeId.mk isLast
      exact ⟨rfl, Option.some.inj (placed.symm.trans last)⟩
    · have outside : (padding.places ++ [place])[id.index]? = none := by
        rw [List.getElem?_eq_none_iff, List.length_append]
        exact beyond
      rw [Places, extend, outside] at placed
      cases placed
  refine ⟨⟨fits.issued, ?_, ?_, ?_, ?_, ?_⟩, last⟩
  · simp [extend, Store.newScope, fits.all]
  · intro id other elsewhere one another
    rcases cases_places one with old | ⟨rfl, rfl⟩
    · rcases cases_places another with oldToo | ⟨rfl, rfl⟩
      · exact fits.apart old oldToo
      · exact absurd old unused
    · rcases cases_places another with oldToo | ⟨rfl, -⟩
      · exact absurd oldToo unused
      · rfl
  · intro id elsewhere scope placed found
    rw [Store.scope?_newScope] at found ⊢
    rcases cases_places placed with old | ⟨rfl, rfl⟩
    · have isOld : id ≠ (store.newScope (some parent)).1 := by
        rintro rfl
        exact Nat.lt_irrefl _ (fits.has (.here old)).1
      have isOldToo : elsewhere ≠ place := by
        rintro rfl
        exact unused old
      rw [if_neg isOld] at found
      rw [if_neg isOldToo]
      obtain ⟨other, foundToo, alike⟩ := fits.alike old found
      exact ⟨other, foundToo, alike.grow grows⟩
    · rw [if_pos rfl] at found ⊢
      cases found
      exact ⟨_, rfl, .nil, .some (stands.grow grows)⟩
  · intro elsewhere beyond added
    obtain ⟨found, nowhere⟩ := fits.empty added
    have isOld : elsewhere ≠ place := by
      rintro rfl
      exact Nat.lt_irrefl _ (Store.has_of_scope? found)
    rw [Store.scope?_newScope, if_neg isOld]
    refine ⟨found, fun id placed => ?_⟩
    rcases cases_places placed with old | ⟨-, rfl⟩
    · exact nowhere id old
    · exact isOld rfl
  · intro elsewhere has
    rcases Store.has_newScope_iff.mp has with rfl | old
    · exact .inl ⟨_, last⟩
    · rcases fits.onto old with ⟨id, placed⟩ | added
      · exact .inl ⟨id, placed.grow grows⟩
      · exact .inr added

/-- Only the padded store makes a scope, and nothing is put into it. -/
theorem newPad {around : ScopeId} (stands : padding.StandsFor id around) :
    let place := (padded.newScope (some around)).1
    (padding.pad place around).Fits store (padded.newScope (some around)).2 ∧
      (padding.pad place around).StandsFor id place := by
  intro place
  have grows := padding.grows_pad place around
  have isOld : ∀ {elsewhere}, padded.Has elsewhere → elsewhere ≠ place := by
    rintro _ there rfl
    exact Nat.lt_irrefl _ there
  refine ⟨⟨fits.issued, fits.all, fits.apart, ?_, ?_, ?_⟩, ?_⟩
  · intro another elsewhere scope placed found
    obtain ⟨other, foundToo, alike⟩ := fits.alike placed found
    rw [Store.scope?_newScope, if_neg (isOld (Store.has_of_scope? foundToo))]
    exact ⟨other, foundToo, alike.grow grows⟩
  · intro elsewhere beyond added
    rw [Store.scope?_newScope]
    rcases List.mem_cons.mp added with new | old
    · cases new
      rw [if_pos rfl]
      exact ⟨rfl, fun another placed => isOld (fits.has (.here placed)).2 rfl⟩
    · obtain ⟨found, nowhere⟩ := fits.empty old
      rw [if_neg (isOld (Store.has_of_scope? found))]
      exact ⟨found, nowhere⟩
  · intro elsewhere has
    rcases Store.has_newScope_iff.mp has with rfl | old
    · exact .inr ⟨around, List.mem_cons_self ..⟩
    · rcases fits.onto old with placed | ⟨beyond, added⟩
      · exact .inl placed
      · exact .inr ⟨beyond, grows.added added⟩
  · exact .inside (List.mem_cons_self ..) (stands.grow grows)

end Fits
end Padding

/-! ## Homes -/

/-- The home of a function is a scope of the store. -/
def Action.Housed (store : Store) : Action → Prop
  | closure _ _ home => store.Has home
  | native _ _ => True

def Value.Housed (store : Store) : Value → Prop
  | callable function => function.action.Housed store
  | _ => True

theorem Value.Alike.housed {store padded : Store} {value other : Value}
    (alike : value.Alike padding other) (fits : padding.Fits store padded) :
    value.Housed store ∧ other.Housed padded := by
  cases alike with
  | plain plain =>
    cases value with
    | callable function => exact absurd rfl plain
    | _ => exact ⟨trivial, trivial⟩
  | callable identity actions =>
    cases actions with
    | closure name routine stands => exact fits.has stands
    | native function arity => exact ⟨trivial, trivial⟩

theorem BindingsAlike.housed {store padded : Store} {bindings others : List (String × Value)}
    (alike : BindingsAlike padding bindings others) (fits : padding.Fits store padded) :
    (∀ binding ∈ bindings, binding.2.Housed store) ∧
      ∀ binding ∈ others, binding.2.Housed padded := by
  induction alike with
  | nil => exact ⟨List.forall_mem_nil _, List.forall_mem_nil _⟩
  | cons first rest ih =>
    have values := first.2.housed fits
    exact ⟨List.forall_mem_cons.mpr ⟨values.1, ih.1⟩, List.forall_mem_cons.mpr ⟨values.2, ih.2⟩⟩

theorem Padding.Fits.housed {store padded : Store} (fits : padding.Fits store padded) :
    store.Binds (Value.Housed store) := by
  intro scope member
  obtain ⟨index, found⟩ := Array.mem_iff_getElem?.mp member
  have inside : index < padding.places.length := by
    rw [fits.all]
    exact (Array.getElem?_eq_some_iff.mp found).1
  have placed : padding.Places ⟨index⟩ padding.places[index] := List.getElem?_eq_getElem inside
  obtain ⟨other, -, alike⟩ := fits.alike placed found
  exact (alike.bindings.housed fits).1

/-- Nothing is bound in the empty scopes, and the others have their place. -/
theorem Padding.Fits.housedToo {store padded : Store} (fits : padding.Fits store padded) :
    padded.Binds (Value.Housed padded) := by
  intro other member
  obtain ⟨index, found⟩ := Array.mem_iff_getElem?.mp member
  have has : padded.Has ⟨index⟩ := (Array.getElem?_eq_some_iff.mp found).1
  rcases fits.onto has with ⟨id, placed⟩ | ⟨around, added⟩
  · obtain ⟨scope, _, -, foundToo, alike⟩ := fits.scopes placed
    obtain rfl := Option.some.inj (found.symm.trans foundToo)
    exact (alike.bindings.housed fits).2
  · obtain rfl := Option.some.inj (found.symm.trans (fits.empty added).1)
    exact fun _ absurd => nomatch absurd

/-! ## No padding -/

namespace Padding

variable {store : Store} {id : ScopeId}

/-- Each scope in its own place. -/
def none (store : Store) : Padding :=
  ⟨(List.range store.scopes.size).map ScopeId.mk, []⟩

theorem places_none {place : ScopeId} :
    (none store).Places id place ↔ store.Has id ∧ place = id := by
  obtain ⟨index⟩ := id
  simp only [Places, none, Store.Has, List.getElem?_map, Option.map_eq_some_iff,
    List.getElem?_eq_some_iff, List.length_range, List.getElem_range]
  constructor
  · rintro ⟨number, ⟨inside, rfl⟩, rfl⟩
    exact ⟨inside, rfl⟩
  · rintro ⟨inside, rfl⟩
    exact ⟨index, ⟨inside, rfl⟩, rfl⟩

theorem stands_none (has : store.Has id) : (none store).StandsFor id id :=
  .here (places_none.mpr ⟨has, rfl⟩)

theorem alike_none {value : Value} (housed : value.Housed store) :
    value.Alike (none store) value := by
  cases value with
  | callable function =>
    obtain ⟨identity, action⟩ := function
    refine .callable identity ?_
    cases action with
    | closure name routine home => exact .closure name routine (stands_none housed)
    | native function arity => exact .native function arity
  | _ => exact .plain nofun

theorem fits_none {root : ScopeId} (rooted : store.Rooted root)
    (housed : store.Binds (Value.Housed store)) : (none store).Fits store store where
  issued := rfl
  all := by simp [none]
  apart one other := (places_none.mp one).2.symm.trans (places_none.mp other).2
  alike := by
    intro id place scope placed found
    obtain ⟨has, rfl⟩ := places_none.mp placed
    refine ⟨scope, found, ?_, ?_⟩
    · refine List.forall₂_same.mpr fun binding bound => ⟨rfl, alike_none ?_⟩
      exact housed scope (Array.mem_of_getElem? found) binding bound
    · cases around : scope.parent with
      | none => exact .none
      | some parent =>
        exact .some (stands_none (Nat.lt_trans (rooted.inward found around) has))
  empty absurd := nomatch absurd
  onto has := .inl ⟨_, places_none.mpr ⟨has, rfl⟩⟩

end Padding
end Lox
