import Lox.Proofs.Program.LoopBody
import Lox.Proofs.Run.Fuel
import Lox.Proofs.Run.Variable
import Lox.Proofs.Value.Padding

/-!
# Runs on padded stores

Two machines are alike if the store of the second is that of the first with empty scopes put in, and
they agree in the rest. A tree does the same on machines that are alike: it prints the same, ends in
the same way, and leaves them alike.

The current scopes correspond exactly, or the second machine is in an empty scope inside. There only
what declares nothing may be run, or the scope would not stay empty.
-/

namespace Lox

variable {padding more : Padding} {exactly : Bool}

/-- The current scopes of two machines correspond, exactly or through empty scopes. -/
def Padding.Meets (padding : Padding) : (exactly : Bool) → ScopeId → ScopeId → Prop
  | true => padding.Places
  | false => padding.StandsFor

namespace Padding.Meets

variable {here hereToo : ScopeId} (meets : padding.Meets exactly here hereToo)

include meets

theorem stands : padding.StandsFor here hereToo := by
  cases exactly with
  | true => exact .here meets
  | false => exact meets

theorem grow (grows : padding.Grows more) : more.Meets exactly here hereToo := by
  cases exactly with
  | true => exact Places.grow meets grows
  | false => exact StandsFor.grow meets grows

end Padding.Meets

structure Machine.Alike (padding : Padding) (exactly : Bool) (machine other : Machine) : Prop where
  store : padding.Fits machine.store other.store
  rooted : machine.store.Rooted machine.globals
  rootedToo : other.store.Rooted other.globals
  globals : padding.Places machine.globals other.globals
  scope : padding.Meets exactly machine.scope other.scope
  sink : machine.sink = other.sink
  clock : machine.clock = other.clock
  readings : machine.readings = other.readings

inductive Completion.Alike (padding : Padding) : Completion → Completion → Prop
  | normal : Alike padding .normal .normal
  | broke : Alike padding .broke .broke
  | continued : Alike padding .continued .continued
  | returned {value other : Value} (values : value.Alike padding other) :
      Alike padding (.returned value) (.returned other)

theorem Completion.Alike.grow {completion other : Completion}
    (alike : completion.Alike padding other) (grows : padding.Grows more) :
    completion.Alike more other := by
  cases alike with
  | returned values => exact .returned (values.grow grows)
  | _ => constructor

/-- Scopes are made after those around them, and each scope that is referred to is there. -/
structure Machine.Linked (machine : Machine) : Prop where
  rooted : machine.store.Rooted machine.globals
  globals : machine.store.Has machine.globals
  here : machine.store.Has machine.scope
  housed : machine.store.Binds (Value.Housed machine.store)

theorem Machine.Linked.alike {machine : Machine} (linked : machine.Linked) :
    machine.Alike (.none machine.store) true machine where
  store := Padding.fits_none linked.rooted linked.housed
  rooted := linked.rooted
  rootedToo := linked.rooted
  globals := Padding.places_none.mpr ⟨linked.globals, rfl⟩
  scope := Padding.places_none.mpr ⟨linked.here, rfl⟩
  sink := rfl
  clock := rfl
  readings := rfl

/-! ## Machines that are alike -/

namespace Machine.Alike

variable {machine other : Machine} (alike : machine.Alike padding exactly other)

include alike

theorem linked : machine.Linked where
  rooted := alike.rooted
  globals := (alike.store.has (.here alike.globals)).1
  here := (alike.store.has alike.scope.stands).1
  housed := alike.store.housed

theorem linkedToo : other.Linked where
  rooted := alike.rootedToo
  globals := (alike.store.has (.here alike.globals)).2
  here := (alike.store.has alike.scope.stands).2
  housed := alike.store.housedToo

theorem withScope {strictly : Bool} {scope place : ScopeId}
    (meets : padding.Meets strictly scope place) :
    { machine with scope }.Alike padding strictly { other with scope := place } :=
  { alike with scope := meets }

theorem define {id place : ScopeId} (placed : padding.Places id place) {value valueToo : Value}
    (values : value.Alike padding valueToo) (name : String) :
    { machine with store := machine.store.define id name value }.Alike padding exactly
      { other with store := other.store.define place name valueToo } :=
  { alike with
    store := alike.store.define placed values name
    rooted := alike.rooted.define id name value
    rootedToo := alike.rootedToo.define place name valueToo }

theorem defineAll {id place : ScopeId} (placed : padding.Places id place)
    {bindings others : List (String × Value)} (same : BindingsAlike padding bindings others) :
    { machine with
      store := bindings.foldl (fun store (name, value) => store.define id name value)
        machine.store }.Alike padding exactly
      { other with
        store := others.foldl (fun store (name, value) => store.define place name value)
          other.store } := by
  induction same generalizing machine other with
  | nil => exact alike
  | @cons binding bindingToo _ _ first rest ih =>
    obtain ⟨known, value⟩ := binding
    obtain ⟨knownToo, valueToo⟩ := bindingToo
    obtain rfl : known = knownToo := first.1
    exact ih (alike.define placed first.2 known)

theorem newCallable (action actionToo : Action) :
    { machine with store := (machine.store.newCallable action).2 }.Alike padding exactly
      { other with store := (other.store.newCallable actionToo).2 } :=
  { alike with
    store := alike.store.newCallable action actionToo
    rooted := alike.rooted.newCallable action
    rootedToo := alike.rootedToo.newCallable actionToo }

/-- The machines with the stores in which both have made a scope. -/
theorem newScope {parent around : ScopeId} (stands : padding.StandsFor parent around) :
    let place := (other.store.newScope (some around)).1
    { machine with store := (machine.store.newScope (some parent)).2 }.Alike
      (padding.extend place) exactly
      { other with store := (other.store.newScope (some around)).2 } := by
  intro place
  have grows := padding.grows_extend place
  have has := alike.store.has stands
  exact {
    store := (alike.store.newScope stands).1
    rooted := alike.rooted.newScope has.1
    rootedToo := alike.rootedToo.newScope has.2
    globals := alike.globals.grow grows
    scope := alike.scope.grow grows
    sink := alike.sink
    clock := alike.clock
    readings := alike.readings }

/-- The machines where only the second has made a scope, and has gone into it. -/
theorem newPad :
    let place := (other.store.newScope (some other.scope)).1
    machine.Alike (padding.pad place other.scope) false
      { other with store := (other.store.newScope (some other.scope)).2, scope := place } := by
  intro place
  have grows := padding.grows_pad place other.scope
  have stands := alike.scope.stands
  have fits := alike.store.newPad stands
  exact {
    store := fits.1
    rooted := alike.rooted
    rootedToo := alike.rootedToo.newScope (alike.store.has stands).2
    globals := alike.globals.grow grows
    scope := fits.2
    sink := alike.sink
    clock := alike.clock
    readings := alike.readings }

end Machine.Alike

namespace Run

variable {α β γ δ : Type}

/-! ## Runs that end alike -/

/-- Both runs ended, in the same way, with the first machine in the scope `here` again. -/
inductive EndAlike (padding : Padding) (exactly : Bool) (here : ScopeId)
    (post : Padding → α → β → Prop) :
    EStateM.Result Halt Machine α → EStateM.Result Halt Machine β → Prop
  | ok {a : α} {b : β} {after later : Machine} {more : Padding} (grows : padding.Grows more)
      (machines : after.Alike more exactly later) (stays : after.scope = here)
      (holds : post more a b) : EndAlike padding exactly here post (.ok a after) (.ok b later)
  | error {halt : Halt} {after later : Machine} {more : Padding} (grows : padding.Grows more)
      (machines : after.Alike more exactly later) (stays : after.scope = here) :
      EndAlike padding exactly here post (.error halt after) (.error halt later)

theorem EndAlike.since {here : ScopeId} {post : Padding → α → β → Prop}
    {result : EStateM.Result Halt Machine α} {other : EStateM.Result Halt Machine β}
    (ends : EndAlike more exactly here post result other) (grows : padding.Grows more) :
    EndAlike padding exactly here post result other := by
  cases ends with
  | ok further machines stays holds => exact .ok (grows.trans further) machines stays holds
  | error further machines stays => exact .error (grows.trans further) machines stays

theorem EndAlike.finished {here : ScopeId} {post : Padding → α → β → Prop}
    {result : EStateM.Result Halt Machine α} {other : EStateM.Result Halt Machine β}
    (ends : EndAlike padding exactly here post result other) :
    Finished result ↔ Finished other := by
  cases ends with
  | ok => exact Iff.rfl
  | @error halt => cases halt <;> exact Iff.rfl

/-- Which of two runs is known to finish. -/
inductive Side where
  | neither | first | second

def Side.Finishes (side : Side) (result : EStateM.Result Halt Machine α)
    (other : EStateM.Result Halt Machine β) : Prop :=
  match side with
  | neither => True
  | first => Finished result
  | second => Finished other

variable {side : Side}

theorem Side.Finishes.of_bind {run : Run α} {other : Run β} {next : α → Run γ}
    {nextToo : β → Run δ} {machine machineToo : Machine}
    (finishes : side.Finishes ((run >>= next) machine) ((other >>= nextToo) machineToo)) :
    side.Finishes (run machine) (other machineToo) := by
  cases side with
  | neither => trivial
  | first => exact finished_of_bind finishes
  | second => exact finished_of_bind finishes

theorem Side.Finishes.of_inScope {run : Run α} {other : Run β} {inner innerToo : ScopeId}
    {machine machineToo : Machine}
    (finishes : side.Finishes (inScope inner run machine) (inScope innerToo other machineToo)) :
    side.Finishes (run { machine with scope := inner })
      (other { machineToo with scope := innerToo }) := by
  cases side with
  | neither => trivial
  | first => exact finished_inScope.mp finishes
  | second => exact finished_inScope.mp finishes

/-- From machines that are alike, the runs end alike, if that one finishes that is said to. The
results satisfy `post`. -/
def Pads (side : Side) (exactly : Bool) (padding : Padding) (run : Run α) (other : Run β)
    (post : Padding → α → β → Prop) : Prop :=
  ∀ more machine machineToo, padding.Grows more → machine.Alike more exactly machineToo →
    side.Finishes (run machine) (other machineToo) →
      EndAlike more exactly machine.scope post (run machine) (other machineToo)

namespace Pads

variable {run : Run α} {other : Run β} {post : Padding → α → β → Prop}

/-- Runs that end alike in any case do so if one finishes. -/
theorem whichever (pads : Pads .neither exactly padding run other post) :
    Pads side exactly padding run other post :=
  fun _ _ _ grows alike _ => pads _ _ _ grows alike trivial

theorem pure {a : α} {b : β} (holds : ∀ more, padding.Grows more → post more a b) :
    Pads side exactly padding (Pure.pure a) (Pure.pure b) post :=
  fun _ _ _ grows alike _ => .ok (.refl _) alike rfl (holds _ grows)

theorem throw (halt : Halt) :
    Pads side exactly padding (MonadExcept.throw halt) (MonadExcept.throw halt) post :=
  fun _ _ _ _ alike _ => .error (.refl _) alike rfl

theorem bind {next : α → Run γ} {nextToo : β → Run δ} {last : Padding → γ → δ → Prop}
    (first : Pads side exactly padding run other post)
    (second : ∀ more a b, padding.Grows more → post more a b →
      Pads side exactly more (next a) (nextToo b) last) :
    Pads side exactly padding (run >>= next) (other >>= nextToo) last := by
  intro more machine machineToo grows alike finishes
  have start := first more machine machineToo grows alike finishes.of_bind
  generalize result : run machine = ran, resultToo : other machineToo = ranToo at start
  cases start with
  | ok further machines stays holds =>
    rw [run_bind_ok result, run_bind_ok resultToo] at finishes ⊢
    have rest := second _ _ _ (grows.trans further) holds _ _ _ (.refl _) machines finishes
    rw [stays] at rest
    exact rest.since further
  | error further machines stays =>
    rw [run_bind_error result, run_bind_error resultToo]
    exact .error further machines stays

theorem inScope {strictly : Bool} {inner innerToo : ScopeId}
    (pads : Pads side strictly padding run other post)
    (meets : padding.Meets strictly inner innerToo) :
    Pads side exactly padding (Run.inScope inner run) (Run.inScope innerToo other) post := by
  intro more machine machineToo grows alike finishes
  have ends := pads more _ _ grows (alike.withScope (meets.grow grows)) finishes.of_inScope
  unfold Run.inScope
  generalize run { machine with scope := inner } = ran,
    other { machineToo with scope := innerToo } = ranToo at ends
  cases ends with
  | ok further machines stays holds =>
    exact .ok further (machines.withScope (alike.scope.grow further)) rfl holds
  | error further machines stays =>
    exact .error further (machines.withScope (alike.scope.grow further)) rfl

/-- The second run is made in an empty scope of its own. -/
theorem inPad (pads : Pads side false padding run other post) :
    Pads side exactly padding run
      (do let machine ← get
          let inner ← Run.newScope machine.scope []
          Run.inScope inner other) post := by
  intro more machine machineToo grows alike finishes
  let place := (machineToo.store.newScope (some machineToo.scope)).1
  let padded : Machine :=
    { machineToo with store := (machineToo.store.newScope (some machineToo.scope)).2 }
  have goes := more.grows_pad place machineToo.scope
  show EndAlike _ _ _ _ _ (Run.inScope place other padded)
  have known : side.Finishes (run machine) (Run.inScope place other padded) := finishes
  have inside : side.Finishes (run machine) (other { padded with scope := place }) := by
    cases side with
    | neither => trivial
    | first => exact known
    | second => exact finished_inScope.mp known
  have ends := (pads _ _ _ (grows.trans goes) alike.newPad inside).since goes
  unfold Run.inScope
  generalize run machine = ran, other { padded with scope := place } = ranToo at ends
  -- The first machine did not leave its scope, and the second has come back to its own.
  cases ends with
  | ok further machines stays holds =>
    have meets := alike.scope.grow further
    rw [← stays] at meets
    exact .ok further { machines with scope := meets } stays holds
  | error further machines stays =>
    have meets := alike.scope.grow further
    rw [← stays] at meets
    exact .error further { machines with scope := meets } stays

/-! ### More fuel for one of the runs -/

theorem moreSecond {longer : Run β} (pads : Pads .first exactly padding run other post)
    (longerToo : Extends other longer) : Pads .first exactly padding run longer post := by
  intro more machine machineToo grows alike finishes
  have ends := pads more machine machineToo grows alike finishes
  rw [longerToo machineToo (ends.finished.mp finishes)]
  exact ends

theorem moreFirst {longer : Run α} (pads : Pads .second exactly padding run other post)
    (longerToo : Extends run longer) : Pads .second exactly padding longer other post := by
  intro more machine machineToo grows alike finishes
  have ends := pads more machine machineToo grows alike finishes
  rw [longerToo machine (ends.finished.mpr finishes)]
  exact ends

/-- The second run is known to do what a longer one does, where it finishes. -/
theorem lessSecond {shorter : Run β} (pads : Pads .second exactly padding run other post)
    (longer : Extends shorter other) : Pads .second exactly padding run shorter post := by
  intro more machine machineToo grows alike finishes
  have same := longer machineToo finishes
  have finishesToo : Finished (other machineToo) := same ▸ finishes
  rw [← same]
  exact pads more machine machineToo grows alike finishesToo

/-! ### Steps -/

/-- Steps that give results. -/
theorem of_ok {result : Machine → α} {resultToo : Machine → β} {next nextToo : Machine → Machine}
    (runs : ∀ machine, run machine = .ok (result machine) (next machine))
    (others : ∀ machine, other machine = .ok (resultToo machine) (nextToo machine))
    (stays : ∀ machine, (next machine).scope = machine.scope)
    (step : ∀ more machine machineToo, padding.Grows more → machine.Alike more exactly machineToo →
      ∃ most, more.Grows most ∧ (next machine).Alike most exactly (nextToo machineToo) ∧
        post most (result machine) (resultToo machineToo)) :
    Pads side exactly padding run other post := by
  intro more machine machineToo grows alike _
  obtain ⟨most, further, machines, holds⟩ := step more machine machineToo grows alike
  rw [runs, others]
  exact .ok further machines (stays machine) holds

theorem get : Pads side exactly padding get get fun more machine machineToo =>
    more.StandsFor machine.scope machineToo.scope := by
  refine .of_ok (fun _ => rfl) (fun _ => rfl) (fun _ => rfl) ?_
  intro more machine machineToo _ alike
  exact ⟨more, .refl _, alike, alike.scope.stands⟩

theorem ofOperator (token : Token) {result : Except RuntimeError.Cause Value}
    (plain : ∀ value, result = .ok value → value.Plain) :
    Pads side exactly padding (Run.ofOperator token result) (Run.ofOperator token result)
      Value.Alike := by
  cases result with
  | ok value => exact .pure fun _ _ => .plain (plain value rfl)
  | error cause => exact .throw _

theorem lookup (name : Token) :
    Pads side exactly padding (Run.lookup name) (Run.lookup name) Value.Alike := by
  intro more machine machineToo _ alike _
  rw [run_lookup, run_lookup]
  rcases rel_cases (alike.store.get? alike.rooted alike.rootedToo alike.scope.stands name.lexeme)
    with ⟨free, freeToo⟩ | ⟨value, valueToo, found, foundToo, values⟩
  · rw [free, freeToo]
    exact .error (.refl _) alike rfl
  · rw [found, foundToo]
    exact .ok (.refl _) alike rfl values

theorem define {value valueToo : Value} (values : value.Alike padding valueToo) (name : String) :
    Pads side true padding (Run.define name value) (Run.define name valueToo)
      fun _ _ _ => True := by
  refine .of_ok (fun _ => rfl) (fun _ => rfl) (fun _ => rfl) ?_
  intro more machine machineToo grows alike
  exact ⟨more, .refl _, alike.define alike.scope (values.grow grows) name, trivial⟩

theorem assign {value valueToo : Value} (values : value.Alike padding valueToo) (name : Token) :
    Pads side exactly padding (Run.assign name value) (Run.assign name valueToo)
      fun _ _ _ => True := by
  intro more machine machineToo grows alike _
  rw [run_assign, run_assign]
  rcases rel_cases (alike.store.holder? alike.rooted alike.rootedToo alike.scope.stands name.lexeme)
    with ⟨free, freeToo⟩ | ⟨holder, holderToo, held, heldToo, placed⟩
  · rw [free, freeToo]
    exact .error (.refl _) alike rfl
  · rw [held, heldToo]
    exact .ok (.refl _) (alike.define placed (values.grow grows) name.lexeme) rfl trivial

theorem newScope {parent around : ScopeId} {bindings others : List (String × Value)}
    (stands : padding.StandsFor parent around) (same : BindingsAlike padding bindings others) :
    Pads side exactly padding (Run.newScope parent bindings) (Run.newScope around others)
      Padding.Places := by
  refine .of_ok (fun _ => rfl) (fun _ => rfl) (fun _ => rfl) ?_
  intro more machine machineToo grows alike
  have standing := stands.grow grows
  have goes := more.grows_extend (machineToo.store.newScope (some around)).1
  have placed := (alike.store.newScope standing).2
  have machines := (alike.newScope standing).defineAll placed ((same.grow grows).grow goes)
  exact ⟨_, goes, machines, placed⟩

theorem newClosure (name : Option String) (routine : Routine) :
    Pads side exactly padding (Run.newClosure name routine) (Run.newClosure name routine)
      Value.Alike := by
  refine .of_ok (fun _ => rfl) (fun _ => rfl) (fun _ => rfl) ?_
  intro more machine machineToo _ alike
  let action := Action.closure name routine machine.scope
  let actionToo := Action.closure name routine machineToo.scope
  refine ⟨more, .refl _, alike.newCallable action actionToo, ?_⟩
  rw [alike.store.issued]
  exact .callable _ (.closure name routine alike.scope.stands)

theorem print {value valueToo : Value} (values : value.Alike padding valueToo) :
    Pads side exactly padding (Run.print value) (Run.print valueToo) fun _ _ _ => True := by
  unfold Run.print
  rw [values.text]
  let write : Run Bool := modifyGet fun machine =>
    ((machine.sink.write (valueToo.text ++ "\n")).1,
      { machine with sink := (machine.sink.write (valueToo.text ++ "\n")).2 })
  have written : Pads side exactly padding write write fun _ complete completeToo =>
      complete = completeToo := by
    refine .of_ok (fun _ => rfl) (fun _ => rfl) (fun _ => rfl) ?_
    intro more machine machineToo _ alike
    refine ⟨more, .refl _, { alike with sink := ?_ }, ?_⟩ <;> simp only [alike.sink]
  refine written.bind ?_
  rintro more complete _ - rfl
  cases complete with
  | true => exact .pure fun _ _ => trivial
  | false => exact .throw _

theorem flush : Pads side exactly padding Run.flush Run.flush fun _ _ _ => True := by
  intro more machine machineToo _ alike _
  unfold Run.flush
  rw [run_bind_ok (run_get machine), run_bind_ok (run_get machineToo), alike.sink]
  cases machineToo.sink.flushes with
  | true => exact .ok (.refl _) alike rfl trivial
  | false => exact .error (.refl _) alike rfl

theorem readClock : Pads side exactly padding Run.readClock Run.readClock Value.Alike := by
  refine .of_ok (fun _ => rfl) (fun _ => rfl) (fun _ => rfl) ?_
  intro more machine machineToo _ alike
  refine ⟨more, .refl _, { alike with readings := congrArg (· + 1) alike.readings }, ?_⟩
  rw [alike.clock, alike.readings]
  exact .plain nofun

end Pads
/-! ## Trees -/

/-- The same trees end alike. -/
structure Padded (fuel : Nat) : Prop where
  evaluate : ∀ {exactly padding} expr,
    Pads .neither exactly padding (Run.evaluate fuel expr) (Run.evaluate fuel expr) Value.Alike
  evaluateAll : ∀ {exactly padding} exprs,
    Pads .neither exactly padding (Run.evaluateAll fuel exprs) (Run.evaluateAll fuel exprs)
      fun more => List.Forall₂ (Value.Alike more)
  invoke : ∀ {exactly padding} {identity : Nat} {action actionToo : Action}
      {arguments others : List Value}, action.Alike padding actionToo →
      List.Forall₂ (Value.Alike padding) arguments others →
    Pads .neither exactly padding (Run.invoke fuel ⟨identity, action⟩ arguments)
      (Run.invoke fuel ⟨identity, actionToo⟩ others) Value.Alike
  execute : ∀ {exactly padding stmt}, exactly = true ∨ stmt.Undeclaring →
    Pads .neither exactly padding (Run.execute fuel stmt) (Run.execute fuel stmt) Completion.Alike
  evaluateOr : ∀ {exactly padding} expr?,
    Pads .neither exactly padding (Run.evaluateOr fuel expr?) (Run.evaluateOr fuel expr?)
      Value.Alike
  executeAll : ∀ {padding} stmts,
    Pads .neither true padding (Run.executeAll fuel stmts) (Run.executeAll fuel stmts)
      Completion.Alike
  executeLoop : ∀ {exactly padding} condition {body} increment,
      exactly = true ∨ body.Undeclaring →
    Pads .neither exactly padding (Run.executeLoop fuel condition body increment)
      (Run.executeLoop fuel condition body increment) Completion.Alike

section

variable {fuel : Nat} (padded : Padded fuel)

include padded

theorem pads_evaluate (expr : Expr) :
    Pads .neither exactly padding (evaluate (fuel + 1) expr) (evaluate (fuel + 1) expr)
      Value.Alike := by
  cases expr with
  | literal value => exact .pure fun _ _ => .plain (Value.plain_ofLiteral value)
  | var name => exact .lookup name
  | assign name value =>
    refine (padded.evaluate value).bind fun _ value valueToo _ values => ?_
    exact (Pads.assign values name).bind fun _ _ _ grows _ =>
      .pure fun _ further => (values.grow grows).grow further
  | unary op operator operand =>
    refine (padded.evaluate operand).bind fun _ value valueToo _ values => ?_
    rw [values.apply_unary op]
    exact .ofOperator operator fun _ => UnaryOp.plain_apply
  | binary op operator left right =>
    refine (padded.evaluate left).bind fun _ left leftToo _ lefts => ?_
    refine (padded.evaluate right).bind fun _ right rightToo grows rights => ?_
    rw [(lefts.grow grows).apply_binary rights op]
    exact .ofOperator operator fun _ => BinaryOp.plain_apply
  | logical op operator left right =>
    refine (padded.evaluate left).bind fun _ left leftToo _ lefts => ?_
    rw [lefts.settles op]
    split
    · exact .pure fun _ grows => lefts.grow grows
    · exact padded.evaluate right
  | comma operator left right =>
    exact (padded.evaluate left).bind fun _ _ _ _ _ => padded.evaluate right
  | conditional condition yes no =>
    refine (padded.evaluate condition).bind fun _ tested testedToo _ values => ?_
    rw [values.truthy]
    split
    · exact padded.evaluate yes
    · exact padded.evaluate no
  | grouping inner => exact padded.evaluate inner
  | call callee paren arguments =>
    refine (padded.evaluate callee).bind fun _ function functionToo _ functions => ?_
    refine (padded.evaluateAll arguments).bind fun _ given givenToo grows values => ?_
    cases functions with
    | plain plain =>
      cases function with
      | callable function => exact absurd rfl plain
      | _ => exact .throw _
    | callable identity actions =>
      simp only [(actions.same identity).1, values.length_eq]
      split
      · exact padded.invoke (actions.grow grows) values
      · exact .throw _
  | lambda routine => exact .newClosure none routine
  | get object name => exact .throw _
  | set object name value => exact .throw _
  | self keyword => exact .throw _
  | super keyword method => exact .throw _

theorem pads_evaluateAll (exprs : List Expr) :
    Pads .neither exactly padding (evaluateAll (fuel + 1) exprs) (evaluateAll (fuel + 1) exprs)
      fun more => List.Forall₂ (Value.Alike more) := by
  cases exprs with
  | nil => exact .pure fun _ _ => .nil
  | cons expr rest =>
    refine (padded.evaluate expr).bind fun _ value valueToo _ values => ?_
    refine (padded.evaluateAll rest).bind fun _ others othersToo grows rests => ?_
    exact .pure fun _ further =>
      .cons ((values.grow grows).grow further) (rests.imp fun _ _ alike => alike.grow further)

theorem pads_evaluateOr (expr? : Option Expr) :
    Pads .neither exactly padding (evaluateOr (fuel + 1) expr?) (evaluateOr (fuel + 1) expr?)
      Value.Alike := by
  cases expr? with
  | none => exact .pure fun _ _ => .plain nofun
  | some expr => exact padded.evaluate expr

theorem pads_invoke {identity : Nat} {action actionToo : Action} {arguments others : List Value}
    (actions : action.Alike padding actionToo)
    (values : List.Forall₂ (Value.Alike padding) arguments others) :
    Pads .neither exactly padding (invoke (fuel + 1) ⟨identity, action⟩ arguments)
      (invoke (fuel + 1) ⟨identity, actionToo⟩ others) Value.Alike := by
  cases actions with
  | native native arity =>
    cases native
    exact .readClock
  | closure name routine stands =>
    refine (Pads.newScope stands (.zip _ values)).bind fun _ inner innerToo _ placed => ?_
    refine ((padded.executeAll routine.body).inScope placed).bind fun _ _ _ _ completions => ?_
    cases completions with
    | returned values => exact .pure fun _ grows => values.grow grows
    | _ => exact .pure fun _ _ => .plain nofun

theorem pads_execute {stmt : Stmt} (allowed : exactly = true ∨ stmt.Undeclaring) :
    Pads .neither exactly padding (execute (fuel + 1) stmt) (execute (fuel + 1) stmt)
      Completion.Alike := by
  cases stmt with
  | expression value =>
    exact (padded.evaluate value).bind fun _ _ _ _ _ => .pure fun _ _ => .normal
  | print value =>
    exact (padded.evaluate value).bind fun _ _ _ _ values =>
      (Pads.print values).bind fun _ _ _ _ _ => .pure fun _ _ => .normal
  | define name initializer =>
    obtain rfl | undeclaring := allowed
    · exact (padded.evaluateOr initializer).bind fun _ _ _ _ values =>
        (Pads.define values name.lexeme).bind fun _ _ _ _ _ => .pure fun _ _ => .normal
    · cases undeclaring
  | block body =>
    refine Pads.get.bind fun _ _ _ _ stands => ?_
    refine (Pads.newScope stands .nil).bind fun _ _ _ _ placed => ?_
    exact (padded.executeAll body).inScope placed
  | branch condition yes no =>
    refine (padded.evaluate condition).bind fun _ tested testedToo _ values => ?_
    rw [values.truthy]
    split
    · refine padded.execute (allowed.imp_right fun undeclaring => ?_)
      cases undeclaring with
      | branch _ chosen other => exact chosen
    · cases no with
      | none => exact .pure fun _ _ => .normal
      | some no =>
        refine padded.execute (allowed.imp_right fun undeclaring => ?_)
        cases undeclaring with
        | branch _ chosen other => exact other no rfl
  | loop condition body increment =>
    refine padded.executeLoop condition increment (allowed.imp_right fun undeclaring => ?_)
    cases undeclaring with
    | loop _ _ repeated => exact repeated
  | breakLoop keyword => exact .pure fun _ _ => .broke
  | continueLoop keyword => exact .pure fun _ _ => .continued
  | function name routine =>
    obtain rfl | undeclaring := allowed
    · exact (Pads.newClosure _ routine).bind fun _ _ _ _ values =>
        (Pads.define values name.lexeme).bind fun _ _ _ _ _ => .pure fun _ _ => .normal
    · cases undeclaring
  | giveBack keyword value =>
    exact (padded.evaluateOr value).bind fun _ _ _ _ values =>
      .pure fun _ grows => .returned (values.grow grows)
  | classDecl name superclass methods => exact .throw _

theorem pads_executeAll (stmts : List Stmt) :
    Pads .neither true padding (executeAll (fuel + 1) stmts) (executeAll (fuel + 1) stmts)
      Completion.Alike := by
  cases stmts with
  | nil => exact .pure fun _ _ => .normal
  | cons stmt rest =>
    refine (padded.execute (.inl rfl)).bind fun more completion other _ completions => ?_
    have passed : ∀ most, more.Grows most → completion.Alike most other :=
      fun _ => completions.grow
    cases completions with
    | normal => exact padded.executeAll rest
    | _ => exact .pure passed

theorem pads_executeLoop (condition : Expr) {body : Stmt} (increment : Option Expr)
    (allowed : exactly = true ∨ body.Undeclaring) :
    Pads .neither exactly padding (executeLoop (fuel + 1) condition body increment)
      (executeLoop (fuel + 1) condition body increment) Completion.Alike := by
  have again : ∀ {padding}, Pads .neither exactly padding
      (do let _ ← evaluateOr fuel increment; executeLoop fuel condition body increment)
      (do let _ ← evaluateOr fuel increment; executeLoop fuel condition body increment)
      Completion.Alike :=
    (padded.evaluateOr increment).bind fun _ _ _ _ _ =>
      padded.executeLoop condition increment allowed
  refine (padded.evaluate condition).bind fun _ tested testedToo _ values => ?_
  rw [values.truthy]
  split
  · refine (padded.execute allowed).bind fun _ _ _ _ completions => ?_
    cases completions with
    | normal => exact again
    | continued => exact again
    | broke => exact .pure fun _ _ => .normal
    | returned values => exact .pure fun _ grows => .returned (values.grow grows)
  · exact .pure fun _ _ => .normal

end

/-- The induction over the fuel. -/
theorem padded (fuel : Nat) : Padded fuel := by
  induction fuel with
  | zero => constructor <;> intros <;> exact .throw _
  | succ fuel ih =>
    exact {
      evaluate := pads_evaluate ih
      evaluateAll := pads_evaluateAll ih
      invoke := pads_invoke ih
      execute := pads_execute ih
      evaluateOr := pads_evaluateOr ih
      executeAll := pads_executeAll ih
      executeLoop := pads_executeLoop ih }

/-! ## Programs -/

theorem pads_executeTop (echo : Bool) (fuel : Nat) (stmt : Stmt) :
    Pads .neither true padding (executeTop echo fuel stmt) (executeTop echo fuel stmt)
      fun _ _ _ => True := by
  have executed : Pads .neither true padding (discard (execute fuel stmt))
      (discard (execute fuel stmt)) fun _ _ _ => True := by
    rw [discard_eq_bind]
    exact ((padded fuel).execute (.inl rfl)).bind fun _ _ _ _ _ => .pure fun _ _ => trivial
  cases echo with
  | false => exact executed
  | true =>
    cases stmt with
    | expression value =>
      exact ((padded fuel).evaluate value).bind fun _ _ _ _ values => .print values
    | _ => exact executed

theorem pads_forM (echo : Bool) (fuel : Nat) (program : List Stmt) :
    Pads .neither true padding (program.forM (executeTop echo fuel))
      (program.forM (executeTop echo fuel)) fun _ _ _ => True := by
  induction program generalizing padding with
  | nil => exact .pure fun _ _ => trivial
  | cons stmt rest ih => exact (pads_executeTop echo fuel stmt).bind fun _ _ _ _ _ => ih

/-- A program starts in the global scope, wherever the machines were. -/
theorem runProgram_endAlike {machine machineToo : Machine}
    (alike : machine.Alike padding exactly machineToo) (echo : Bool) (fuel : Nat)
    (program : List Stmt) :
    EndAlike padding true machine.globals (fun _ _ _ => True)
      (runProgram echo fuel program machine) (runProgram echo fuel program machineToo) := by
  have pads : Pads .neither true padding
      (do program.forM (executeTop echo fuel); flush)
      (do program.forM (executeTop echo fuel); flush) fun _ _ _ => True :=
    (pads_forM echo fuel program).bind fun _ _ _ _ _ => .flush
  exact pads _ _ _ (.refl _) (alike.withScope alike.globals) trivial

end Run
end Lox
