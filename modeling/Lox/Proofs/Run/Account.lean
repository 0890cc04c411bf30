import Lox.Proofs.Control.Step
import Lox.Proofs.Run.Record
import Lox.Proofs.Run.Variable
import Lox.Proofs.Value.Carries
import Lox.Proofs.Value.Rooted

/-!
# Accounts of what was made

A tape gives account of its machine if each callable value that the machine binds is written on it,
and the values on it are numbered by their identities. With this goes what keeps the scopes of the
machine in order: they are rooted in the global scope, where the clock is bound, and the homes of
all functions are among them.

Every recorded run keeps this up, however it ends, and does what the plain run does. One induction
over the fuel shows both.
-/

namespace Lox

/-- The scope in which a function was made. -/
def Action.home? : Action → Option ScopeId
  | closure _ _ scope => some scope
  | native _ _ => none

variable {makings more : List Making}

/-- If it is callable, the value is one of those made. -/
def Value.Made (makings : List Making) : Value → Prop
  | callable function => ∃ making ∈ makings, making.made = function
  | _ => True

def Completion.Made (makings : List Making) : Completion → Prop
  | returned value => value.Made makings
  | _ => True

theorem Value.Made.later {value : Value} (made : value.Made makings) (grown : makings <+: more) :
    value.Made more := by
  cases value with
  | callable function =>
    obtain ⟨making, member, same⟩ := made
    exact ⟨making, grown.subset member, same⟩
  | _ => trivial

/-! ## Operators -/

section

variable {left right : Value} {name : String}

theorem arithmetic_ne_undefined {operation : Number → Number → Number} :
    arithmetic operation left right ≠ .error (.undefinedVariable name) := by
  unfold arithmetic
  split <;> nofun

theorem compareValues_ne_undefined {comparison : Number → Number → Bool} :
    compareValues comparison left right ≠ .error (.undefinedVariable name) := by
  unfold compareValues
  split
  · nofun
  · nofun
  · split <;> nofun

/-- An operator blames its operands, never a name. -/
theorem BinaryOp.apply_ne_undefined {op : BinaryOp} :
    op.apply left right ≠ .error (.undefinedVariable name) := by
  cases op with
  | add =>
    show addValues left right ≠ _
    unfold addValues
    split <;> nofun
  | subtract | multiply => exact arithmetic_ne_undefined
  | divide =>
    show divideValues left right ≠ _
    unfold divideValues
    split
    · split <;> nofun
    · nofun
  | equal | notEqual => nofun
  | less | lessEqual | greater | greaterEqual => exact compareValues_ne_undefined

theorem UnaryOp.apply_ne_undefined {op : UnaryOp} :
    op.apply right ≠ .error (.undefinedVariable name) := by
  cases op <;> cases right <;> nofun

end

/-! ## Tapes -/

theorem Value.Plain.made {value : Value} (plain : value.Plain) : value.Made makings := by
  cases value with
  | callable function => exact absurd rfl plain
  | _ => trivial

namespace Tape

structure Accounted (tape : Tape) : Prop where
  rooted : tape.machine.store.Rooted tape.machine.globals
  here : tape.machine.store.Has tape.machine.scope
  clock : tape.machine.store.BindsAt tape.machine.globals Native.clock.name
  issued : tape.machine.store.issued = tape.makings.length
  bound : tape.machine.store.Binds (Value.Made tape.makings)
  homes : ∀ making ∈ tape.makings, ∀ home ∈ making.action.home?, tape.machine.store.Has home
  /-- Identities are issued in order. -/
  numbered : ∀ {place : Nat} {making : Making}, tape.makings[place]? = some making →
    making.before.issued = place
  /-- When a value was made, the values bound were those made before it. -/
  existing : ∀ {place : Nat} {making : Making}, tape.makings[place]? = some making →
    making.before.Binds (Value.Made (tape.makings.take place))

/-- From one accounted tape to a later one. -/
structure Goes (before after : Tape) : Prop where
  accounted : after.Accounted
  globals : after.machine.globals = before.machine.globals
  scopes : ∀ {id}, before.machine.store.Has id → after.machine.store.Has id
  makings : before.makings <+: after.makings

variable {tape before middle after : Tape}

theorem Goes.refl (accounted : tape.Accounted) : tape.Goes tape :=
  ⟨accounted, rfl, id, List.prefix_rfl⟩

theorem Goes.trans (first : before.Goes middle) (second : middle.Goes after) :
    before.Goes after where
  accounted := second.accounted
  globals := second.globals.trans first.globals
  scopes has := second.scopes (first.scopes has)
  makings := first.makings.trans second.makings

/-- The tape with another store in its machine. -/
def withStore (tape : Tape) (store : Store) : Tape :=
  { tape with machine := { tape.machine with store } }

/-- The tape with its machine in another scope. -/
def withScope (tape : Tape) (scope : ScopeId) : Tape :=
  { tape with machine := { tape.machine with scope } }

namespace Accounted

variable (accounted : tape.Accounted)

include accounted

theorem withScope {scope : ScopeId} (has : tape.machine.store.Has scope) :
    (tape.withScope scope).Accounted :=
  { accounted with here := has }

theorem define {value : Value} (made : value.Made tape.makings) (id : ScopeId) (name : String) :
    tape.Goes (tape.withStore (tape.machine.store.define id name value)) where
  accounted :=
    { accounted with
      rooted := accounted.rooted.define id name value
      here := Store.has_define.mpr accounted.here
      clock := accounted.clock.define id name value
      bound := accounted.bound.define made id name
      homes := fun making member home known =>
        Store.has_define.mpr (accounted.homes making member home known) }
  globals := rfl
  scopes := Store.has_define.mpr
  makings := List.prefix_rfl

theorem defineAll {bindings : List (String × Value)}
    (made : ∀ binding ∈ bindings, binding.2.Made tape.makings) (id : ScopeId) :
    tape.Goes (tape.withStore (bindings.foldl
      (fun store (name, value) => store.define id name value) tape.machine.store)) := by
  induction bindings generalizing tape with
  | nil => exact .refl accounted
  | cons first rest ih =>
    rw [List.forall_mem_cons] at made
    have goes := accounted.define made.1 id first.1
    exact goes.trans (ih goes.accounted made.2)

theorem newScope {parent : ScopeId} (has : tape.machine.store.Has parent) :
    tape.Goes (tape.withStore (tape.machine.store.newScope (some parent)).2) where
  accounted :=
    { accounted with
      rooted := accounted.rooted.newScope has
      here := accounted.here.newScope _
      clock := accounted.clock.newScope _
      bound := accounted.bound.newScope _
      homes := fun making member home known =>
        (accounted.homes making member home known).newScope _ }
  globals := rfl
  scopes has := has.newScope _
  makings := List.prefix_rfl

/-- What is made next gets the next number, and all that is bound was made before it. -/
theorem newCallable {action : Action}
    (home : ∀ scope ∈ action.home?, tape.machine.store.Has scope) :
    let making : Making := ⟨tape.machine.store, action⟩
    let next : Tape := ⟨{ tape.machine with store := (tape.machine.store.newCallable action).2 },
      tape.makings ++ [making]⟩
    tape.Goes next := by
  intro making next
  have grown : tape.makings <+: next.makings := List.prefix_append _ _
  -- A place on the new tape is one on the old tape, or the last one.
  have places : ∀ {place : Nat} {other : Making}, next.makings[place]? = some other →
      tape.makings[place]? = some other ∧ next.makings.take place = tape.makings.take place ∨
        place = tape.makings.length ∧ other = making := by
    intro place other found
    rcases Nat.lt_trichotomy place tape.makings.length with earlier | last | beyond
    · rw [List.getElem?_append_left earlier] at found
      exact .inl ⟨found, List.take_append_of_le_length (Nat.le_of_lt earlier)⟩
    · subst last
      rw [List.getElem?_concat_length] at found
      exact .inr ⟨rfl, (Option.some.inj found).symm⟩
    · have outside : next.makings[place]? = none := by
        rw [List.getElem?_eq_none_iff, List.length_append]
        exact beyond
      rw [outside] at found
      cases found
  refine ⟨⟨accounted.rooted.newCallable action, accounted.here, accounted.clock,
    ?_, ?_, ?_, ?_, ?_⟩,
    rfl, id, grown⟩
  · show tape.machine.store.issued + 1 = (tape.makings ++ [making]).length
    rw [accounted.issued, List.length_append]
    rfl
  · exact accounted.bound.mono fun _ made => made.later grown
  · intro other member
    rcases List.mem_append.mp member with old | new
    · exact accounted.homes other old
    · rw [List.mem_singleton.mp new]
      exact home
  · intro place other found
    rcases places found with ⟨old, -⟩ | ⟨rfl, rfl⟩
    · exact accounted.numbered old
    · exact accounted.issued
  · intro place other found
    rcases places found with ⟨old, same⟩ | ⟨rfl, rfl⟩
    · rw [same]
      exact accounted.existing old
    · rw [List.take_left']
      · exact accounted.bound
      · rfl

end Accounted
end Tape

/-- Whatever stopped a run, it was not that the clock was not found. -/
def Halt.FindsClock (halt : Halt) : Prop :=
  ∀ token, halt ≠ .error (.blamed (.undefinedVariable Native.clock.name) token)

theorem Halt.findsClock_undefined {name : String} (other : name ≠ Native.clock.name)
    (token : Token) : Halt.FindsClock (.error (.blamed (.undefinedVariable name) token)) := by
  intro blamed same
  simp only [Halt.error.injEq, RuntimeError.blamed.injEq,
    RuntimeError.Cause.undefinedVariable.injEq] at same
  exact other same.1

theorem Halt.findsClock_outOfFuel : Halt.FindsClock .outOfFuel := by
  intro token same
  simp at same

theorem Halt.findsClock_output (failure : Sink.Failure) :
    Halt.FindsClock (.error (.output failure)) := by
  intro token same
  simp at same

namespace Recorded

variable {α β : Type} {pre : List Making → Prop}

/-- Both runs from a tape ended alike. The account is kept, and a result satisfies `post`. -/
def Agree {α : Type} (tape : Tape) (post : List Making → α → Prop)
    (recorded : EStateM.Result Halt Tape α) (plain : EStateM.Result Halt Machine α) : Prop :=
  match recorded with
  | .ok a after => plain = .ok a after.machine ∧ tape.Goes after ∧ post after.makings a
  | .error halt after => plain = .error halt after.machine ∧ tape.Goes after ∧ halt.FindsClock

/-- The recorded run and the plain run agree where `pre` holds of what was made. -/
def Accounts (pre : List Making → Prop) (record : Recorded α) (run : Run α)
    (post : List Making → α → Prop) : Prop :=
  ∀ tape : Tape, tape.Accounted → pre tape.makings →
    Agree tape post (record tape) (run tape.machine)

theorem plain_bind (run : Run α) (next : α → Run β) :
    plain (run >>= next) = plain run >>= fun a => plain (next a) := by
  funext tape
  unfold plain
  cases result : run tape.machine with
  | ok a machine =>
    rw [run_bind_ok result]
    simp only [bind, EStateM.bind, result]
  | error halt machine =>
    rw [run_bind_error result]
    simp only [bind, EStateM.bind, result]

namespace Accounts

variable {record : Recorded α} {run : Run α} {post : List Making → α → Prop}

theorem pure {a : α} (holds : ∀ makings, pre makings → post makings a) :
    Accounts pre (Pure.pure a) (Pure.pure a) post :=
  fun _ accounted known => ⟨rfl, .refl accounted, holds _ known⟩

theorem throw {halt : Halt} (finds : halt.FindsClock) :
    Accounts pre (MonadExcept.throw halt) (MonadExcept.throw halt) post :=
  fun _ accounted _ => ⟨rfl, .refl accounted, finds⟩

theorem bind {next : α → Recorded β} {nextRun : α → Run β} {last : List Making → β → Prop}
    (first : Accounts pre record run post)
    (second : ∀ a, Accounts (fun makings => post makings a) (next a) (nextRun a) last) :
    Accounts pre (record >>= next) (run >>= nextRun) last := by
  intro tape accounted known
  have start := first tape accounted known
  cases result : record tape with
  | ok a middle =>
    rw [result] at start
    obtain ⟨same, goes, holds⟩ := start
    have rest := second a middle goes.accounted holds
    rw [run_bind_ok result, run_bind_ok same]
    cases final : next a middle with
    | ok b after =>
      rw [final] at rest
      exact ⟨rest.1, goes.trans rest.2.1, rest.2.2⟩
    | error halt after =>
      rw [final] at rest
      exact ⟨rest.1, goes.trans rest.2.1, rest.2.2⟩
  | error halt middle =>
    rw [result] at start
    rw [run_bind_error result, run_bind_error start.1]
    exact ⟨rfl, start.2⟩

theorem mono {stronger : List Making → Prop} {weaker : List Making → α → Prop}
    (accounts : Accounts pre record run post)
    (before : ∀ makings, stronger makings → pre makings)
    (behind : ∀ makings a, post makings a → weaker makings a) :
    Accounts stronger record run weaker := by
  intro tape accounted known
  have ends := accounts tape accounted (before _ known)
  cases result : record tape with
  | ok a after =>
    rw [result] at ends
    exact ⟨ends.1, ends.2.1, behind _ _ ends.2.2⟩
  | error halt after =>
    rw [result] at ends
    exact ends

/-- What was made stays made. -/
theorem keep (value : Value) (accounts : Accounts pre record run post) :
    Accounts (fun makings => pre makings ∧ value.Made makings) record run
      fun makings a => post makings a ∧ value.Made makings := by
  intro tape accounted known
  have ends := accounts tape accounted known.1
  cases result : record tape with
  | ok a after =>
    rw [result] at ends
    exact ⟨ends.1, ends.2.1, ends.2.2, known.2.later ends.2.1.makings⟩
  | error halt after =>
    rw [result] at ends
    exact ends

/-! ### Steps -/

/-- A step that gives a result and makes no callable value. -/
theorem plain_ok {result : Machine → α} {next : Machine → Machine}
    (runs : ∀ machine, run machine = .ok (result machine) (next machine))
    (goes : ∀ tape : Tape, tape.Accounted → pre tape.makings →
      tape.Goes { tape with machine := next tape.machine } ∧
        post tape.makings (result tape.machine)) :
    Accounts pre (plain run) run post := by
  intro tape accounted known
  unfold plain
  rw [runs]
  exact ⟨rfl, goes tape accounted known⟩

theorem fail {cause : RuntimeError.Cause} {token : Token}
    (other : cause ≠ .undefinedVariable Native.clock.name) :
    Accounts pre (plain (Run.fail cause token)) (Run.fail cause token) post := by
  intro tape accounted known
  refine ⟨rfl, .refl accounted, ?_⟩
  intro blamed same
  cases same
  exact other rfl

theorem ofOperator {token : Token} {result : Except RuntimeError.Cause Value}
    (plain_ok : ∀ value, result = .ok value → value.Plain)
    (other : result ≠ .error (.undefinedVariable Native.clock.name)) :
    Accounts pre (plain (Run.ofOperator token result)) (Run.ofOperator token result)
      fun makings value => value.Made makings := by
  cases result with
  | ok value =>
    intro tape accounted known
    exact ⟨rfl, .refl accounted, (plain_ok value rfl).made⟩
  | error cause => exact fail fun same => other (congrArg _ same)

theorem lookup (name : Token) :
    Accounts pre (plain (Run.lookup name)) (Run.lookup name)
      fun makings value => value.Made makings := by
  intro tape accounted known
  unfold plain
  cases found : tape.machine.store.get? tape.machine.scope name.lexeme with
  | some value =>
    have run : Run.lookup name tape.machine = .ok value tape.machine := by
      rw [Run.lookup, run_bind_ok (run_get _), found]
      rfl
    rw [run]
    exact ⟨rfl, .refl accounted, accounted.bound.get? found⟩
  | none =>
    have run : Run.lookup name tape.machine =
        .error (.error (.blamed (.undefinedVariable name.lexeme) name)) tape.machine := by
      rw [Run.lookup, run_bind_ok (run_get _), found]
      rfl
    rw [run]
    refine ⟨rfl, .refl accounted, Halt.findsClock_undefined ?_ name⟩
    intro isClock
    have bound := accounted.rooted.get?_isSome accounted.clock accounted.here
    rw [← isClock, found] at bound
    cases bound

theorem define (name : String) (value : Value) :
    Accounts (fun makings => value.Made makings) (plain (Run.define name value))
      (Run.define name value) fun _ _ => True :=
  plain_ok (fun _ => rfl) fun _ accounted made => ⟨accounted.define made _ name, trivial⟩

theorem assign (name : Token) (value : Value) :
    Accounts (fun makings => value.Made makings) (plain (Run.assign name value))
      (Run.assign name value) fun _ _ => True := by
  intro tape accounted made
  unfold plain
  rw [Run.run_assign]
  cases found : tape.machine.store.holder? tape.machine.scope name.lexeme with
  | some holder => exact ⟨rfl, accounted.define made holder name.lexeme, trivial⟩
  | none =>
    refine ⟨rfl, .refl accounted, Halt.findsClock_undefined ?_ name⟩
    intro isClock
    have bound := accounted.rooted.holder?_isSome accounted.clock accounted.here
    rw [← isClock, found] at bound
    cases bound

theorem newClosure (name : Option String) (routine : Routine) :
    Accounts pre (Recorded.newClosure name routine) (Run.newClosure name routine)
      fun makings value => value.Made makings := by
  intro tape accounted _
  let making : Making := ⟨tape.machine.store, .closure name routine tape.machine.scope⟩
  have home : ∀ scope ∈ making.action.home?, tape.machine.store.Has scope := by
    rintro scope ⟨⟩
    exact accounted.here
  exact ⟨rfl, accounted.newCallable home, making, List.mem_append_right _ List.mem_cons_self, rfl⟩

/-- A step that leaves the store and the scopes alone. -/
theorem aside {result : Machine → α} {next : Machine → Machine}
    (runs : ∀ machine, run machine = .ok (result machine) (next machine))
    (same : ∀ machine, (next machine).store = machine.store ∧
      (next machine).globals = machine.globals ∧ (next machine).scope = machine.scope)
    (holds : ∀ makings machine, pre makings → post makings (result machine)) :
    Accounts pre (plain run) run post := by
  refine plain_ok runs fun tape accounted known => ⟨?_, holds _ _ known⟩
  obtain ⟨store, globals, scope⟩ := same tape.machine
  obtain ⟨rooted, here, clock, issued, bound, homes, numbered, existing⟩ := accounted
  refine ⟨⟨?_, ?_, ?_, ?_, ?_, ?_, numbered, existing⟩, globals, ?_, List.prefix_rfl⟩
  all_goals simp only [store, globals, scope]
  · exact rooted
  · exact here
  · exact clock
  · exact issued
  · exact bound
  · exact homes
  · exact id

theorem print (value : Value) :
    Accounts pre (plain (Run.print value)) (Run.print value) fun _ _ => True := by
  unfold Run.print
  rw [plain_bind]
  let write : Run Bool := modifyGet fun machine =>
    ((machine.sink.write (value.text ++ "\n")).1,
      { machine with sink := (machine.sink.write (value.text ++ "\n")).2 })
  have written : Accounts pre (plain write) write fun _ _ => True :=
    aside (fun _ => rfl) (fun _ => ⟨rfl, rfl, rfl⟩) fun _ _ _ => trivial
  refine written.bind fun complete => ?_
  cases complete with
  | true => exact pure fun _ _ => trivial
  | false => exact throw (Halt.findsClock_output .full)

theorem flush : Accounts pre (plain Run.flush) Run.flush fun _ _ => True := by
  intro tape accounted _
  unfold plain Run.flush
  rw [run_bind_ok (run_get _)]
  cases tape.machine.sink.flushes with
  | true => exact ⟨rfl, .refl accounted, trivial⟩
  | false => exact ⟨rfl, .refl accounted, Halt.findsClock_output .flush⟩

theorem readClock :
    Accounts pre (plain Run.readClock) Run.readClock fun makings value => value.Made makings :=
  aside (fun _ => rfl) (fun _ => ⟨rfl, rfl, rfl⟩) fun _ _ _ => trivial

/-- A run in a new scope comes back to the scope in which the tape was. -/
theorem inNewScope {parent : ScopeId} {bindings : List (String × Value)} {tape : Tape}
    (accounts : Accounts (fun _ => True) record run post) (accounted : tape.Accounted)
    (has : tape.machine.store.Has parent)
    (made : ∀ binding ∈ bindings, binding.2.Made tape.makings) :
    Agree tape post
      ((do let inner ← plain (Run.newScope parent bindings); Recorded.inScope inner record) tape)
      ((do let inner ← Run.newScope parent bindings; Run.inScope inner run) tape.machine) := by
  let inner := (tape.machine.store.newScope (some parent)).1
  let store := bindings.foldl (fun store (name, value) => store.define inner name value)
    (tape.machine.store.newScope (some parent)).2
  have opened := accounted.newScope has
  have filled : tape.Goes (tape.withStore store) :=
    opened.trans (opened.accounted.defineAll made inner)
  have inside : store.Has inner :=
    (Store.has_defineAll bindings).mpr (Store.has_newScope_self (some parent))
  have recorded : plain (Run.newScope parent bindings) tape = .ok inner (tape.withStore store) :=
    rfl
  have ran : Run.newScope parent bindings tape.machine =
      .ok inner { tape.machine with store } := rfl
  -- Whatever happens inside, the scope of the tape is still there.
  have back : ∀ after : Tape, ((tape.withStore store).withScope inner).Goes after →
      tape.Goes (after.withScope tape.machine.scope) := by
    intro after goes
    exact ⟨goes.accounted.withScope (goes.scopes (filled.scopes accounted.here)), goes.globals,
      fun known => goes.scopes (filled.scopes known), filled.makings.trans goes.makings⟩
  have ends := accounts _ (filled.accounted.withScope inside) trivial
  rw [run_bind_ok recorded, run_bind_ok ran]
  unfold Recorded.inScope Run.inScope
  cases result : record ((tape.withStore store).withScope inner) with
  | ok a after =>
    rw [result] at ends
    simp only [Tape.withStore, Tape.withScope] at result ends ⊢
    rw [result, ends.1]
    exact ⟨rfl, back after ends.2.1, ends.2.2⟩
  | error halt after =>
    rw [result] at ends
    simp only [Tape.withStore, Tape.withScope] at result ends ⊢
    rw [result, ends.1]
    exact ⟨rfl, back after ends.2.1, ends.2.2⟩

end Accounts

/-! ## Expressions and statements -/

/-- What is known of the functions that run a program, with some fuel. -/
structure Accounting (fuel : Nat) : Prop where
  evaluate : ∀ expr, Accounts (fun _ => True) (observer.evaluate fuel expr) (Run.evaluate fuel expr)
    fun makings value => value.Made makings
  evaluateAll : ∀ exprs, Accounts (fun _ => True) (observer.evaluateAll fuel exprs)
    (Run.evaluateAll fuel exprs) fun makings values => ∀ value ∈ values, value.Made makings
  invoke : ∀ callable arguments,
    Accounts
      (fun makings => (Value.callable callable).Made makings ∧
        ∀ value ∈ arguments, value.Made makings)
      (observer.invoke fuel callable arguments) (Run.invoke fuel callable arguments)
      fun makings value => value.Made makings
  execute : ∀ stmt, Accounts (fun _ => True) (observer.execute fuel stmt) (Run.execute fuel stmt)
    fun makings completion => completion.Made makings
  evaluateOr : ∀ expr?, Accounts (fun _ => True) (observer.evaluateOr fuel expr?)
    (Run.evaluateOr fuel expr?) fun makings value => value.Made makings
  executeAll : ∀ stmts, Accounts (fun _ => True) (observer.executeAll fuel stmts)
    (Run.executeAll fuel stmts) fun makings completion => completion.Made makings
  executeLoop : ∀ condition body increment,
    Accounts (fun _ => True) (observer.executeLoop fuel condition body increment)
      (Run.executeLoop fuel condition body increment)
      fun makings completion => completion.Made makings

section

variable {fuel : Nat} (accounting : Accounting fuel)

include accounting

/-- The fuel of a part is enough whatever is known of what was made. -/
theorem Accounting.evaluate_any {pre : List Making → Prop} (expr : Expr) :
    Accounts pre (observer.evaluate fuel expr) (Run.evaluate fuel expr)
      fun makings value => value.Made makings :=
  (accounting.evaluate expr).mono (fun _ _ => trivial) fun _ _ => id

theorem accounts_evaluate (expr : Expr) :
    Accounts (fun _ => True) (observer.evaluate (fuel + 1) expr) (Run.evaluate (fuel + 1) expr)
      fun makings value => value.Made makings := by
  cases expr with
  | literal value => exact .pure fun _ _ => (Value.plain_ofLiteral value).made
  | var name => exact .lookup name
  | assign name value =>
    refine (accounting.evaluate value).bind fun value => ?_
    have assigned := ((Accounts.assign name value).keep value).mono (fun _ made => ⟨made, made⟩)
      fun _ _ => And.right
    exact assigned.bind fun _ => .pure fun _ => id
  | unary op operator operand =>
    refine (accounting.evaluate operand).bind fun operand => .ofOperator ?_ ?_
    · exact fun _ => UnaryOp.plain_apply
    · exact UnaryOp.apply_ne_undefined
  | binary op operator left right =>
    refine (accounting.evaluate left).bind fun left => ?_
    refine (accounting.evaluate_any right).bind fun right => .ofOperator ?_ ?_
    · exact fun _ => BinaryOp.plain_apply
    · exact BinaryOp.apply_ne_undefined
  | logical op operator left right =>
    refine (accounting.evaluate left).bind fun left => ?_
    split
    · exact .pure fun _ => id
    · exact accounting.evaluate_any right
  | comma operator left right =>
    exact (accounting.evaluate left).bind fun _ => accounting.evaluate_any right
  | conditional condition yes no =>
    refine (accounting.evaluate condition).bind fun tested => ?_
    split
    · exact accounting.evaluate_any yes
    · exact accounting.evaluate_any no
  | grouping inner => exact accounting.evaluate inner
  | call callee paren arguments =>
    refine (accounting.evaluate callee).bind fun function => ?_
    have given := ((accounting.evaluateAll arguments).keep function).mono
      (fun _ made => ⟨trivial, made⟩) fun _ _ => id
    refine given.bind fun values => ?_
    cases function with
    | callable callable =>
      simp only
      split
      · exact (accounting.invoke callable values).mono (fun _ => And.symm) fun _ _ => id
      · exact .fail (by simp)
    | _ => exact .fail (by simp)
  | lambda routine => exact .newClosure none routine
  | get object name => exact .fail (by simp)
  | set object name value => exact .fail (by simp)
  | self keyword => exact .fail (by simp)
  | super keyword method => exact .fail (by simp)

theorem accounts_evaluateAll (exprs : List Expr) :
    Accounts (fun _ => True) (observer.evaluateAll (fuel + 1) exprs)
      (Run.evaluateAll (fuel + 1) exprs)
      fun makings values => ∀ value ∈ values, value.Made makings := by
  cases exprs with
  | nil => exact .pure fun _ _ _ absurd => nomatch absurd
  | cons expr rest =>
    refine (accounting.evaluate expr).bind fun value => ?_
    have others := ((accounting.evaluateAll rest).keep value).mono
      (fun _ made => ⟨trivial, made⟩) fun _ _ => id
    exact others.bind fun values => .pure fun _ made =>
      List.forall_mem_cons.mpr ⟨made.2, made.1⟩

theorem accounts_invoke (callable : Callable) (arguments : List Value) :
    Accounts
      (fun makings => (Value.callable callable).Made makings ∧
        ∀ value ∈ arguments, value.Made makings)
      (observer.invoke (fuel + 1) callable arguments) (Run.invoke (fuel + 1) callable arguments)
      fun makings value => value.Made makings := by
  obtain ⟨identity, action⟩ := callable
  cases action with
  | native native arity =>
    cases native
    exact .readClock
  | closure name routine home =>
    -- The home of the function was there when it was made, and still is.
    have body : Accounts
        (fun makings => (Value.callable ⟨identity, .closure name routine home⟩).Made makings ∧
          ∀ value ∈ arguments, value.Made makings)
        (do
          let inner ← plain (Run.newScope home ((routine.params.map (·.lexeme)).zip arguments))
          inScope inner (observer.executeAll fuel routine.body))
        (do
          let inner ← Run.newScope home ((routine.params.map (·.lexeme)).zip arguments)
          Run.inScope inner (Run.executeAll fuel routine.body))
        fun makings completion => completion.Made makings := by
      rintro tape accounted ⟨⟨making, member, same⟩, given⟩
      have isHome : home ∈ making.action.home? := by
        have action : making.action = .closure name routine home := congrArg Callable.action same
        rw [action]
        rfl
      apply (accounting.executeAll routine.body).inNewScope accounted
      · exact accounted.homes making member home isHome
      · exact fun binding bound => given _ (List.of_mem_zip bound).2
    simp only [Run.invoke, Run.Observer.invoke]
    rw [← bind_assoc, ← bind_assoc]
    refine body.bind fun completion => ?_
    cases completion with
    | returned value => exact .pure fun _ => id
    | _ => exact .pure fun _ _ => trivial

theorem accounts_execute (stmt : Stmt) :
    Accounts (fun _ => True) (observer.execute (fuel + 1) stmt) (Run.execute (fuel + 1) stmt)
      fun makings completion => completion.Made makings := by
  cases stmt with
  | expression value =>
    exact (accounting.evaluate value).bind fun _ => .pure fun _ _ => trivial
  | print value =>
    exact (accounting.evaluate value).bind fun value =>
      (Accounts.print value).bind fun _ => .pure fun _ _ => trivial
  | define name initializer =>
    exact (accounting.evaluateOr initializer).bind fun value =>
      (Accounts.define name.lexeme value).bind fun _ => .pure fun _ _ => trivial
  | block body =>
    intro tape accounted _
    exact (accounting.executeAll body).inNewScope accounted accounted.here (List.forall_mem_nil _)
  | branch condition yes no =>
    refine (accounting.evaluate condition).bind fun tested => ?_
    split
    · exact (accounting.execute yes).mono (fun _ _ => trivial) fun _ _ => id
    · cases no with
      | some no => exact (accounting.execute no).mono (fun _ _ => trivial) fun _ _ => id
      | none => exact .pure fun _ _ => trivial
  | loop condition body increment => exact accounting.executeLoop condition body increment
  | breakLoop keyword => exact .pure fun _ _ => trivial
  | continueLoop keyword => exact .pure fun _ _ => trivial
  | function name routine =>
    exact (Accounts.newClosure (some name.lexeme) routine).bind fun value =>
      (Accounts.define name.lexeme value).bind fun _ => .pure fun _ _ => trivial
  | giveBack keyword value =>
    exact (accounting.evaluateOr value).bind fun _ => .pure fun _ => id
  | classDecl name superclass methods => exact .fail (by simp)

theorem accounts_evaluateOr (expr? : Option Expr) :
    Accounts (fun _ => True) (observer.evaluateOr (fuel + 1) expr?)
      (Run.evaluateOr (fuel + 1) expr?)
      fun makings value => value.Made makings := by
  cases expr? with
  | none => exact .pure fun _ _ => trivial
  | some expr => exact accounting.evaluate expr

theorem accounts_executeAll (stmts : List Stmt) :
    Accounts (fun _ => True) (observer.executeAll (fuel + 1) stmts)
      (Run.executeAll (fuel + 1) stmts)
      fun makings completion => completion.Made makings := by
  cases stmts with
  | nil => exact .pure fun _ _ => trivial
  | cons stmt rest =>
    refine (accounting.execute stmt).bind fun completion => ?_
    cases completion with
    | normal => exact (accounting.executeAll rest).mono (fun _ _ => trivial) fun _ _ => id
    | _ => exact .pure fun _ => id

theorem accounts_executeLoop (condition : Expr) (body : Stmt) (increment : Option Expr) :
    Accounts (fun _ => True) (observer.executeLoop (fuel + 1) condition body increment)
      (Run.executeLoop (fuel + 1) condition body increment)
      fun makings completion => completion.Made makings := by
  have again : ∀ {pre : List Making → Prop}, Accounts pre
      (do
        let _ ← observer.evaluateOr fuel increment
        observer.executeLoop fuel condition body increment)
      (do
        let _ ← Run.evaluateOr fuel increment
        Run.executeLoop fuel condition body increment)
      fun makings completion => completion.Made makings := by
    intro pre
    refine ((accounting.evaluateOr increment).mono (fun _ _ => trivial) fun _ _ => id).bind ?_
    exact fun _ => (accounting.executeLoop condition body increment).mono (fun _ _ => trivial)
      fun _ _ => id
  refine (accounting.evaluate condition).bind fun tested => ?_
  split
  · refine ((accounting.execute body).mono (fun _ _ => trivial) fun _ _ => id).bind ?_
    intro completion
    cases completion with
    | broke => exact .pure fun _ _ => trivial
    | returned value => exact .pure fun _ => id
    | normal => exact again
    | continued => exact again
  · exact .pure fun _ _ => trivial

end

/-- The induction over the fuel. -/
theorem accounting (fuel : Nat) : Accounting fuel := by
  induction fuel with
  | zero => constructor <;> intros <;> exact .throw Halt.findsClock_outOfFuel
  | succ fuel ih =>
    exact {
      evaluate := accounts_evaluate ih
      evaluateAll := accounts_evaluateAll ih
      invoke := accounts_invoke ih
      execute := accounts_execute ih
      evaluateOr := accounts_evaluateOr ih
      executeAll := accounts_executeAll ih
      executeLoop := accounts_executeLoop ih }

/-! ## Programs -/

theorem accounts_executeTop (echo : Bool) (fuel : Nat) (stmt : Stmt) :
    Accounts (fun _ => True) (observer.executeTop echo fuel stmt) (Run.executeTop echo fuel stmt)
      fun _ _ => True := by
  have plainly : Accounts (fun _ => True) (discard (observer.execute fuel stmt))
      (discard (Run.execute fuel stmt)) fun _ _ => True := by
    rw [discard_eq_bind, discard_eq_bind]
    exact ((accounting fuel).execute stmt).bind fun _ => .pure fun _ _ => trivial
  cases echo with
  | false => exact plainly
  | true =>
    cases stmt with
    | expression value =>
      exact ((accounting fuel).evaluate value).bind fun value => .print value
    | _ => exact plainly

theorem accounts_forM (echo : Bool) (fuel : Nat) (program : List Stmt) :
    Accounts (fun _ => True) (program.forM (observer.executeTop echo fuel))
      (program.forM (Run.executeTop echo fuel)) fun _ _ => True := by
  induction program with
  | nil => exact .pure fun _ _ => trivial
  | cons stmt rest ih => exact (accounts_executeTop echo fuel stmt).bind fun _ => ih

theorem accounts_runProgram (echo : Bool) (fuel : Nat) (program : List Stmt) :
    Accounts (fun _ => True) (observer.runProgram echo fuel program)
      (Run.runProgram echo fuel program)
      fun _ _ => True := by
  have outside : Accounts (fun _ => True)
      (plain (modify fun machine => { machine with scope := machine.globals }))
      (modify fun machine => { machine with scope := machine.globals }) fun _ _ => True := by
    refine .plain_ok (fun _ => rfl) fun tape accounted _ => ⟨?_, trivial⟩
    obtain ⟨scope, found, -⟩ := accounted.clock
    exact ⟨accounted.withScope (Store.has_of_scope? found), rfl, id, List.prefix_rfl⟩
  refine outside.bind fun _ => (accounts_forM echo fuel program).bind fun _ => .flush

end Recorded
end Lox
