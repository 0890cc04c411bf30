import Lox.Proofs.Program.Assigned
import Lox.Proofs.Run.Variable
import Lox.Proofs.Value.Carries
import Lox.Proofs.Value.Frame
import Lox.Run.Evaluate

/-!
# What a run leaves as it was

However a run ends, the machine is back in the scope in which it started, and all scopes that were
there before are still there, with their parents and names. An expression, a block and a call add
no name to them; other statements add names to the current scope only. A name to which nothing
assigns keeps its value wherever it was bound, except that a declaration may bind it anew in the
current scope.

One induction over the fuel shows all of this. The names `fixed` are those to which nothing assigns;
there may be none of them.
-/

namespace Lox

/-- None of the names is fixed. -/
def Spares (fixed : String → Prop) (names : List String) : Prop :=
  ∀ name ∈ names, ¬ fixed name

theorem spares_cons {fixed : String → Prop} {name : String} {names : List String} :
    Spares fixed (name :: names) ↔ ¬ fixed name ∧ Spares fixed names :=
  List.forall_mem_cons

theorem spares_append {fixed : String → Prop} {names more : List String} :
    Spares fixed (names ++ more) ↔ Spares fixed names ∧ Spares fixed more :=
  List.forall_mem_append

def Routine.Spares (fixed : String → Prop) (routine : Routine) : Prop :=
  Lox.Spares fixed routine.assigned

def Completion.Spares (fixed : String → Prop) : Completion → Prop
  | returned value => value.Carries (Routine.Spares fixed)
  | _ => True

/-- What is left of a machine behind a run. If `grows`, the current scope may have got more
names. -/
structure Machine.Kept (fixed : String → Prop) (grows : Bool) (before after : Machine) : Prop where
  scope : after.scope = before.scope
  globals : after.globals = before.globals
  sinkFlushes : after.sink.flushes = before.sink.flushes
  store : before.store.Kept fixed (if grows then some before.scope else none) after.store
  carries : after.store.Carries (Routine.Spares fixed)

namespace Machine.Kept

variable {fixed : String → Prop} {grows : Bool} {before middle after machine : Machine}

theorem refl (carries : machine.store.Carries (Routine.Spares fixed)) :
    machine.Kept fixed grows machine :=
  ⟨rfl, rfl, rfl, .refl _, carries⟩

theorem trans (first : before.Kept fixed grows middle) (second : middle.Kept fixed grows after) :
    before.Kept fixed grows after where
  scope := second.scope.trans first.scope
  globals := second.globals.trans first.globals
  sinkFlushes := second.sinkFlushes.trans first.sinkFlushes
  store := first.store.trans (first.scope ▸ second.store)
  carries := second.carries

theorem weaken (kept : before.Kept fixed false after) (grows : Bool) :
    before.Kept fixed grows after :=
  { kept with store := kept.store.weaken _ }

end Machine.Kept

namespace Run

variable {α β : Type} {fixed : String → Prop} {grows : Bool}

/-- The machine behind a run, however it ended. -/
def left : EStateM.Result Halt Machine α → Machine
  | .ok _ machine | .error _ machine => machine

/-- A run keeps the machine, and gives a result that satisfies `post` if it gives one. -/
def Keeps (fixed : String → Prop) (grows : Bool) (run : Run α) (post : α → Prop) : Prop :=
  ∀ machine, machine.store.Carries (Routine.Spares fixed) →
    machine.Kept fixed grows (left (run machine)) ∧
      ∀ a after, run machine = .ok a after → post a

/-! ## Steps -/

theorem flush_of_flushes {machine : Machine} (flushes : machine.sink.flushes = true) :
    flush machine = .ok () machine := by
  unfold flush
  rw [run_bind_ok (run_get machine), flushes]
  rfl

namespace Keeps

/-- A run that gives a result. -/
theorem of_ok {run : Run α} {post : α → Prop} {result : Machine → α} {next : Machine → Machine}
    (runs : ∀ machine, run machine = .ok (result machine) (next machine))
    (keeps : ∀ machine, machine.store.Carries (Routine.Spares fixed) →
      machine.Kept fixed grows (next machine) ∧ post (result machine)) :
    Keeps fixed grows run post := by
  intro machine carries
  rw [runs]
  refine ⟨(keeps machine carries).1, ?_⟩
  intro a after same
  cases same
  exact (keeps machine carries).2

theorem pure {post : α → Prop} {a : α} (holds : post a) :
    Keeps fixed grows (Pure.pure a : Run α) post :=
  of_ok (fun _ => rfl) fun _ carries => ⟨.refl carries, holds⟩

/-- A run that only stops. -/
theorem throw {post : α → Prop} (halt : Halt) :
    Keeps fixed grows (MonadExcept.throw halt : Run α) post :=
  fun _ carries => ⟨.refl carries, fun _ _ absurd => nomatch absurd⟩

theorem bind {run : Run α} {next : α → Run β} {middle : α → Prop} {post : β → Prop}
    (first : Keeps fixed grows run middle)
    (second : ∀ a, middle a → Keeps fixed grows (next a) post) :
    Keeps fixed grows (run >>= next) post := by
  intro machine carries
  obtain ⟨kept, holds⟩ := first machine carries
  cases result : run machine with
  | ok a after =>
    rw [result] at kept
    rw [run_bind_ok result]
    obtain ⟨keptOn, holdsOn⟩ := second a (holds a after result) after kept.carries
    exact ⟨kept.trans keptOn, holdsOn⟩
  | error halt after =>
    rw [result] at kept
    rw [run_bind_error result]
    exact ⟨kept, fun _ _ absurd => nomatch absurd⟩

theorem weaken {run : Run α} {post : α → Prop} (keeps : Keeps fixed false run post)
    (grows : Bool) : Keeps fixed grows run post := by
  intro machine carries
  obtain ⟨kept, holds⟩ := keeps machine carries
  exact ⟨kept.weaken grows, holds⟩

theorem ofOperator {token : Token} {result : Except RuntimeError.Cause α} {post : α → Prop}
    (holds : ∀ a, result = .ok a → post a) :
    Keeps fixed grows (Run.ofOperator token result) post := by
  cases result with
  | ok a => exact pure (holds a rfl)
  | error cause => exact throw _

theorem lookup (name : Token) :
    Keeps fixed grows (Run.lookup name) (Value.Carries (Routine.Spares fixed)) := by
  intro machine carries
  rw [run_lookup]
  cases found : machine.store.get? machine.scope name.lexeme with
  | some value => exact pure (carries.get? found) machine carries
  | none => exact throw _ machine carries

theorem define {value : Value} (bound : value.Carries (Routine.Spares fixed)) (name : String) :
    Keeps fixed true (Run.define name value) fun _ => True := by
  refine of_ok (fun _ => rfl) fun machine carries => ⟨?_, trivial⟩
  exact ⟨rfl, rfl, rfl, Store.kept_define _ _ _ _, carries.define bound _ _⟩

theorem assign {name : Token} {value : Value} (free : ¬ fixed name.lexeme)
    (bound : value.Carries (Routine.Spares fixed)) :
    Keeps fixed grows (Run.assign name value) fun _ => True := by
  intro machine carries
  rw [run_assign]
  cases holds : machine.store.holder? machine.scope name.lexeme with
  | none => exact throw _ machine carries
  | some holder =>
    obtain ⟨scope, there, binds⟩ := Store.holderFor?_bound holds
    have kept := Store.kept_define_of_bound there binds free value
    refine ⟨⟨rfl, rfl, rfl, kept.weaken _, carries.define bound _ _⟩, fun _ _ _ => trivial⟩

theorem newClosure {routine : Routine} (spares : routine.Spares fixed) (name : Option String) :
    Keeps fixed grows (Run.newClosure name routine) (Value.Carries (Routine.Spares fixed)) :=
  of_ok (fun _ => rfl) fun _ carries => ⟨⟨rfl, rfl, rfl, .refl _, carries⟩, spares⟩

theorem print (value : Value) : Keeps fixed grows (Run.print value) fun _ => True := by
  unfold Run.print
  refine bind (of_ok (fun _ => rfl) fun _ carries => ⟨?_, trivial⟩) fun complete (_ : True) => ?_
  · exact ⟨rfl, rfl, rfl, .refl _, carries⟩
  · cases complete with
    | true => exact pure trivial
    | false => exact throw _

theorem flush : Keeps fixed grows Run.flush fun _ => True := by
  intro machine carries
  rw [Run.flush, run_bind_ok (run_get machine)]
  cases machine.sink.flushes with
  | true => exact pure trivial machine carries
  | false => exact throw _ machine carries

theorem readClock : Keeps fixed grows Run.readClock (Value.Carries (Routine.Spares fixed)) :=
  of_ok (fun _ => rfl) fun _ carries => ⟨⟨rfl, rfl, rfl, .refl _, carries⟩, trivial⟩

/-- A run in a new scope may bind names there. No scope that was there before gets any. -/
theorem inNewScope {run : Run α} {post : α → Prop} (keeps : Keeps fixed true run post)
    (parent : ScopeId) {bindings : List (String × Value)}
    (bound : ∀ binding ∈ bindings, binding.2.Carries (Routine.Spares fixed)) :
    Keeps fixed false (do let inner ← Run.newScope parent bindings; inScope inner run) post := by
  intro machine carries
  let inner := (machine.store.newScope (some parent)).1
  let store := bindings.foldl (fun store binding => store.define inner binding.1 binding.2)
    (machine.store.newScope (some parent)).2
  have made : Run.newScope parent bindings machine = .ok inner { machine with store } := rfl
  have opened : machine.store.Kept fixed none store :=
    (Store.kept_newScope _ _).trans_new (Store.kept_defineAll _ inner bindings)
      (Store.scope?_newScope_self _ _)
  have carriesOn : store.Carries (Routine.Spares fixed) :=
    (carries.newScope (some parent)).defineAll bound inner
  obtain ⟨kept, holds⟩ := keeps { machine with store, scope := inner } carriesOn
  have frame : machine.store.Kept fixed none
      (left (run { machine with store, scope := inner })).store :=
    opened.trans_new kept.store (Store.scope?_newScope_self _ (some parent))
  rw [run_bind_ok made, inScope]
  cases result : run { machine with store, scope := inner } with
  | ok a after =>
    rw [result] at kept frame
    refine ⟨⟨rfl, kept.globals, kept.sinkFlushes, frame, kept.carries⟩, ?_⟩
    intro b last same
    cases same
    exact holds a after result
  | error halt after =>
    rw [result] at kept frame
    refine ⟨⟨rfl, kept.globals, kept.sinkFlushes, frame, kept.carries⟩, ?_⟩
    exact fun _ _ absurd => nomatch absurd

end Keeps

/-! ## Expressions and statements -/

/-- What the functions that run a program keep with some fuel. -/
structure Keeping (fixed : String → Prop) (fuel : Nat) : Prop where
  evaluate : ∀ {expr : Expr}, Spares fixed expr.assigned →
    Keeps fixed false (evaluate fuel expr) (Value.Carries (Routine.Spares fixed))
  evaluateAll : ∀ {exprs : List Expr}, Spares fixed (Expr.assignedAll exprs) →
    Keeps fixed false (evaluateAll fuel exprs)
      fun values => ∀ value ∈ values, value.Carries (Routine.Spares fixed)
  invoke : ∀ {callable : Callable} {arguments : List Value},
    callable.action.Carries (Routine.Spares fixed) →
    (∀ value ∈ arguments, value.Carries (Routine.Spares fixed)) →
    Keeps fixed false (invoke fuel callable arguments) (Value.Carries (Routine.Spares fixed))
  execute : ∀ {stmt : Stmt}, Spares fixed stmt.assigned →
    Keeps fixed true (execute fuel stmt) (Completion.Spares fixed)
  evaluateOr : ∀ {expr? : Option Expr}, Spares fixed (Expr.assignedOr expr?) →
    Keeps fixed false (evaluateOr fuel expr?) (Value.Carries (Routine.Spares fixed))
  executeAll : ∀ {stmts : List Stmt}, Spares fixed (Stmt.assignedAll stmts) →
    Keeps fixed true (executeAll fuel stmts) (Completion.Spares fixed)
  executeLoop : ∀ {condition : Expr} {body : Stmt} {increment : Option Expr},
    Spares fixed condition.assigned → Spares fixed body.assigned →
    Spares fixed (Expr.assignedOr increment) →
    Keeps fixed true (executeLoop fuel condition body increment) (Completion.Spares fixed)

section

variable {fuel : Nat} (keeping : Keeping fixed fuel)

include keeping

theorem keeps_evaluate {expr : Expr} (spares : Spares fixed expr.assigned) :
    Keeps fixed false (evaluate (fuel + 1) expr) (Value.Carries (Routine.Spares fixed)) := by
  cases expr with
  | literal value => exact .pure (Value.carries_ofLiteral value)
  | var name => exact .lookup name
  | assign name value =>
    obtain ⟨free, inner⟩ := spares_cons.mp spares
    exact (keeping.evaluate inner).bind fun value bound =>
      (Keeps.assign free bound).bind fun _ _ => .pure bound
  | unary op operator operand =>
    have inner : Spares fixed operand.assigned := spares
    exact (keeping.evaluate inner).bind fun _ _ => .ofOperator fun _ => UnaryOp.carries_apply
  | binary op operator left right =>
    obtain ⟨first, second⟩ := spares_append.mp spares
    exact (keeping.evaluate first).bind fun _ _ => (keeping.evaluate second).bind fun _ _ =>
      .ofOperator fun _ => BinaryOp.carries_apply
  | logical op operator left right =>
    obtain ⟨first, second⟩ := spares_append.mp spares
    refine (keeping.evaluate first).bind fun value carries => ?_
    split
    · exact .pure carries
    · exact keeping.evaluate second
  | comma operator left right =>
    obtain ⟨first, second⟩ := spares_append.mp spares
    exact (keeping.evaluate first).bind fun _ _ => keeping.evaluate second
  | conditional condition yes no =>
    obtain ⟨tested, branches⟩ := spares_append.mp spares
    obtain ⟨chosen, other⟩ := spares_append.mp branches
    refine (keeping.evaluate tested).bind fun value _ => ?_
    split
    · exact keeping.evaluate chosen
    · exact keeping.evaluate other
  | grouping inner =>
    have grouped : Spares fixed inner.assigned := spares
    exact keeping.evaluate grouped
  | call callee paren arguments =>
    obtain ⟨called, given⟩ := spares_append.mp spares
    refine (keeping.evaluate called).bind fun function carries => ?_
    refine (keeping.evaluateAll given).bind fun values carried => ?_
    cases function with
    | callable callable =>
      simp only
      split
      · exact keeping.invoke carries carried
      · exact .throw _
    | _ => exact .throw _
  | lambda routine => exact .newClosure spares none
  | get object name => exact .throw _
  | set object name value => exact .throw _
  | self keyword => exact .throw _
  | super keyword method => exact .throw _

theorem keeps_evaluateAll {exprs : List Expr} (spares : Spares fixed (Expr.assignedAll exprs)) :
    Keeps fixed false (evaluateAll (fuel + 1) exprs)
      fun values => ∀ value ∈ values, value.Carries (Routine.Spares fixed) := by
  cases exprs with
  | nil => exact .pure fun _ absurd => nomatch absurd
  | cons expr rest =>
    obtain ⟨first, others⟩ := spares_append.mp spares
    exact (keeping.evaluate first).bind fun value carries =>
      (keeping.evaluateAll others).bind fun values carried =>
        .pure (List.forall_mem_cons.mpr ⟨carries, carried⟩)

theorem keeps_evaluateOr {expr? : Option Expr} (spares : Spares fixed (Expr.assignedOr expr?)) :
    Keeps fixed false (evaluateOr (fuel + 1) expr?) (Value.Carries (Routine.Spares fixed)) := by
  cases expr? with
  | none => exact .pure trivial
  | some expr => exact keeping.evaluate spares

theorem keeps_invoke {callable : Callable} {arguments : List Value}
    (function : callable.action.Carries (Routine.Spares fixed))
    (given : ∀ value ∈ arguments, value.Carries (Routine.Spares fixed)) :
    Keeps fixed false (invoke (fuel + 1) callable arguments)
      (Value.Carries (Routine.Spares fixed)) := by
  obtain ⟨identity, action⟩ := callable
  cases action with
  | native native arity =>
    cases native
    exact .readClock
  | closure name routine scope =>
    obtain ⟨params, body⟩ := routine
    have does : Spares fixed (Stmt.assignedAll body) := function
    have bound : ∀ binding ∈ (params.map (·.lexeme)).zip arguments,
        binding.2.Carries (Routine.Spares fixed) :=
      fun binding member => given _ (List.of_mem_zip member).2
    have ran := (keeping.executeAll does).inNewScope scope bound
    simp only [invoke, Observer.invoke]
    rw [← bind_assoc]
    refine ran.bind fun completion spares => ?_
    cases completion with
    | returned value => exact .pure spares
    | _ => exact .pure trivial

theorem keeps_block {body : List Stmt} (spares : Spares fixed (Stmt.assignedAll body)) :
    Keeps fixed false (execute (fuel + 1) (.block body)) (Completion.Spares fixed) := by
  intro machine carries
  exact (keeping.executeAll spares).inNewScope machine.scope (List.forall_mem_nil _) machine carries

theorem keeps_execute {stmt : Stmt} (spares : Spares fixed stmt.assigned) :
    Keeps fixed true (execute (fuel + 1) stmt) (Completion.Spares fixed) := by
  cases stmt with
  | expression value =>
    have inner : Spares fixed value.assigned := spares
    exact ((keeping.evaluate inner).weaken true).bind fun _ _ => .pure trivial
  | print value =>
    have inner : Spares fixed value.assigned := spares
    exact ((keeping.evaluate inner).weaken true).bind fun value _ =>
      (Keeps.print value).bind fun _ _ => .pure trivial
  | define name initializer =>
    have inner : Spares fixed (Expr.assignedOr initializer) := spares
    exact ((keeping.evaluateOr inner).weaken true).bind fun _ bound =>
      (Keeps.define bound name.lexeme).bind fun _ _ => .pure trivial
  | block body => exact (keeps_block keeping spares).weaken true
  | branch condition yes no =>
    obtain ⟨tested, branches⟩ := spares_append.mp spares
    obtain ⟨chosen, other⟩ := spares_append.mp branches
    refine ((keeping.evaluate tested).weaken true).bind fun value _ => ?_
    split
    · exact keeping.execute chosen
    · cases no with
      | some no => exact keeping.execute other
      | none => exact .pure trivial
  | loop condition body increment =>
    obtain ⟨tested, inside⟩ := spares_append.mp spares
    obtain ⟨repeated, advances⟩ := spares_append.mp inside
    exact keeping.executeLoop tested repeated advances
  | breakLoop keyword => exact .pure trivial
  | continueLoop keyword => exact .pure trivial
  | function name routine =>
    exact (Keeps.newClosure spares _).bind fun _ bound =>
      (Keeps.define bound name.lexeme).bind fun _ _ => .pure trivial
  | giveBack keyword value =>
    have inner : Spares fixed (Expr.assignedOr value) := spares
    exact ((keeping.evaluateOr inner).weaken true).bind fun _ carries => .pure carries
  | classDecl name superclass methods => exact .throw _

theorem keeps_executeAll {stmts : List Stmt} (spares : Spares fixed (Stmt.assignedAll stmts)) :
    Keeps fixed true (executeAll (fuel + 1) stmts) (Completion.Spares fixed) := by
  cases stmts with
  | nil => exact .pure trivial
  | cons stmt rest =>
    obtain ⟨first, others⟩ := spares_append.mp spares
    refine (keeping.execute first).bind fun completion carries => ?_
    cases completion with
    | normal => exact keeping.executeAll others
    | _ => exact .pure carries

theorem keeps_executeLoop {condition : Expr} {body : Stmt} {increment : Option Expr}
    (tested : Spares fixed condition.assigned) (repeated : Spares fixed body.assigned)
    (advances : Spares fixed (Expr.assignedOr increment)) :
    Keeps fixed true (executeLoop (fuel + 1) condition body increment)
      (Completion.Spares fixed) := by
  have again := keeping.executeLoop tested repeated advances
  have advanced := (keeping.evaluateOr advances).weaken true
  refine ((keeping.evaluate tested).weaken true).bind fun value _ => ?_
  split
  · refine (keeping.execute repeated).bind fun completion carries => ?_
    cases completion with
    | broke => exact .pure trivial
    | returned value => exact .pure carries
    | normal => exact advanced.bind fun _ _ => again
    | continued => exact advanced.bind fun _ _ => again
  · exact .pure trivial

end

/-- The induction over the fuel. -/
theorem keeping (fixed : String → Prop) (fuel : Nat) : Keeping fixed fuel := by
  induction fuel with
  | zero => constructor <;> intros <;> exact .throw _
  | succ fuel ih =>
    exact {
      evaluate := keeps_evaluate ih
      evaluateAll := keeps_evaluateAll ih
      invoke := keeps_invoke ih
      execute := keeps_execute ih
      evaluateOr := keeps_evaluateOr ih
      executeAll := keeps_executeAll ih
      executeLoop := keeps_executeLoop ih }

end Run
end Lox
