import Lox.Proofs.Run.Frame

/-!
# What reaches the sink

No run looks at what was printed before, nor at how much room is left. So a run prints the same at
every sink as long as the sink takes it. If not all of it fits, what fits is delivered and the run
stops there, whatever it would have done next.
-/

namespace Lox

/-! ## Sinks -/

namespace Sink

variable {sink : Sink} {bytes first second : ByteArray}

/-- There is room for all of the bytes. -/
def Fits (sink : Sink) (bytes : ByteArray) : Prop :=
  sink.room bytes.size = bytes.size

instance (sink : Sink) (bytes : ByteArray) : Decidable (sink.Fits bytes) :=
  inferInstanceAs (Decidable (_ = _))

/-- The sink behind the bytes, or behind as many of them as fit. -/
def take (sink : Sink) (bytes : ByteArray) : Sink :=
  { sink with written := sink.written ++ bytes.extract 0 (sink.room bytes.size) }

theorem room_le (sink : Sink) (size : Nat) : sink.room size ≤ size := by
  unfold room
  split <;> omega

theorem take_of_fits (fits : sink.Fits bytes) :
    sink.take bytes = { sink with written := sink.written ++ bytes } := by
  unfold take
  rw [fits, ByteArray.extract_zero_size]

theorem fits_empty (sink : Sink) : sink.Fits .empty :=
  Nat.le_zero.mp (sink.room_le _)

theorem take_empty (sink : Sink) : sink.take .empty = sink := by
  rw [take_of_fits sink.fits_empty, ByteArray.append_empty]

/-- What is left of the room behind bytes that fit. -/
theorem room_append (fits : sink.Fits first) (size : Nat) :
    sink.room (first.size + size) = first.size + (sink.take first).room size := by
  rw [take_of_fits fits]
  unfold Fits at fits
  unfold room at fits ⊢
  cases limit : sink.limit with
  | none => rfl
  | some limit =>
    simp only [limit, ByteArray.size_append] at fits ⊢
    omega

/-- Where bytes do not fit, more of them do not either, and the room is used up. -/
theorem room_of_not_fits (overflows : ¬ sink.Fits first) (size : Nat) :
    sink.room (first.size + size) = sink.room first.size := by
  unfold Fits at overflows
  unfold room at overflows ⊢
  cases limit : sink.limit with
  | none => simp [limit] at overflows
  | some limit =>
    simp only [limit] at overflows ⊢
    omega

theorem fits_append :
    sink.Fits (first ++ second) ↔ sink.Fits first ∧ (sink.take first).Fits second := by
  unfold Fits
  rw [ByteArray.size_append]
  by_cases fits : sink.Fits first
  · rw [room_append fits]
    constructor
    · exact fun both => ⟨fits, by omega⟩
    · exact fun both => by omega
  · rw [room_of_not_fits fits]
    have little := sink.room_le first.size
    unfold Fits at fits
    constructor
    · intro both
      omega
    · exact fun both => absurd both.1 fits

theorem take_append (fits : sink.Fits first) :
    sink.take (first ++ second) = (sink.take first).take second := by
  let more := (sink.take first).room second.size
  have held : (sink.take first).written = sink.written ++ first := by rw [take_of_fits fits]
  have room : sink.room (first ++ second).size = first.size + more := by
    rw [ByteArray.size_append, room_append fits]
  have long : first.size + more = max (first.size + more) first.size := by omega
  have front : first.extract 0 (first.size + more) = first := by
    rw [long, ByteArray.extract_zero_max_size]
  have parts : (first ++ second).extract 0 (first.size + more) =
      first ++ second.extract 0 more := by
    rw [ByteArray.extract_append, front, Nat.zero_sub, Nat.add_sub_cancel_left]
  show ({ sink with written := _ } : Sink) = { sink with written := _ ++ second.extract 0 more }
  rw [room, parts, held, ByteArray.append_assoc]

theorem take_append_of_not_fits (overflows : ¬ sink.Fits first) :
    sink.take (first ++ second) = sink.take first := by
  have nothing : sink.room first.size - first.size = 0 := Nat.sub_eq_zero_of_le (sink.room_le _)
  unfold take
  rw [ByteArray.size_append, room_of_not_fits overflows, ByteArray.extract_append, nothing,
    Nat.zero_sub, ByteArray.extract_same, ByteArray.append_empty]

theorem unlimited_fits (sink : Sink) (unlimited : sink.limit = none) (bytes : ByteArray) :
    sink.Fits bytes := by
  unfold Fits room
  rw [unlimited]

end Sink

/-! ## Runs -/

namespace Run

variable {α β : Type}

/-- A result with another sink. -/
def atSink (sink : Sink) : EStateM.Result Halt Machine α → EStateM.Result Halt Machine α
  | .ok a machine => .ok a { machine with sink }
  | .error halt machine => .error halt { machine with sink }

/-- What was printed, if nothing was before. -/
def printed (result : EStateM.Result Halt Machine α) : ByteArray :=
  (left result).sink.written

@[simp] theorem sink_left_atSink (sink : Sink) (result : EStateM.Result Halt Machine α) :
    (left (atSink sink result)).sink = sink := by
  cases result <;> rfl

@[simp] theorem atSink_atSink (first second : Sink) (result : EStateM.Result Halt Machine α) :
    atSink second (atSink first result) = atSink second result := by
  cases result <;> rfl

/-- How a run that ended as `free` where everything is taken ends at a sink. -/
structure Delivered (sink : Sink) (free result : EStateM.Result Halt Machine α) : Prop where
  whole : sink.Fits (printed free) → result = atSink (sink.take (printed free)) free
  part : ¬ sink.Fits (printed free) →
    ∃ after, result = .error (.error (.output .full)) after ∧ after.sink = sink.take (printed free)

/-- At each sink that can be flushed, the run prints what it prints where everything is taken. -/
def Delivers (run : Run α) : Prop :=
  ∀ (machine : Machine) (sink : Sink), sink.flushes = true →
    Delivered sink (run { machine with sink := .unlimited }) (run { machine with sink })

theorem run_print (value : Value) (machine : Machine) :
    print value machine =
      if machine.sink.Fits (value.text ++ "\n").toUTF8 then
        .ok () { machine with sink := machine.sink.take (value.text ++ "\n").toUTF8 }
      else
        .error (.error (.output .full))
          { machine with sink := machine.sink.take (value.text ++ "\n").toUTF8 } := by
  have written : print value machine =
      (unless decide (machine.sink.Fits (value.text ++ "\n").toUTF8) do
        throw (.error (.output .full)) : Run Unit)
        { machine with sink := machine.sink.take (value.text ++ "\n").toUTF8 } := rfl
  rw [written]
  by_cases fits : machine.sink.Fits (value.text ++ "\n").toUTF8
  · rw [if_pos fits, decide_eq_true fits]
    rfl
  · rw [if_neg fits, decide_eq_false fits]
    rfl

namespace Delivers

/-- A run that does not touch the sink. -/
theorem of_silent {run : Run α}
    (silent : ∀ machine sink, run { machine with sink } = atSink sink (run machine)) :
    Delivers run := by
  intro machine sink _
  have nothing : printed (run { machine with sink := .unlimited }) = .empty := by
    rw [silent, printed, sink_left_atSink]
    rfl
  constructor
  · intro _
    rw [nothing, Sink.take_empty, silent machine sink, silent machine .unlimited, atSink_atSink]
  · intro overflows
    rw [nothing] at overflows
    exact absurd sink.fits_empty overflows

theorem pure (a : α) : Delivers (Pure.pure a : Run α) :=
  of_silent fun _ _ => rfl

theorem throw (halt : Halt) : Delivers (MonadExcept.throw halt : Run α) :=
  of_silent fun _ _ => rfl

/-- The run where everything is taken goes on with a sink that holds what was printed so far. -/
theorem unlimited_left {run : Run α} (delivers : Delivers run) (machine : Machine) :
    (left (run { machine with sink := .unlimited })).sink =
      Sink.unlimited.take (printed (run { machine with sink := .unlimited })) := by
  have again := (delivers machine .unlimited rfl).whole (Sink.unlimited_fits _ rfl _)
  have sinks := congrArg (fun result => (left result).sink) again
  rw [sink_left_atSink] at sinks
  exact sinks

theorem bind {run : Run α} {next : α → Run β} (first : Delivers run)
    (second : ∀ a, Delivers (next a)) : Delivers (run >>= next) := by
  intro machine sink flushes
  have front := first machine sink flushes
  have held := first.unlimited_left machine
  cases free : run { machine with sink := .unlimited } with
  | error halt after =>
    rw [free] at front
    rw [run_bind_error free]
    constructor
    · intro fits
      rw [run_bind_error (front.whole fits)]
      rfl
    · intro overflows
      obtain ⟨stopped, stops, rest⟩ := front.part overflows
      exact ⟨stopped, run_bind_error stops, rest⟩
  | ok a middle =>
    rw [free] at front held
    have unlimited : middle.sink.limit = none := congrArg Sink.limit held
    have flushed : middle.sink.flushes = true := congrArg Sink.flushes held
    -- The second step, alone, prints `more`; behind the first it adds that to what is there.
    let more := printed (next a { middle with sink := .unlimited })
    have joined : next a middle = atSink (middle.sink.take more) _ :=
      (second a middle middle.sink flushed).whole (Sink.unlimited_fits _ unlimited _)
    have all : printed (next a middle) = middle.sink.written ++ more := by
      rw [joined, printed, sink_left_atSink, Sink.take_of_fits (Sink.unlimited_fits _ unlimited _)]
    rw [run_bind_ok free]
    have later := second a middle (sink.take middle.sink.written) flushes
    constructor
    · intro fits
      rw [all, Sink.fits_append] at fits
      rw [run_bind_ok (front.whole fits.1), all, Sink.take_append fits.1, joined, atSink_atSink]
      exact later.whole fits.2
    · intro overflows
      rw [all] at overflows ⊢
      by_cases fits : sink.Fits middle.sink.written
      · rw [Sink.take_append fits, run_bind_ok (front.whole fits)]
        exact later.part fun rest => overflows (Sink.fits_append.mpr ⟨fits, rest⟩)
      · obtain ⟨stopped, stops, rest⟩ := front.part fits
        rw [Sink.take_append_of_not_fits fits]
        exact ⟨stopped, run_bind_error stops, rest⟩

theorem ofOperator (token : Token) (result : Except RuntimeError.Cause α) :
    Delivers (Run.ofOperator token result) := by
  cases result with
  | ok value => exact pure value
  | error cause => exact throw _

theorem lookup (name : Token) : Delivers (Run.lookup name) := by
  refine of_silent fun machine sink => ?_
  rw [run_lookup, run_lookup]
  simp only
  cases machine.store.get? machine.scope name.lexeme <;> rfl

theorem define (name : String) (value : Value) : Delivers (Run.define name value) :=
  of_silent fun _ _ => rfl

theorem assign (name : Token) (value : Value) : Delivers (Run.assign name value) := by
  refine of_silent fun machine sink => ?_
  rw [run_assign, run_assign]
  simp only
  cases machine.store.holder? machine.scope name.lexeme <;> rfl

theorem newScope (parent : ScopeId) (bindings : List (String × Value)) :
    Delivers (Run.newScope parent bindings) :=
  of_silent fun _ _ => rfl

theorem newClosure (name : Option String) (routine : Routine) :
    Delivers (Run.newClosure name routine) :=
  of_silent fun _ _ => rfl

theorem readClock : Delivers Run.readClock :=
  of_silent fun _ _ => rfl

theorem inScope {run : Run α} (delivers : Delivers run) (scope : ScopeId) :
    Delivers (Run.inScope scope run) := by
  intro machine sink flushes
  have inside := delivers { machine with scope } sink flushes
  unfold Run.inScope
  cases free : run { machine with sink := .unlimited, scope } with
  | _ =>
    rw [free] at inside
    constructor
    · intro fits
      simp only [inside.whole fits]
      rfl
    · intro overflows
      obtain ⟨stopped, stops, rest⟩ := inside.part overflows
      simp only [stops]
      exact ⟨_, rfl, rest⟩

theorem print (value : Value) : Delivers (Run.print value) := by
  intro machine sink flushes
  let bytes := (value.text ++ "\n").toUTF8
  have free : Run.print value { machine with sink := .unlimited } =
      .ok () { machine with sink := Sink.unlimited.take bytes } := by
    rw [run_print, if_pos (Sink.unlimited_fits _ rfl _)]
  have taken : printed (Run.print value { machine with sink := .unlimited }) = bytes := by
    rw [free]
    show (Sink.unlimited.take bytes).written = bytes
    rw [Sink.take_of_fits (Sink.unlimited_fits _ rfl _)]
    exact ByteArray.empty_append
  rw [run_print value { machine with sink }]
  constructor
  · intro fits
    rw [taken] at fits ⊢
    rw [if_pos fits, free]
    rfl
  · intro overflows
    rw [taken] at overflows ⊢
    rw [if_neg overflows]
    exact ⟨_, rfl, rfl⟩

theorem flush : Delivers Run.flush := by
  intro machine sink flushes
  have free : Run.flush { machine with sink := .unlimited } = .ok () _ := flush_of_flushes rfl
  have done : Run.flush { machine with sink } = .ok () _ := flush_of_flushes flushes
  rw [free, done]
  constructor
  · intro _
    show EStateM.Result.ok () _ = .ok () { machine with sink := sink.take .empty }
    rw [Sink.take_empty]
  · exact fun overflows => absurd sink.fits_empty overflows

end Delivers

/-! ## Expressions and statements -/

/-- With the given fuel, everything prints the same at every sink. -/
structure Delivering (fuel : Nat) : Prop where
  evaluate : ∀ expr, Delivers (evaluate fuel expr)
  evaluateAll : ∀ exprs, Delivers (evaluateAll fuel exprs)
  invoke : ∀ callable arguments, Delivers (invoke fuel callable arguments)
  execute : ∀ stmt, Delivers (execute fuel stmt)
  evaluateOr : ∀ expr?, Delivers (evaluateOr fuel expr?)
  executeAll : ∀ stmts, Delivers (executeAll fuel stmts)
  executeLoop : ∀ condition body increment, Delivers (executeLoop fuel condition body increment)

section

variable {fuel : Nat} (delivering : Delivering fuel)

include delivering

theorem delivers_evaluate (expr : Expr) : Delivers (evaluate (fuel + 1) expr) := by
  cases expr with
  | literal value => exact .pure _
  | var name => exact .lookup name
  | assign name value =>
    exact (delivering.evaluate value).bind fun value =>
      (Delivers.assign name value).bind fun _ => .pure value
  | unary op operator operand =>
    exact (delivering.evaluate operand).bind fun _ => .ofOperator operator _
  | binary op operator left right =>
    exact (delivering.evaluate left).bind fun _ =>
      (delivering.evaluate right).bind fun _ => .ofOperator operator _
  | logical op operator left right =>
    refine (delivering.evaluate left).bind fun value => ?_
    split
    · exact .pure value
    · exact delivering.evaluate right
  | comma operator left right =>
    exact (delivering.evaluate left).bind fun _ => delivering.evaluate right
  | conditional condition yes no =>
    refine (delivering.evaluate condition).bind fun value => ?_
    split
    · exact delivering.evaluate yes
    · exact delivering.evaluate no
  | grouping inner => exact delivering.evaluate inner
  | call callee paren arguments =>
    refine (delivering.evaluate callee).bind fun function => ?_
    refine (delivering.evaluateAll arguments).bind fun values => ?_
    cases function with
    | callable callable =>
      simp only
      split
      · exact delivering.invoke callable values
      · exact .throw _
    | _ => exact .throw _
  | lambda routine => exact .newClosure none routine
  | get object name => exact .throw _
  | set object name value => exact .throw _
  | self keyword => exact .throw _
  | super keyword method => exact .throw _

theorem delivers_evaluateAll (exprs : List Expr) : Delivers (evaluateAll (fuel + 1) exprs) := by
  cases exprs with
  | nil => exact .pure []
  | cons expr rest =>
    exact (delivering.evaluate expr).bind fun _ =>
      (delivering.evaluateAll rest).bind fun _ => .pure _

theorem delivers_evaluateOr (expr? : Option Expr) : Delivers (evaluateOr (fuel + 1) expr?) := by
  cases expr? with
  | none => exact .pure Value.nil
  | some expr => exact delivering.evaluate expr

theorem delivers_invoke (callable : Callable) (arguments : List Value) :
    Delivers (invoke (fuel + 1) callable arguments) := by
  obtain ⟨identity, action⟩ := callable
  cases action with
  | native native arity =>
    cases native
    exact .readClock
  | closure name routine scope =>
    refine (Delivers.newScope scope _).bind fun inner => ?_
    refine ((delivering.executeAll routine.body).inScope inner).bind fun completion => ?_
    cases completion <;> exact .pure _

theorem delivers_execute (stmt : Stmt) : Delivers (execute (fuel + 1) stmt) := by
  cases stmt with
  | expression value => exact (delivering.evaluate value).bind fun _ => .pure _
  | print value =>
    exact (delivering.evaluate value).bind fun value => (Delivers.print value).bind fun _ => .pure _
  | define name initializer =>
    exact (delivering.evaluateOr initializer).bind fun value =>
      (Delivers.define name.lexeme value).bind fun _ => .pure _
  | block body =>
    -- Only the scope is read of the machine, not its sink.
    have opened : Delivers (do newScope (← get).scope []) := .of_silent fun _ _ => rfl
    have entered := opened.bind fun inner => (delivering.executeAll body).inScope inner
    rw [bind_assoc] at entered
    exact entered
  | branch condition yes no =>
    refine (delivering.evaluate condition).bind fun value => ?_
    split
    · exact delivering.execute yes
    · cases no with
      | some no => exact delivering.execute no
      | none => exact .pure _
  | loop condition body increment => exact delivering.executeLoop condition body increment
  | breakLoop keyword => exact .pure _
  | continueLoop keyword => exact .pure _
  | function name routine =>
    exact (Delivers.newClosure _ routine).bind fun value =>
      (Delivers.define name.lexeme value).bind fun _ => .pure _
  | giveBack keyword value => exact (delivering.evaluateOr value).bind fun _ => .pure _
  | classDecl name superclass methods => exact .throw _

theorem delivers_executeAll (stmts : List Stmt) : Delivers (executeAll (fuel + 1) stmts) := by
  cases stmts with
  | nil => exact .pure _
  | cons stmt rest =>
    refine (delivering.execute stmt).bind fun completion => ?_
    cases completion with
    | normal => exact delivering.executeAll rest
    | _ => exact .pure _

theorem delivers_executeLoop (condition : Expr) (body : Stmt) (increment : Option Expr) :
    Delivers (executeLoop (fuel + 1) condition body increment) := by
  have again := delivering.executeLoop condition body increment
  refine (delivering.evaluate condition).bind fun value => ?_
  split
  · refine (delivering.execute body).bind fun completion => ?_
    cases completion with
    | broke => exact .pure _
    | returned value => exact .pure _
    | normal => exact (delivering.evaluateOr increment).bind fun _ => again
    | continued => exact (delivering.evaluateOr increment).bind fun _ => again
  · exact .pure _

end

/-- The induction over the fuel. -/
theorem delivering (fuel : Nat) : Delivering fuel := by
  induction fuel with
  | zero => constructor <;> intros <;> exact .throw _
  | succ fuel ih =>
    exact {
      evaluate := delivers_evaluate ih
      evaluateAll := delivers_evaluateAll ih
      invoke := delivers_invoke ih
      execute := delivers_execute ih
      evaluateOr := delivers_evaluateOr ih
      executeAll := delivers_executeAll ih
      executeLoop := delivers_executeLoop ih }

/-! ## Programs -/

theorem delivers_executeTop (echo : Bool) (fuel : Nat) (stmt : Stmt) :
    Delivers (executeTop echo fuel stmt) := by
  have executed : Delivers (discard (execute fuel stmt)) := by
    rw [discard_eq_bind]
    exact ((delivering fuel).execute stmt).bind fun _ => .pure _
  cases echo with
  | false => exact executed
  | true =>
    cases stmt with
    | expression value => exact ((delivering fuel).evaluate value).bind fun value => .print value
    | _ => exact executed

theorem delivers_forM (echo : Bool) (fuel : Nat) (program : List Stmt) :
    Delivers (program.forM (executeTop echo fuel)) := by
  induction program with
  | nil => exact .pure ()
  | cons stmt rest ih => exact (delivers_executeTop echo fuel stmt).bind fun _ => ih

theorem delivers_runProgram (echo : Bool) (fuel : Nat) (program : List Stmt) :
    Delivers (runProgram echo fuel program) := by
  have outermost : Delivers (modify fun machine => { machine with scope := machine.globals }) :=
    .of_silent fun _ _ => rfl
  exact outermost.bind fun _ => (delivers_forM echo fuel program).bind fun _ => .flush

end Run
end Lox
