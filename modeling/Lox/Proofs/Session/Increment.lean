import Lox.Proofs.Program.Acceptance
import Lox.Proofs.Run.Frame
import Lox.Proofs.Run.Rounds
import Lox.Proofs.Session.Formation

/-!
# A loop and its longer form

A loop with an increment, and the loop whose body is a block of the body and the increment, end in
the same way from every machine, and nothing that is run afterwards tells them apart. Their stores
do differ: each round of the second loop made one scope more, and the functions made in that round
keep it on the way to the names they see. It is empty.
-/

namespace Lox

open Grammar Run

/-! ## Sessions -/

/-- The machines differ at most in empty scopes. -/
def Machine.Resembles (machine other : Machine) : Prop :=
  ∃ padding exactly, machine.Alike padding exactly other

theorem Machine.Linked.resembles {machine : Machine} (linked : machine.Linked) :
    machine.Resembles machine :=
  ⟨_, _, linked.alike⟩

theorem Run.EndAlike.machines {α β : Type} {padding : Padding} {exactly : Bool} {here : ScopeId}
    {post : Padding → α → β → Prop} {result : EStateM.Result Halt Machine α}
    {other : EStateM.Result Halt Machine β}
    (ends : EndAlike padding exactly here post result other) :
    ∃ more, (left result).Alike more exactly (left other) ∧ (left result).scope = here := by
  cases ends with
  | ok grows machines stays holds => exact ⟨_, machines, stays⟩
  | error grows machines stays => exact ⟨_, machines, stays⟩

namespace Session

variable {session other : Session}

theorem resembles_run (resembles : session.machine.Resembles other.machine) (echo : Bool)
    (fuel : Nat) (source : String) :
    (session.run echo fuel source).1 = (other.run echo fuel source).1 ∧
      (session.run echo fuel source).2.machine.Resembles
        (other.run echo fuel source).2.machine := by
  unfold Session.run
  cases compile source with
  | error diagnostics => exact ⟨rfl, resembles⟩
  | ok program =>
    obtain ⟨padding, exactly, alike⟩ := resembles
    have ends := runProgram_endAlike alike echo fuel program
    simp only
    generalize runProgram echo fuel program session.machine = result,
      runProgram echo fuel program other.machine = resultToo at ends
    cases ends with
    | ok grows machines stays holds => exact ⟨rfl, _, _, machines⟩
    | @error halt after later more grows machines stays =>
      cases halt <;> exact ⟨rfl, _, _, machines⟩

theorem resembles_runAll (resembles : session.machine.Resembles other.machine)
    (steps : List Step) :
    (session.runAll steps).1 = (other.runAll steps).1 ∧
      (session.runAll steps).2.machine.Resembles (other.runAll steps).2.machine := by
  induction steps generalizing session other with
  | nil => exact ⟨rfl, resembles⟩
  | cons step rest ih =>
    obtain ⟨same, next⟩ := resembles_run resembles step.echo step.fuel step.source
    obtain ⟨sameRest, last⟩ := ih next
    exact ⟨congrArg₂ List.cons same sameRest, last⟩

end Session

/-! ## Linked machines -/

theorem Machine.linked_fresh (sink : Sink) (clock : Nat → Number) :
    (Machine.fresh sink clock).Linked := by
  refine ⟨⟨fun found _ => (scope?_fresh found).1, ?_⟩, Nat.zero_lt_one, Nat.zero_lt_one, ?_⟩
  · intro id scope parent found around
    rw [(scope?_fresh found).2] at around
    cases around
  · have empty : Store.empty.Binds (Value.Housed (Machine.fresh sink clock).store) :=
      fun _ absurd => nomatch absurd
    have native : (Value.callable ⟨0, .native .clock 0⟩).Housed
        (Machine.fresh sink clock).store := trivial
    exact (empty.newScope none).define native _ _

/-- To go into a new scope inside any other keeps a machine linked. -/
theorem Machine.Linked.enter {machine : Machine} (linked : machine.Linked) {parent : ScopeId}
    (has : machine.store.Has parent) :
    { machine with
      store := (machine.store.newScope (some parent)).2
      scope := (machine.store.newScope (some parent)).1 }.Linked := by
  have stands := Padding.stands_none has
  have meets : Padding.Meets _ true _ _ := (linked.alike.store.newScope stands).2
  exact ((linked.alike.newScope stands).withScope meets).linked

/-- So does every run of statements, however it ends. -/
theorem Machine.Linked.executeAll {machine : Machine} (linked : machine.Linked) (fuel : Nat)
    (stmts : List Stmt) : (left (executeAll fuel stmts machine)).Linked := by
  have ends := (padded fuel).executeAll stmts _ _ _ (.refl _) linked.alike trivial
  obtain ⟨padding, alike, -⟩ := ends.machines
  exact alike.linked

/-- Whatever was run, the machine of a session is linked. -/
theorem Session.linked_runAll (sink : Sink) (clock : Nat → Number) (steps : List Session.Step) :
    ((Session.start sink clock).runAll steps).2.machine.Linked := by
  have fresh : (Session.start sink clock).machine.Linked := Machine.linked_fresh sink clock
  obtain ⟨-, padding, exactly, alike⟩ := Session.resembles_runAll fresh.resembles steps
  exact alike.linked

/-! ## Loops -/

/-- A statement and another end in the same way from a machine: with the same completion or the same
error, in the scope in which they started, and with machines that differ in empty scopes only. These
show the same, and whatever is run next shows the same on both. -/
structure SameEnd (before : Machine) (result other : EStateM.Result Halt Machine Completion) :
    Prop where
  ends : EndAlike (.none before.store) true before.scope Completion.Alike result other
  output : (left result).sink = (left other).sink
  linked : (left result).Linked ∧ (left other).Linked
  /-- What is run next in the same scope. -/
  statements : ∀ fuel stmts, ∃ padding, EndAlike padding true before.scope Completion.Alike
    (executeAll fuel stmts (left result)) (executeAll fuel stmts (left other))
  /-- Sources that are run next. -/
  sources : ∀ steps : List Session.Step,
    ((Session.mk (left result)).runAll steps).1 = ((Session.mk (left other)).runAll steps).1 ∧
      ((Session.mk (left result)).runAll steps).2.output =
        ((Session.mk (left other)).runAll steps).2.output

theorem sameEnd_of_endAlike {before : Machine}
    {result other : EStateM.Result Halt Machine Completion}
    (ends : EndAlike (.none before.store) true before.scope Completion.Alike result other) :
    SameEnd before result other := by
  obtain ⟨padding, alike, stays⟩ := ends.machines
  refine ⟨ends, alike.sink, ⟨alike.linked, alike.linkedToo⟩, ?_, ?_⟩
  · intro fuel stmts
    have next := (padded fuel).executeAll stmts _ _ _ (.refl _) alike trivial
    rw [stays] at next
    exact ⟨_, next⟩
  · intro steps
    have resembles : (Session.mk (left result)).machine.Resembles
        (Session.mk (left other)).machine := ⟨_, _, alike⟩
    obtain ⟨same, padding, exactly, last⟩ := Session.resembles_runAll resembles steps
    exact ⟨same, congrArg Sink.written last.sink⟩

/-- A loop with an increment, and the loop that has the increment behind the body in a block, end in
the same way from every machine from which one of them ends, and nothing that is run next tells them
apart. The body is one that tokens spell, without a `continue` that belongs to the loop. -/
theorem increment_behind_body (condition increment : Expr) {place : Place} {closed : Bool}
    {tokens : List Token} {body : Stmt} (parsed : Derives (.statement place closed) tokens body)
    (free : body.continues = false) {machine : Machine} (linked : machine.Linked) :
    let beside := Stmt.loop condition body (some increment)
    let behind := Stmt.loop condition (.block [body, .expression increment]) none
    (∀ result, EndsWith beside machine result →
      ∃ other, EndsWith behind machine other ∧ SameEnd machine result other) ∧
    ∀ other, EndsWith behind machine other →
      ∃ result, EndsWith beside machine result ∧ SameEnd machine result other := by
  intro beside behind
  have undeclaring : body.Undeclaring := parsed.undeclaring
  constructor
  · rintro _ ⟨finished, fuel, rfl⟩
    cases fuel with
    | zero => exact finished.elim
    | succ fuel =>
      have ends := pads_increment_inward condition increment undeclaring free fuel _ machine machine
        (.refl _) linked.alike finished
      exact ⟨_, ⟨ends.finished.mp finished, fuel + 5, rfl⟩, sameEnd_of_endAlike ends⟩
  · rintro _ ⟨finished, fuel, rfl⟩
    cases fuel with
    | zero => exact finished.elim
    | succ fuel =>
      have ends := pads_increment_outward condition increment undeclaring free fuel _ machine
        machine (.refl _) linked.alike finished
      exact ⟨_, ⟨ends.finished.mpr finished, fuel + 3, rfl⟩, sameEnd_of_endAlike ends⟩

/-- In `for (; clock(); clock()) clock = fun () {};` the body makes a function, which in the other
loop keeps an empty scope. The increment and the condition call it, for nil. -/
theorem increment_behind_body_closure :
    let name : Token := ⟨.identifier, "clock", none, 1, ⟨0, 5⟩⟩
    let called := Expr.call (.var name) (Program.bareToken .rightParen) []
    let body := Stmt.expression (.assign name (.lambda ⟨[], []⟩))
    let tokens := name :: [.equal, .kwFun, .leftParen, .rightParen, .leftBrace, .rightBrace,
      .semicolon].map Program.bareToken
    let machine := Machine.fresh .unlimited fun _ => .ofNat 0
    let beside := Stmt.loop called body (some called)
    let behind := Stmt.loop called (.block [body, .expression called]) none
    Derives (.statement Place.top.loopBody true) tokens body ∧ body.continues = false ∧
      machine.Linked ∧ EndsWith beside machine (execute 9 beside machine) ∧
      ∃ other, EndsWith behind machine other ∧
        SameEnd machine (execute 9 beside machine) other := by
  intro name called body tokens machine beside behind
  have parsed : Derives (.statement Place.top.loopBody true) tokens body := by
    have routine : Derives .routine ([.leftParen, .rightParen, .leftBrace, .rightBrace].map
        Program.bareToken) ⟨[], []⟩ := .routine rfl .none rfl rfl .done rfl
    have function : Derives (.expr .primary) ([.kwFun, .leftParen, .rightParen, .leftBrace,
        .rightBrace].map Program.bareToken) (.lambda ⟨[], []⟩) := .lambda rfl routine
    have assigned := Derives.tighter (show Tier.assignment.next? = _ from rfl) <|
      .tighter rfl <| .tighter rfl <| .tighter rfl <| .tighter rfl <| .tighter rfl <|
      .tighter rfl <| .tighter rfl <| .tighter rfl <| .tighter rfl function
    exact .expression (.tighter rfl (.assign rfl rfl assigned)) rfl
  have linked : machine.Linked := Machine.linked_fresh _ _
  have ends : EndsWith beside machine (execute 9 beside machine) := ⟨by decide +kernel, 9, rfl⟩
  exact ⟨parsed, rfl, linked, ends,
    (increment_behind_body called called parsed rfl linked).1 _ ends⟩

end Lox
