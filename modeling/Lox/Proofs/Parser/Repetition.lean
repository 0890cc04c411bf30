import Lox.Proofs.Parser.Depth
import Lox.Proofs.Program.Recovery

/-!
# Repetitions that end by themselves

The parser repeats something in seven places, each time with a bound on the rounds. `Loops` is the
same repetition without a bound: rounds follow each other until one says that it was the last, or
fails. Every round but the last takes a token, so in all seven places the bound is never what ends
the repetition.
-/

namespace Lox.Parser

open Lox.Grammar (Place)
open Lox.Program (programItem)

variable {α σ : Type} {bound : Nat}

/-! ## Rounds without a bound -/

/-- From `value` and the state `before`, rounds come to `result`. -/
inductive Loops (round : σ → Parser (ForInStep σ)) :
    (value : σ) → (before : State) → (result : EStateM.Result SyntaxError State σ) → Prop
  | done {value last : σ} {before after : State}
      (run : round value before = .ok (.done last) after) :
      Loops round value before (.ok last after)
  | failed {value : σ} {before after : State} {error : SyntaxError}
      (run : round value before = .error error after) :
      Loops round value before (.error error after)
  | again {value next : σ} {before middle : State} {result : EStateM.Result SyntaxError State σ}
      (run : round value before = .ok (.yield next) middle)
      (later : Loops round next middle result) : Loops round value before result

/-- Rounds come to one result at most. -/
theorem Loops.unique {round : σ → Parser (ForInStep σ)} {value : σ} {before : State}
    {result other : EStateM.Result SyntaxError State σ} (loops : Loops round value before result)
    (others : Loops round value before other) : other = result := by
  induction loops with
  | done run => cases others <;> simp_all
  | failed run => cases others <;> simp_all
  | again run _ ih =>
    cases others with
    | done same => simp_all
    | failed same => simp_all
    | again same later =>
      rw [run] at same
      cases same
      exact ih later

/-- A round that grows a value, unless there is nothing to add. -/
def growing (step : α → Parser (Option α)) (value : α) : Parser (ForInStep α) := do
  match ← step value with
  | some grown => return .yield grown
  | none => return .done value

/-- A round that puts one more item behind those found, unless there is none. -/
def collecting (item : Parser (Option α)) (found : List α) : Parser (ForInStep (List α)) := do
  match ← item with
  | some a => return .yield (found ++ [a])
  | none => return .done found

/-- A round that puts one more element behind those found. A comma calls for another one. -/
def separating (excess : SyntaxError.Cause) (element : Parser α) (found : List α) :
    Parser (ForInStep (List α)) := do
  if maxItems ≤ found.length then reportAt (← peek) excess
  let next ← element
  if ← accept .comma then return .yield (found ++ [next]) else return .done (found ++ [next])

/-! ## Bounds that are never reached -/

/-- Before fewer than `bound` tokens, `parser` stops at the end, and takes a token elsewhere if it
gives something. -/
structure TakesOrStops (bound : Nat) (parser : Parser (Option α)) : Prop where
  stops : ∀ {state : State}, state.Short bound → state.rest = [] → parser state = .ok none state
  takes : ∀ {state after : State} {a : α}, state.Short bound → parser state = .ok (some a) after →
    after.Short state.rest.length

theorem loops_growFor {step : α → Parser (Option α)}
    (steps : ∀ value, TakesOrStops bound (step value)) (rounds : Nat) {state : State}
    (short : state.Short bound) (enough : state.rest.length ≤ rounds) (value : α) :
    Loops (growing step) value state (growFor step rounds value state) := by
  -- The bound is never less than the number of tokens left, so at zero nothing is left.
  induction rounds generalizing state value with
  | zero =>
    have finished : state.rest = [] := List.eq_nil_of_length_eq_zero (Nat.le_zero.mp enough)
    exact .done (run_bind_ok ((steps value).stops short finished))
  | succ rounds ih =>
    rw [growFor]
    cases run : step value state with
    | error error after =>
      rw [run_bind_error run]
      exact .failed (run_bind_error run)
    | ok found after =>
      rw [run_bind_ok run]
      cases found with
      | none => exact .done (run_bind_ok run)
      | some grown =>
        have left := (steps value).takes short run
        have fewer := left.length_lt
        exact .again (run_bind_ok run)
          (ih (left.mono (Nat.le_of_lt short.length_lt)) (by omega) grown)

theorem loops_grow {step : α → Parser (Option α)}
    (steps : ∀ value, TakesOrStops bound (step value)) {state : State} (short : state.Short bound)
    (value : α) : Loops (growing step) value state (grow step value state) :=
  loops_growFor steps _ short (Nat.le_refl _) value

/-- What is collected goes behind what was found before. -/
theorem loops_collectFor {item : Parser (Option α)} (items : TakesOrStops bound item)
    (rounds : Nat) {state : State} (short : state.Short bound)
    (enough : state.rest.length ≤ rounds) (found : List α) :
    Loops (collecting item) found state
      ((collectFor item rounds >>= fun more => pure (found ++ more)) state) := by
  induction rounds generalizing state found with
  | zero =>
    have finished : state.rest = [] := List.eq_nil_of_length_eq_zero (Nat.le_zero.mp enough)
    show Loops (collecting item) found state (.ok (found ++ []) state)
    rw [List.append_nil]
    exact .done (run_bind_ok (items.stops short finished))
  | succ rounds ih =>
    rw [collectFor, bind_assoc]
    cases run : item state with
    | error error after =>
      rw [run_bind_error run]
      exact .failed (run_bind_error run)
    | ok next after =>
      rw [run_bind_ok run]
      cases next with
      | none =>
        show Loops (collecting item) found state (.ok (found ++ []) after)
        rw [List.append_nil]
        exact .done (run_bind_ok run)
      | some a =>
        have left := items.takes short run
        have fewer := left.length_lt
        have later := ih (left.mono (Nat.le_of_lt short.length_lt)) (by omega) (found ++ [a])
        refine .again (run_bind_ok run) ?_
        simpa only [bind_assoc, pure_bind, List.append_assoc, List.singleton_append] using later

theorem loops_collect {item : Parser (Option α)} (items : TakesOrStops bound item) {state : State}
    (short : state.Short bound) :
    Loops (collecting item) [] state (collect item state) := by
  have loops := loops_collectFor items state.rest.length short (Nat.le_refl _) []
  simp only [List.nil_append, bind_pure] at loops
  exact loops

/-- Before fewer than `bound` tokens, `element` brings no tokens back. -/
def Advances (bound : Nat) (element : Parser α) : Prop :=
  ∀ {state after : State} {a : α}, state.Short bound → element state = .ok a after →
    after.Short (state.rest.length + 1)

/-- One element too many is reported, and nothing else happens before it is read. -/
def reportExcess (excess : SyntaxError.Cause) (count : Nat) : Parser Unit := do
  if maxItems ≤ count then reportAt (← peek) excess

theorem run_reportExcess (excess : SyntaxError.Cause) (count : Nat) (state : State) :
    ∃ errors, reportExcess excess count state = .ok () { state with errors } := by
  unfold reportExcess
  split
  · exact ⟨_, rfl⟩
  · exact ⟨state.errors, rfl⟩

theorem separatedFor_succ (excess : SyntaxError.Cause) (element : Parser α) (count rounds : Nat) :
    separatedFor excess element count (rounds + 1) =
      (do
        reportExcess excess count
        let first ← element
        if ← accept .comma then
          return first :: (← separatedFor excess element (count + 1) rounds)
        else return [first]) := by
  rw [separatedFor, reportExcess]
  split <;> simp only [bind_assoc, pure_bind]

theorem separating_eq (excess : SyntaxError.Cause) (element : Parser α) (found : List α) :
    separating excess element found =
      (do
        reportExcess excess found.length
        let next ← element
        if ← accept .comma then return .yield (found ++ [next])
        else return .done (found ++ [next])) := by
  rw [separating, reportExcess]
  split <;> simp only [bind_assoc, pure_bind]

theorem loops_separatedFor {excess : SyntaxError.Cause} {element : Parser α}
    (elements : Advances bound element) (rounds : Nat) {state : State} (short : state.Short bound)
    (enough : state.rest.length < rounds) (found : List α) :
    Loops (separating excess element) found state
      ((separatedFor excess element found.length rounds >>= fun more => pure (found ++ more))
        state) := by
  induction rounds generalizing state found with
  | zero => exact absurd enough (Nat.not_lt_zero _)
  | succ rounds ih =>
    obtain ⟨errors, reported⟩ := run_reportExcess excess found.length state
    have stillShort : ({ state with errors } : State).Short bound := ⟨short.isEnd, short.length_lt⟩
    have round := congrFun (separating_eq excess element found) state
    rw [run_bind_ok reported] at round
    rw [separatedFor_succ, bind_assoc, run_bind_ok reported, bind_assoc]
    cases run : element { state with errors } with
    | error error after =>
      rw [run_bind_error run] at round ⊢
      exact .failed round
    | ok a after =>
      rw [run_bind_ok run] at round ⊢
      have left := elements stillShort run
      by_cases separated : headIs .comma after.rest = false
      · rw [bind_assoc, run_bind_ok (run_accept_none separated)]
        rw [run_bind_ok (run_accept_none separated)] at round
        exact .done round
      · cases next : after.rest with
        | nil => simp [next] at separated
        | cons comma tail =>
          have isComma : comma.kind = .comma := by simpa [next] using separated
          rw [bind_assoc, run_bind_ok (run_accept_some next isComma)]
          rw [run_bind_ok (run_accept_some next isComma)] at round
          have fewer : tail.length < state.rest.length := by
            simpa [next] using left.length_lt
          have room := short.length_lt
          have onward : ({ after with rest := tail } : State).Short bound :=
            ⟨left.isEnd, Nat.lt_trans fewer room⟩
          have later := ih onward (Nat.lt_of_lt_of_le fewer (Nat.le_of_lt_succ enough))
            (found ++ [a])
          refine .again round ?_
          simpa only [bind_assoc, pure_bind, List.append_assoc, List.singleton_append,
            List.length_append, List.length_singleton, if_true] using later

theorem loops_separated {excess : SyntaxError.Cause} {element : Parser α}
    (elements : Advances bound element) {state : State} (short : state.Short bound) :
    Loops (separating excess element) [] state (separated excess element state) := by
  have loops : Loops (separating excess element) [] state _ :=
    loops_separatedFor elements _ short (Nat.lt_succ_self _) []
  simp only [List.nil_append, bind_pure] at loops
  exact loops

/-! ## The seven places -/

/-- The rule for the operands of a level. -/
def Level.operand (rules : Rules) : Level → Parser Expr
  | comma => Parser.assignment rules
  | or => Parser.conjunction rules
  | and => Parser.equality rules
  | equality => Parser.comparison rules
  | comparison => Parser.term rules
  | term => Parser.factor rules
  | factor => Parser.unary rules

/-- One more operator and its right operand. -/
def joined (level : Level) (operand : Parser Expr) (left : Expr) : Parser (Option Expr) := do
  match ← accept? level.join? with
  | some join => return some (join left (← operand))
  | none => return none

/-- One more call or property name. -/
def applied (rules : Rules) (callee : Expr) : Parser (Option Expr) := do
  if ← accept .leftParen then
    let arguments ← untilParen .tooManyArguments rules.assignment
    let paren ← expect .rightParen .afterArguments
    return some (.call callee paren arguments)
  else if ← accept .dot then
    return some (.get callee (← expect .identifier .propertyName))
  else return none

/-- Where the parser repeats something, with what is there when it starts to. -/
inductive Repetition where
  | operators (level : Level) (left : Expr)
  | calls (callee : Expr)
  | arguments
  | parameters
  | members
  | methods
  | declarations

namespace Repetition

def Value : Repetition → Type
  | operators _ _ | calls _ => Expr
  | arguments => List Expr
  | parameters => List Token
  | members | declarations => List (Option Stmt)
  | methods => List (Token × Routine)

def start : (loop : Repetition) → loop.Value
  | operators _ left => left
  | calls callee => callee
  | arguments | parameters | members | methods | declarations => []

def round (rules : Rules) : (loop : Repetition) → loop.Value → Parser (ForInStep loop.Value)
  | operators level _ => growing (joined level (level.operand rules))
  | calls _ => growing (applied rules)
  | arguments => separating .tooManyArguments rules.assignment
  | parameters => separating .tooManyParameters (expect .identifier .parameterName)
  | members => collecting (untilBrace rules.declaration)
  | methods => collecting (untilBrace (namedRoutine rules .method))
  | declarations => collecting (programItem rules)

/-- The repetition with its bound, as it stands in its function. -/
def parser (rules : Rules) : (loop : Repetition) → Parser loop.Value
  | operators level left => grow (joined level (level.operand rules)) left
  | calls callee => grow (applied rules) callee
  | arguments => separated .tooManyArguments rules.assignment
  | parameters => separated .tooManyParameters (expect .identifier .parameterName)
  | members => collect (untilBrace rules.declaration)
  | methods => collect (untilBrace (namedRoutine rules .method))
  | declarations => collect (programItem rules)

end Repetition

/-! ### The functions in which they stand -/

example (rules : Rules) (level : Level) :
    leftGrouped level (level.operand rules) =
      level.operand rules >>= fun left => (Repetition.operators level left).parser rules := rfl

example (rules : Rules) :
    call rules = primary rules >>= fun callee => (Repetition.calls callee).parser rules := rfl

example (rules : Rules) (callee : Expr) :
    applied rules callee = do
      if ← accept .leftParen then
        let arguments ← (do
          if ← check .rightParen then return [] else Repetition.arguments.parser rules)
        let paren ← expect .rightParen .afterArguments
        return some (.call callee paren arguments)
      else if ← accept .dot then
        return some (.get callee (← expect .identifier .propertyName))
      else return none := rfl

example (rules : Rules) (role : Role) (opening : Expectation) :
    routine rules role opening = do
      let _ ← expect .leftParen opening
      let params ← (do
        if ← check .rightParen then return [] else Repetition.parameters.parser rules)
      let _ ← expect .rightParen .afterParameters
      let _ ← expect .leftBrace (.beforeRoutineBody role)
      let body ← inFunction (block rules)
      return ⟨params, body⟩ := rfl

example (rules : Rules) :
    block rules = do
      let statements ← Repetition.members.parser rules
      let _ ← expect .rightBrace .afterBlock
      return statements.reduceOption := rfl

example (rules : Rules) :
    classDeclaration rules = do
      let name ← expect .identifier .className
      let superclass ←
        if ← accept .less then some <$> expect .identifier .superclassName else pure none
      let _ ← expect .leftBrace .beforeClassBody
      let methods ← Repetition.methods.parser rules
      let _ ← expect .rightBrace .afterClassBody
      return .classDecl name superclass methods := rfl

example (rules : Rules) :
    program rules = do
      let statements ← Repetition.declarations.parser rules
      return statements.reduceOption := rfl

/-! ### Each round takes a token -/

theorem State.Short.at_start {state : State} (short : state.Short bound) :
    At ⟨state.rest, state.ending, short.isEnd⟩ state.place state.rest state :=
  ⟨rfl, rfl, rfl, List.suffix_rfl⟩

/-- What is known of a parser before fewer than `bound` tokens, wherever they come from. -/
def ReadsShort (bound : Nat) (parser : Parser α) (post : Post α) : Prop :=
  ∀ (source : Source) (place : Place) (rest : List Token), rest.length < bound →
    Reads source place rest parser post

/-- A result, with how the state was moved. -/
theorem ReadsShort.moved {parser : Parser α} {post : Post α} (reads : ReadsShort bound parser post)
    {state after : State} {a : α} (short : state.Short bound) (run : parser state = .ok a after) :
    ∃ used added, state.rest = used ++ after.rest ∧ after.ending.kind = .eof ∧
      post used added after.rest a := by
  have ends := reads _ _ _ short.length_lt state short.at_start
  rw [run] at ends
  obtain ⟨used, added, moved, holds⟩ := ends
  exact ⟨used, added, moved.rest, moved.ending ▸ short.isEnd, holds⟩

theorem ReadsShort.advances {parser : Parser α} {post : Post α}
    (reads : ReadsShort bound parser post) : Advances bound parser := by
  intro state after a short run
  obtain ⟨used, -, split, isEnd, -⟩ := reads.moved short run
  exact ⟨isEnd, Nat.lt_succ_of_le (length_le_of_split split (Nat.le_refl _))⟩

theorem ReadsShort.takesOrStops {parser : Parser (Option α)}
    (reads : ReadsShort bound parser fun used _ _ found => found.isSome → used ≠ [])
    (stops : ∀ {state : State}, state.Short bound → state.rest = [] →
      parser state = .ok none state) : TakesOrStops bound parser where
  stops := stops
  takes := by
    intro state after a short run
    obtain ⟨used, -, split, isEnd, taken⟩ := reads.moved short run
    have positive := List.length_pos_iff.mpr (taken rfl)
    refine ⟨isEnd, ?_⟩
    rw [split, List.length_append]
    omega

section

variable {depth : Nat}

theorem readsShort_operand (level : Level) :
    ReadsShort depth (level.operand (rules depth)) fun _ _ _ _ => True := by
  intro source place rest short
  have sound := rules_sound source depth
  have short' := Nat.le_of_lt short
  cases level with
  | comma => exact (reads_assignment sound short').anyhow
  | or => exact (reads_conjunction sound short').anyhow
  | and => exact (reads_equality sound short').anyhow
  | equality => exact (reads_comparison sound short').anyhow
  | comparison => exact (reads_term sound short').anyhow
  | term => exact (reads_factor sound short').anyhow
  | factor => exact (reads_unary sound short').anyhow

theorem takesOrStops_joined (level : Level) (left : Expr) :
    TakesOrStops depth (joined level (level.operand (rules depth)) left) := by
  refine ReadsShort.takesOrStops (fun source place rest short => ?_) fun _ finished => ?_
  · refine .accept? (fun operator tail join next _ _ => ?_) fun _ => .pure (by simp)
    have shorter := length_lt_of_next next (Nat.le_of_lt short)
    exact .bind (readsShort_operand level source place tail shorter) fun _ _ _ _ _ _ =>
      .pure (by simp)
  · exact run_bind_ok (run_accept?_nil finished)

theorem takesOrStops_applied (callee : Expr) :
    TakesOrStops depth (applied (rules depth) callee) := by
  refine ReadsShort.takesOrStops (fun source place rest short => ?_) fun _ finished => ?_
  · refine .accept (fun opening tail next _ _ => ?_) fun _ => ?_
    · have shorter := length_lt_of_next next (Nat.le_of_lt short)
      refine .bind (reads_arguments (rules_sound source depth) shorter) fun _ _ _ _ _ _ => ?_
      exact .expect fun _ _ _ _ => .pure (by simp)
    · refine .accept (fun dot tail _ _ _ => ?_) fun _ => .pure (by simp)
      exact .expect fun _ _ _ _ => .pure (by simp)
  · have no : ∀ kind, headIs kind _ = false := fun kind => finished ▸ headIs_nil kind
    rw [applied, run_bind_ok (run_accept_none (no _))]
    exact run_bind_ok (run_accept_none (no _))

/-- Items up to a closing brace, of which none is empty unless nothing is left. -/
theorem takesOrStops_untilBrace {item : Parser α}
    (reads : ReadsShort depth item fun used _ left _ => used = [] → left = []) :
    TakesOrStops depth (untilBrace item) := by
  refine ReadsShort.takesOrStops (fun source place rest short => ?_) fun short finished => ?_
  · refine .check (by decide) (.atEnd ?_)
    split
    · exact .pure (by simp)
    · next unfinished =>
      refine .bind (reads source place rest short) fun used added left a split taken => .pure ?_
      intro _ nothing
      have empty : used = [] := by simpa using nothing
      rw [empty, taken empty] at split
      simp [split] at unfinished
  · rw [untilBrace, run_bind_ok (run_check (by decide) short.isEnd), run_bind_ok (run_atEnd _),
      finished]
    rfl

theorem takesOrStops_programItem : TakesOrStops depth (programItem (rules depth)) := by
  refine ReadsShort.takesOrStops (fun source place rest short => ?_)
    fun _ finished => Program.programItem_end _ finished
  refine .atEnd ?_
  split
  · exact .pure (by simp)
  · next unfinished =>
    refine .bind (reads_declaration (rules_sound source depth) (Nat.le_of_lt short))
      fun used added left found split spells => .pure ?_
    intro _ nothing
    have empty : used = [] := by simpa using nothing
    rw [empty, spells.1 empty] at split
    simp [split] at unfinished

/-- Before fewer tokens than there are levels, every repetition of the parser comes to what the
rounds come to when nothing bounds them. -/
theorem loops_iff (loop : Repetition) {state : State} (short : state.Short depth)
    (result : EStateM.Result SyntaxError State loop.Value) :
    Loops (loop.round (rules depth)) loop.start state result ↔
      result = loop.parser (rules depth) state := by
  have loops : Loops (loop.round (rules depth)) loop.start state
      (loop.parser (rules depth) state) := by
    cases loop with
    | operators level left => exact loops_grow (takesOrStops_joined level) short left
    | calls callee => exact loops_grow takesOrStops_applied short callee
    | arguments =>
      have reads : ReadsShort depth (rules depth).assignment _ :=
        fun source place rest short => (rules_sound source depth).assignment place rest short
      exact loops_separated reads.advances short
    | parameters =>
      have reads : ReadsShort depth (expect .identifier .parameterName) _ :=
        fun _ _ _ _ => reads_expect _ _
      exact loops_separated reads.advances short
    | members =>
      refine loops_collect (takesOrStops_untilBrace fun source place rest short => ?_) short
      exact ((rules_sound source depth).declaration place rest short).mono
        fun _ _ _ _ _ spells => spells.1
    | methods =>
      refine loops_collect (takesOrStops_untilBrace fun source place rest short => ?_) short
      exact (reads_namedRoutine (rules_sound source depth) (Nat.le_of_lt short) _).mono
        fun _ _ _ _ _ found nothing => absurd nothing found.1
    | declarations => exact loops_collect takesOrStops_programItem short
  constructor
  · exact loops.unique
  · rintro rfl
    exact loops

end

end Lox.Parser
