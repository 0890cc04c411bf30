import Lox.Proofs.Program.Acceptance

/-!
# Declarations one after another

A program is read declaration by declaration. Where each of them begins is decided by how the one
before it ended, so a text can be followed piece by piece: the pieces that are free of errors by
what they spell, and any other piece by what one declaration does before it.
-/

namespace Lox.Grammar

/-! ## No end inside -/

/-- None of the tokens marks the end. -/
def Proper (tokens : List Token) : Prop :=
  ∀ token ∈ tokens, token.kind ≠ .eof

@[simp] theorem proper_nil : Proper [] := by
  simp [Proper]

@[simp] theorem proper_cons {token : Token} {tokens : List Token} :
    Proper (token :: tokens) ↔ token.kind ≠ .eof ∧ Proper tokens :=
  List.forall_mem_cons

@[simp] theorem proper_append {tokens more : List Token} :
    Proper (tokens ++ more) ↔ Proper tokens ∧ Proper more :=
  List.forall_mem_append

theorem Atom.proper {token : Token} {expr : Expr} (alone : Atom token expr) : Proper [token] := by
  cases alone <;> simp [*]

theorem Joins.proper {tier : Tier} {operator : Token} {node : Token → Expr → Expr → Expr}
    (joins : Joins tier operator.kind node) : Proper [operator] := by
  generalize same : operator.kind = kind at joins
  cases joins <;> simp [same]

theorem Signs.proper {operator : Token} {op : UnaryOp} (signs : Signs operator.kind op) :
    Proper [operator] := by
  generalize same : operator.kind = kind at signs
  cases signs <;> simp [same]

theorem Names.proper {tokens names : List Token} (between : Names tokens names) :
    Proper tokens := by
  induction between with
  | last isName => simp [isName]
  | more isName isComma _ ih => simp [isName, isComma, ih]

theorem Parameters.proper {tokens params : List Token} (takes : Parameters tokens params) :
    Proper tokens := by
  cases takes with
  | none => simp
  | some between => exact between.proper

theorem Superclass.proper {tokens : List Token} {superclass : Option Token}
    (extended : Superclass tokens superclass) : Proper tokens := by
  cases extended with
  | none => simp
  | some isLess isName => simp [isLess, isName]

/-- Nothing that is derived has an end in it. -/
theorem Derives.proper {n : Nonterminal} {tokens : List Token} {tree : n.Tree}
    (derives : Derives n tokens tree) : Proper tokens := by
  induction derives with
  | join joins =>
    have operator := joins.proper
    simp_all
  | sign signs =>
    have operator := signs.proper
    simp_all
  | atom alone => exact alone.proper
  | routine _ takes =>
    have params := takes.proper
    simp_all
  | classDecl _ _ extended =>
    have above := extended.proper
    simp_all
  | _ => simp_all

end Lox.Grammar

namespace Lox.Program

open Lox.Grammar Lox.Parser

/-! ## Steps -/

/-- Declarations, each of which takes something, lead from one state to another. The list holds what
each of them gave. -/
inductive Passes (rules : Rules) : State → List (Option Stmt) → State → Prop
  | done (state : State) : Passes rules state [] state
  | next {state middle after : State} {found : Option Stmt} {others : List (Option Stmt)}
      (run : declaration rules state = .ok found middle)
      (takes : middle.rest.length < state.rest.length) (later : Passes rules middle others after) :
      Passes rules state (found :: others) after

variable {rules : Rules} {before middle after : State} {found others : List (Option Stmt)}

theorem Passes.append (first : Passes rules before found middle)
    (second : Passes rules middle others after) : Passes rules before (found ++ others) after := by
  induction first with
  | done state => exact second
  | next run takes _ ih => exact .next run takes (ih second)

/-- Rounds enough for all tokens follow the declarations to the end. -/
theorem Passes.collectFor (passes : Passes rules before found after) (finished : after.rest = [])
    {rounds : Nat} (enough : before.rest.length ≤ rounds) :
    collectFor (programItem rules) rounds before = .ok found after := by
  induction passes generalizing rounds with
  | done state =>
    cases rounds with
    | zero => rfl
    | succ rounds =>
      rw [Parser.collectFor, run_bind_ok (programItem_end rules finished)]
      rfl
  | @next state middle after item others run takes _ ih =>
    have unfinished : state.rest ≠ [] := by
      intro empty
      simp [empty] at takes
    obtain ⟨fewer, rfl⟩ : ∃ fewer, rounds = fewer + 1 := ⟨rounds - 1, by omega⟩
    rw [Parser.collectFor, run_bind_ok (programItem_declaration unfinished run)]
    exact run_bind_ok (ih finished (by omega))

/-- What is read of a text is what the declarations that lead to its end have given. -/
theorem parse_of_passes {tokens : List Token}
    (passes : Passes (Parser.rules (State.start tokens).rest.length) (State.start tokens) found
      after) (finished : after.rest = []) :
    parse tokens = ⟨found.reduceOption, after.errors⟩ := by
  have items := passes.collectFor finished (Nat.le_refl _)
  have whole : program (Parser.rules (State.start tokens).rest.length) (State.start tokens) =
      .ok found.reduceOption after :=
    run_bind_ok ((run_bind_ok (run_get _)).trans items)
  simp only [parse, whole]

/-! ## Pieces without errors -/

/-- If it is a block, its declarations are read one by one, before whatever is no `else`. -/
def Passed : (n : Nonterminal) → List Token → n.Tree → Prop
  | .block place, tokens, stmts => ∀ {depth : Nat} {rest : List Token} {state : State},
      tokens.length ≤ depth → headIs .kwElse rest = false → state.ending.kind = .eof →
      state.place = place → state.rest = tokens ++ rest →
      Passes (Parser.rules depth) state (stmts.map some) { state with rest }
  | _, _, _ => True

theorem passed_of_derives {n : Nonterminal} {tokens : List Token} {tree : n.Tree}
    (derives : Derives n tokens tree) : Passed n tokens tree := by
  induction derives with
  | done =>
    intro depth rest state _ _ _ _ same
    rw [List.nil_append] at same
    rw [← same]
    exact .done state
  | @next place tokens others stmt stmts first block _ ih =>
    intro depth rest state short apart isEnd samePlace same
    rw [List.length_append] at short
    rw [List.append_assoc] at same
    -- What follows the first declaration is no `else` either: it begins another one, or is `rest`.
    have parted : headIs .kwElse (others ++ rest) = false := by
      rcases block.begins with rfl | begins
      · exact apart
      · exact headIs_of_begins begins rfl rest
    have read : Accepts place (declared (rules depth)) tokens (others ++ rest) stmt :=
      first.read (by omega) parted
    have run := accepts_declaration read state isEnd samePlace same
    have taken := List.length_pos_iff.mpr first.begins.ne_nil
    refine .next run ?_ (ih (by omega) apart isEnd samePlace rfl)
    simp only [same, List.length_append]
    omega
  | _ => trivial

theorem passes_of_derives {tokens : List Token} {stmts : List Stmt}
    (derives : Derives (.block .top) tokens stmts) {depth : Nat} (short : tokens.length ≤ depth)
    (state : State) {rest : List Token} (apart : headIs .kwElse rest = false)
    (isEnd : state.ending.kind = .eof)
    (outside : state.place = .top) (same : state.rest = tokens ++ rest) :
    Passes (Parser.rules depth) state (stmts.map some) { state with rest } :=
  passed_of_derives derives short apart isEnd outside same

theorem takeWhile_of_proper {tokens : List Token} (proper : Proper tokens) :
    tokens.takeWhile (·.kind ≠ .eof) = tokens := by
  rw [← List.append_nil tokens, List.takeWhile_append_of_pos (by simpa [Proper] using proper)]
  rfl

/-- Tokens without an end among them that are read without errors spell what is read. -/
theorem derives_of_clean_proper {tokens : List Token} (proper : Proper tokens)
    (clean : (parse tokens).errors = []) :
    Derives (.block .top) tokens (parse tokens).statements := by
  have derives := derives_of_clean clean
  rwa [takeWhile_of_proper proper] at derives

/-- The state before a text without an end in it. -/
theorem rest_start {tokens : List Token} (proper : Proper tokens) :
    (State.start tokens).rest = tokens :=
  takeWhile_of_proper proper

theorem reduceOption_around (early late : List Stmt) (item : Option Stmt) :
    (early.map some ++ item :: late.map some).reduceOption = early ++ item.toList ++ late := by
  cases item <;> simp [List.reduceOption]

/-- A piece that one declaration takes, between two that are free of errors. It adds its errors and
what was read of it, and nothing else changes. -/
theorem parse_around {early middle late : List Token} (earlyProper : Proper early)
    (lateProper : Proper late) (earlyClean : (parse early).errors = [])
    (lateClean : (parse late).errors = []) (proper : Proper middle)
    (apart : headIs .kwElse middle = false) (some_token : middle ≠ []) {item : Option Stmt}
    {errors : List SyntaxError}
    (read : ∀ {depth : Nat}, middle.length ≤ depth → ∀ state : State,
      state.ending.kind = .eof → state.loopDepth = 0 → state.functionDepth = 0 →
      state.errors = [] → state.rest = middle ++ late →
      declaration (Parser.rules depth) state = .ok item { state with rest := late, errors }) :
    parse (early ++ middle ++ late) =
      ⟨(parse early).statements ++ item.toList ++ (parse late).statements, errors⟩ := by
  have first := derives_of_clean_proper earlyProper earlyClean
  have last := derives_of_clean_proper lateProper lateClean
  have whole : Proper (early ++ middle ++ late) := by
    simp only [proper_append]
    exact ⟨⟨earlyProper, proper⟩, lateProper⟩
  let start := State.start (early ++ middle ++ late)
  have rest : start.rest = early ++ (middle ++ late) := by
    rw [rest_start whole, List.append_assoc]
  have depth : start.rest.length = early.length + (middle.length + late.length) := by
    rw [rest, List.length_append, List.length_append]
  have parted : headIs .kwElse (middle ++ late) = false := by
    obtain ⟨token, tail, rfl⟩ := List.exists_cons_of_ne_nil some_token
    exact apart
  have isEnd : start.ending.kind = .eof := endingOf_kind _
  have front := passes_of_derives first (by omega : early.length ≤ start.rest.length) start parted
    isEnd rfl rest
  have run := read (by omega : middle.length ≤ start.rest.length)
    { start with rest := middle ++ late } isEnd rfl rfl rfl rfl
  have taken := List.length_pos_iff.mpr some_token
  have back := passes_of_derives last (by omega : late.length ≤ start.rest.length)
    { start with rest := late, errors } (headIs_nil _) isEnd rfl (List.append_nil late).symm
  have passes := front.append (.next run (by simp only [List.length_append]; omega) back)
  rw [parse_of_passes passes rfl, reduceOption_around]

end Lox.Program
