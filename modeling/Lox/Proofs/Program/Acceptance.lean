import Lox.Proofs.Parser.Completeness
import Lox.Proofs.Program.Recovery

/-!
# Programs without errors

A text is read without errors exactly when its tokens spell a list of statements, and then these are
the statements read. So tokens spell at most one list of statements.
-/

namespace Lox.Program

open Lox.Grammar Lox.Parser

/-- Without errors nothing is lost. -/
theorem FallInto.derives {ending : Token} {tokens : List Token} {pieces : List Piece}
    (fall : FallInto ending tokens pieces) (clean : pieces.flatMap Piece.errors = []) :
    Derives (.block .top) tokens (pieces.filterMap Piece.stmt?) := by
  induction fall with
  | done => exact .done
  | @next rest piece pieces first _ _ ih =>
    rw [List.flatMap_cons, List.append_eq_nil_iff] at clean
    cases piece with
    | kept tokens stmt => exact .next first (ih clean.2)
    | lost tokens errors => exact absurd clean.1 first.2.1

theorem derives_of_clean {tokens : List Token} (clean : (parse tokens).errors = []) :
    Derives (.block .top) (tokens.takeWhile (·.kind ≠ .eof)) (parse tokens).statements := by
  obtain ⟨pieces, fall, statements, errors⟩ := program_pieces tokens
  rw [statements]
  exact fall.derives (errors ▸ clean)

theorem takeWhile_before_end {body others : List Token} {ending : Token}
    (proper : ∀ token ∈ body, token.kind ≠ .eof) (isEnd : ending.kind = .eof) :
    (body ++ ending :: others).takeWhile (·.kind ≠ .eof) = body := by
  rw [List.takeWhile_append_of_pos (by simpa using proper)]
  simp [isEnd]

theorem takeWhile_append_ending {body : List Token} {ending : Token}
    (proper : ∀ token ∈ body, token.kind ≠ .eof) (isEnd : ending.kind = .eof) :
    (body ++ [ending]).takeWhile (·.kind ≠ .eof) = body :=
  takeWhile_before_end proper isEnd

theorem accepts_programItem {rules : Rules} {place : Place} {tokens rest : List Token} {stmt : Stmt}
    (begins : BeginsWith declarationBegins tokens)
    (read : Accepts place (declared rules) tokens rest stmt) :
    Accepts place (programItem rules) tokens rest (some (some stmt)) := by
  intro state isEnd samePlace before
  refine programItem_declaration ?_ (accepts_declaration read state isEnd samePlace before)
  simp [before, begins.ne_nil]

/-- The parser reads what is derived, without errors. -/
theorem parse_of_derives {tokens : List Token} {stmts : List Stmt}
    (derives : Derives (.block .top) (tokens.takeWhile (·.kind ≠ .eof)) stmts) :
    parse tokens = ⟨stmts, []⟩ := by
  let start := State.start tokens
  have items : Accepts .top (collectFor (programItem (rules start.rest.length)) start.rest.length)
      start.rest [] (stmts.map some) := by
    refine derives.read (Nat.le_refl _) (Nat.le_refl _) rfl ?_ accepts_programItem
    intro state _ _ before
    rw [programItem_end _ before, ← show state.rest = [] from before]
  have run := items start (endingOf_kind tokens) rfl (List.append_nil _).symm
  have whole : program (rules start.rest.length) start = .ok stmts { start with rest := [] } := by
    refine (run_bind_ok ((run_bind_ok (run_get _)).trans run)).trans ?_
    rw [reduceOption_map_some]
    rfl
  simp only [parse]
  rw [show State.start tokens = start from rfl, whole]
  rfl

/-- A text that ends in its only end is read without errors, as `stmts`, exactly when the tokens
before the end spell `stmts`. -/
theorem parse_clean_iff_derives {body : List Token} {ending : Token}
    (proper : ∀ token ∈ body, token.kind ≠ .eof) (isEnd : ending.kind = .eof)
    (stmts : List Stmt) :
    ((parse (body ++ [ending])).errors = [] ∧ (parse (body ++ [ending])).statements = stmts ↔
      Derives (.block .top) body stmts) ∧
    ∀ others, Derives (.block .top) body stmts → Derives (.block .top) body others →
      others = stmts := by
  have before := takeWhile_append_ending proper isEnd
  have complete : ∀ {found}, Derives (.block .top) body found →
      parse (body ++ [ending]) = ⟨found, []⟩ :=
    fun derives => parse_of_derives (before.symm ▸ derives)
  refine ⟨⟨?_, ?_⟩, ?_⟩
  · rintro ⟨clean, rfl⟩
    obtain ⟨pieces, fall, statements, errors⟩ := program_pieces (body ++ [ending])
    rw [before] at fall
    rw [statements]
    exact fall.derives (errors ▸ clean)
  · intro derives
    rw [complete derives]
    exact ⟨rfl, rfl⟩
  · intro others derives derives'
    exact congrArg Program.statements ((complete derives').symm.trans (complete derives))

/-- A token of which only the kind matters. -/
def bareToken (kind : Token.Kind) : Token := ⟨kind, "", none, 1, ⟨0, 0⟩⟩

/-- In `if (x) if (x) x; else x;` the `else` goes with the second `if`. -/
theorem parse_clean_nearest_else :
    let name := bareToken .identifier
    let body := [.kwIf, .leftParen, .identifier, .rightParen, .kwIf, .leftParen, .identifier,
      .rightParen, .identifier, .semicolon, .kwElse, .identifier, .semicolon].map bareToken
    let inner := Stmt.branch (.var name) (.expression (.var name)) (some (.expression (.var name)))
    (∀ token ∈ body, token.kind ≠ .eof) ∧ (bareToken .eof).kind = .eof ∧
      Derives (.block .top) body [.branch (.var name) inner none] ∧
      ∀ others, Derives (.block .top) body others → others = [.branch (.var name) inner none] := by
  intro name body inner
  have proper : ∀ token ∈ body, token.kind ≠ .eof := by decide
  have isEnd : (bareToken .eof).kind = .eof := rfl
  obtain ⟨accepted, unique⟩ :=
    parse_clean_iff_derives proper isEnd [.branch (.var name) inner none]
  have derives := accepted.mp ⟨rfl, rfl⟩
  exact ⟨proper, isEnd, derives, fun others => unique others derives⟩

end Lox.Program
