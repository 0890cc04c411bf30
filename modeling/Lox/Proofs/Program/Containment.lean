import Lox.Proofs.Parser.Fragment
import Lox.Proofs.Program.Sequence

/-!
# A bad statement ends with its semicolon

Between texts without errors stands a list of tokens of which nothing is known but that it ends in
its only semicolon, has no braces, and has no keyword behind its first token at which another
statement would begin. Whatever is wrong with it, the statements around it are read as they would be
without it, and all errors are its own.
-/

namespace Lox.Parser

open Lox.Token (Kind)

/-- What is to be contained: the tokens in front of the semicolon, and the semicolon. -/
structure Confined (body : List Token) (semicolon : Token) : Prop where
  ends : semicolon.kind = .semicolon
  inside : ∀ token ∈ body, token.kind ∉ [Kind.semicolon, .leftBrace, .rightBrace, .eof]
  first : ∀ token ∈ body.head?, token.kind ∉ [Kind.kwFor, .kwElse]
  others : ∀ token ∈ body.tail, token.kind ∉
    [Kind.kwClass, .kwFun, .kwLet, .kwFor, .kwIf, .kwWhile, .kwPrint, .kwReturn]

variable {body tokens : List Token} {semicolon : Token}

theorem beginsStatement_eq_false {kind : Kind}
    (other : kind ∉ [Kind.kwClass, .kwFun, .kwLet, .kwFor, .kwIf, .kwWhile, .kwPrint, .kwReturn]) :
    beginsStatement kind = false := by
  cases kind <;> simp_all [beginsStatement]

theorem staysOpen_eq_true {kind : Kind}
    (inside : kind ∉ [Kind.semicolon, .leftBrace, .rightBrace, .eof]) (other : kind ≠ .kwFor) :
    staysOpen kind = true := by
  cases kind <;> simp_all [staysOpen]

/-- Only the first token may begin a statement, so only it could be a `for`. -/
theorem fragment_of_calm (ends : semicolon.kind = .semicolon)
    (inside : ∀ token ∈ body, token.kind ∉ [Kind.semicolon, .leftBrace, .rightBrace, .eof])
    (first : ∀ token ∈ body.head?, token.kind ≠ .kwFor)
    (calm : ∀ token ∈ body.tail, beginsStatement token.kind = false) :
    Fragment (body ++ [semicolon]) := by
  induction body with
  | nil => exact .last ends
  | cons token tail ih =>
    have stays : staysOpen token.kind = true :=
      staysOpen_eq_true (inside token List.mem_cons_self) (first token rfl)
    cases tail with
    | nil => exact .more stays (by rw [ends]; rfl) (.last ends)
    | cons next tail =>
      have nextCalm : beginsStatement next.kind = false := calm next List.mem_cons_self
      refine .more stays nextCalm (ih ?_ ?_ ?_)
      · exact fun token member => inside token (List.mem_cons_of_mem _ member)
      · rintro token ⟨⟩ isFor
        rw [isFor] at nextCalm
        cases nextCalm
      · exact fun token member => calm token (List.mem_cons_of_mem _ member)

namespace Confined

variable (confined : Confined body semicolon)

include confined

theorem fragment : Fragment (body ++ [semicolon]) := by
  apply fragment_of_calm confined.ends confined.inside
  · intro token head isFor
    exact confined.first token head (by simp [isFor])
  · exact fun token member => beginsStatement_eq_false (confined.others token member)

theorem proper : Lox.Grammar.Proper (body ++ [semicolon]) := by
  apply Lox.Grammar.proper_append.mpr
  constructor
  · intro token member isEnd
    exact confined.inside token member (by simp [isEnd])
  · simp [confined.ends]

theorem apart : headIs .kwElse (body ++ [semicolon]) = false := by
  cases body with
  | nil => simp [confined.ends]
  | cons token tail =>
    have head := confined.first token rfl
    simp_all

end Confined

/-! ## One declaration -/

/-- A state outside of all loops and routines. -/
def State.outside (rest : List Token) (ending : Token) (errors : List SyntaxError) : State :=
  { rest, ending, errors, loopDepth := 0, functionDepth := 0 }

theorem twins_before (fragment : Fragment tokens) (beyond : Beyond) {depth : Nat}
    (short : tokens.length ≤ depth) (ending : Token) :
    Alike beyond (fun left _ => left = [])
      (declaration (rules tokens.length) (.outside tokens ending []))
      (declaration (rules depth) (.outside (tokens ++ beyond.tokens) beyond.ending [])) :=
  twins_declaration (twin_rules (Nat.le_refl _) short) fragment (Nat.le_succ _) _ rfl

/-- One declaration reads a fragment that nothing follows, up to its end. -/
theorem declaration_alone (fragment : Fragment tokens) (ending : Token)
    (isEnd : ending.kind = .eof) :
    ∃ item errors, declaration (rules tokens.length) (.outside tokens ending []) =
        .ok item (.outside [] ending errors) ∧
      ∀ error ∈ errors, error.token ∈ tokens ++ [ending] := by
  let source : Source := ⟨tokens, ending, isEnd⟩
  have start : At source .top tokens (.outside tokens ending []) :=
    ⟨rfl, rfl, rfl, List.suffix_rfl⟩
  have reads := reads_declaration (rules_sound source tokens.length) (Nat.le_refl _) _ start
  have twins := twins_before fragment ⟨[], ending, rfl⟩ (Nat.le_refl _) ending
  cases result : declaration (rules tokens.length) (.outside tokens ending []) with
  | error error after =>
    unfold declaration at result
    split at result <;> cases result
  | ok item after =>
    rw [result] at reads twins
    obtain ⟨used, added, moved, -⟩ := reads
    have finished : after.rest = [] := twins.2
    have errors : after.errors = added := moved.errors
    refine ⟨item, added, ?_, ?_⟩
    · obtain ⟨rest, other, found, loops, routines⟩ := after
      cases finished
      cases errors
      cases moved.ending
      cases moved.loopDepth
      cases moved.functionDepth
      rfl
    · intro error member
      obtain ⟨⟨passed, whole, seen⟩, -⟩ := moved.blamed error member
      rw [finished, List.append_nil] at whole
      rw [finished, ← whole] at seen
      exact seen

/-- Whatever stands behind a fragment, a declaration makes the same of it. -/
theorem declaration_fragment (fragment : Fragment tokens) :
    ∃ item errors, (∀ error ∈ errors, error.token ∈ tokens) ∧
      ∀ {depth : Nat}, tokens.length ≤ depth → ∀ {late : List Token},
        headIs .kwElse late = false → ∀ ending : Token,
        declaration (rules depth) (.outside (tokens ++ late) ending []) =
          .ok item (.outside late ending errors) := by
  obtain ⟨item, errors, alone, -⟩ := declaration_alone fragment (.endOfText 1 0) rfl
  have before : ∀ {depth : Nat}, tokens.length ≤ depth → ∀ {late : List Token},
      headIs .kwElse late = false → ∀ ending : Token,
      declaration (rules depth) (.outside (tokens ++ late) ending []) =
        .ok item (.outside late ending errors) := by
    intro depth short late parted ending
    have twins := twins_before fragment ⟨late, ending, parted⟩ short (.endOfText 1 0)
    rw [alone] at twins
    exact twins.1
  refine ⟨item, errors, ?_, before⟩
  -- Another end gives the same errors, so none of them is blamed on the end.
  intro error member
  let ending := Token.endOfText (error.token.line + 1) 0
  obtain ⟨_, found, run, blamed⟩ := declaration_alone fragment ending rfl
  have same := before (Nat.le_refl _) (headIs_nil _) ending
  rw [List.append_nil, run] at same
  cases same
  rcases List.mem_append.mp (blamed error member) with own | isEnding
  · exact own
  · have line : error.token.line = error.token.line + 1 :=
      congrArg Token.line (List.mem_singleton.mp isEnding)
    omega

end Lox.Parser

namespace Lox.Program

open Lox.Grammar Lox.Parser

/-- A list of tokens that ends in its only semicolon, with no braces and no further beginnings of
statements in it, is contained between texts without errors: what it is read as by itself stands
between their statements, and its errors are the only ones, all at tokens of its own. -/
theorem bad_statement_is_contained {early late body : List Token} {semicolon : Token}
    (earlyProper : Proper early) (lateProper : Proper late) (earlyClean : (parse early).errors = [])
    (lateClean : (parse late).errors = []) (confined : Confined body semicolon) :
    let bad := body ++ [semicolon]
    parse (early ++ bad ++ late) =
      ⟨(parse early).statements ++ (parse bad).statements ++ (parse late).statements,
        (parse bad).errors⟩ ∧
    ∀ error ∈ (parse bad).errors, error.token ∈ bad := by
  intro bad
  obtain ⟨item, errors, own, reads⟩ := declaration_fragment confined.fragment
  have some_token : bad ≠ [] := by simp [bad]
  have between : ∀ {first last : List Token}, Proper first → Proper last →
      (parse first).errors = [] → (parse last).errors = [] →
      parse (first ++ bad ++ last) =
        ⟨(parse first).statements ++ item.toList ++ (parse last).statements, errors⟩ := by
    intro first last firstProper lastProper firstClean lastClean
    have parted : headIs .kwElse last = false := by
      rcases (derives_of_clean_proper lastProper lastClean).begins with rfl | begins
      · rfl
      · rw [← List.append_nil last]
        exact headIs_of_begins begins rfl []
    refine parse_around firstProper lastProper firstClean lastClean confined.proper confined.apart
      some_token ?_
    intro depth short state _ noLoop noFunction noErrors before
    have run := reads short parted state.ending
    obtain ⟨rest, ending, found, loops, routines⟩ := state
    cases before
    cases noErrors
    cases noLoop
    cases noFunction
    exact run
  have alone : parse bad = ⟨item.toList, errors⟩ := by
    have nothing : Proper [] := by simp
    have whole := between nothing nothing rfl rfl
    rw [List.nil_append, List.append_nil] at whole
    rw [whole]
    exact congrArg (Program.mk · errors) (List.append_nil _)
  rw [alone]
  exact ⟨between earlyProper lateProper earlyClean lateClean, own⟩

/-- In `print x; if (x) + ) else; x;` the second statement is lost with its two errors, one of which
ends it. -/
theorem bad_branch_is_contained :
    let name := bareToken .identifier
    let early := [.kwPrint, .identifier, .semicolon].map bareToken
    let body := [.kwIf, .leftParen, .identifier, .rightParen, .plus, .rightParen, .kwElse].map
      bareToken
    let late := [.identifier, .semicolon].map bareToken
    Confined body (bareToken .semicolon) ∧
      parse (early ++ (body ++ [bareToken .semicolon]) ++ late) =
        ⟨[.print (.var name), .expression (.var name)],
          [⟨.missingLeftOperand "", bareToken .plus⟩,
            ⟨.expected .expression, bareToken .rightParen⟩]⟩ := by
  intro name early body late
  have confined : Confined body (bareToken .semicolon) :=
    ⟨rfl, by decide, by decide, by decide⟩
  have earlyProper : Proper early := by simp [early, bareToken]
  have lateProper : Proper late := by simp [late, bareToken]
  exact ⟨confined, (bad_statement_is_contained earlyProper lateProper rfl rfl confined).1⟩

end Lox.Program
