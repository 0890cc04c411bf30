import Mathlib.Data.List.Chain
import Lox.Proofs.Grammar.Neighbours
import Lox.Proofs.Session.Formation
import Lox.Proofs.Token.Skipping

/-!
# Comments that never end

Where blanks and comments are skipped and an opening marker stands whose comment never ends, the
scanner has nothing to report: it reads the marker as a slash and a star. But behind a slash an
expression begins, and none begins with a star. So no program has the two side by side, and a source
with such a marker is not run.
-/

namespace Lox

namespace Token

open Lox.Text

variable {text rest : List Char}

/-- The marker of a comment that never ends is read as two pieces, right where it stands. -/
theorem SkipsAt.reads_marker {target : List Char} (skips : SkipsAt text target)
    (isMarker : target = '/' :: '*' :: rest) (unended : gapItem? target = none) {start : Nat}
    (clean : (readPast text start).strays = []) :
    ∃ front place back, (readPast text start).pieces =
        front ++ ⟨.slash, none, ['/'], place⟩ :: ⟨.star, none, ['*'], place + 1⟩ :: back ∧
      place + byteLength target = start + byteLength text := by
  induction skips generalizing start with
  | here text =>
    subst isMarker
    rw [readPast_of_no_item unended, readFrom_slash_star]
    exact ⟨[], start, _, rfl, rfl⟩
  | @behindItem text target item found _ ih =>
    have size := byteLength_cut item
    rw [readPast_of_item found] at clean ⊢
    obtain ⟨front, place, back, pieces, sum⟩ := ih isMarker unended clean
    exact ⟨front, place, back, pieces, by omega⟩
  | @behindLexeme text target lexeme noItem found _ ih =>
    have size := byteLength_cut lexeme.toCut
    rw [readPast_of_no_item noItem, readFrom_of_lexeme found] at clean ⊢
    obtain ⟨front, place, back, pieces, sum⟩ := ih isMarker unended clean
    exact ⟨_ :: front, place, back, congrArg (List.cons _) pieces, by omega⟩
  | behindStray noItem stray =>
    rw [readPast_of_no_item noItem] at clean
    exact absurd clean (strays_of_no_lexeme stray start)

/-- The two tokens spell an opening marker that begins at byte `place`. -/
structure SpellMarker (place : Nat) (slash star : Token) : Prop where
  slashKind : slash.kind = .slash
  slashSpan : slash.span = ⟨place, place + 1⟩
  starKind : star.kind = .star
  starSpan : star.span = ⟨place + 1, place + 2⟩

theorem spellMarker_toToken (index : LineIndex) (place : Nat) :
    SpellMarker place (Piece.toToken index ⟨.slash, none, ['/'], place⟩)
      (Piece.toToken index ⟨.star, none, ['*'], place + 1⟩) :=
  ⟨rfl, rfl, rfl, rfl⟩

theorem SkipsAt.scans_marker {source : String} (skips : SkipsAt source.toList ('/' :: '*' :: rest))
    (unended : gapItem? ('/' :: '*' :: rest) = none) (clean : (scan source).errors = []) :
    ∃ front slash star back place,
      (scan source).tokens.takeWhile (·.kind ≠ .eof) = front ++ slash :: star :: back ∧
      SpellMarker place slash star ∧
      place + byteLength ('/' :: '*' :: rest) = byteLength source.toList := by
  have noStrays := (scan_of_clean clean).1
  rw [readText_eq_readPast] at noStrays
  obtain ⟨front, place, back, pieces, sum⟩ := skips.reads_marker rfl unended noStrays
  rw [Nat.zero_add] at sum
  rw [takeWhile_scan clean, readText_eq_readPast, pieces, List.map_append, List.map_cons,
    List.map_cons]
  exact ⟨_, _, _, _, place, rfl, spellMarker_toToken _ place, sum⟩

end Token

/-- No program has a star right behind a slash. -/
theorem Program.errors_of_slash_star {tokens front back : List Token} {slash star : Token}
    (split : tokens.takeWhile (·.kind ≠ .eof) = front ++ slash :: star :: back)
    (isSlash : slash.kind = .slash) (isStar : star.kind = .star) : (parse tokens).errors ≠ [] := by
  intro clean
  have chain := (derives_of_clean clean).slashesLead.isChain
  rw [split, List.isChain_append_cons_cons] at chain
  exact chain.2.1 isSlash isStar

open Token Text

/-- Whatever the tokens, a program with a star right behind a slash has errors. And a source in
which an opening marker is met, where blanks and comments are skipped, whose comment never ends, is
refused. If the scanner has nothing to report, the marker is a slash and a star among its tokens. -/
theorem open_comment_is_refused :
    (∀ (tokens front back : List Token) (slash star : Token),
      tokens.takeWhile (·.kind ≠ .eof) = front ++ slash :: star :: back →
      slash.kind = .slash → star.kind = .star → (Program.parse tokens).errors ≠ []) ∧
    ∀ (source : String) (rest : List Char), SkipsAt source.toList ('/' :: '*' :: rest) →
      gapItem? ('/' :: '*' :: rest) = none →
      (∃ diagnostics, compile source = .error diagnostics) ∧
      ((scan source).errors = [] → ∃ front slash star back place,
        (scan source).tokens.takeWhile (·.kind ≠ .eof) = front ++ slash :: star :: back ∧
        SpellMarker place slash star ∧
        place + byteLength ('/' :: '*' :: rest) = byteLength source.toList) := by
  constructor
  · intro tokens front back slash star split isSlash isStar
    exact Program.errors_of_slash_star split isSlash isStar
  · intro source rest skips unended
    refine ⟨?_, skips.scans_marker unended⟩
    cases compiled : compile source with
    | error diagnostics => exact ⟨diagnostics, rfl⟩
    | ok program =>
      obtain ⟨clean, parsed, -⟩ := compile_eq_ok compiled
      obtain ⟨front, slash, star, back, place, split, spell, -⟩ := skips.scans_marker unended clean
      exact absurd parsed (Program.errors_of_slash_star split spell.slashKind spell.starKind)

/-- In `nil; /* /* */` the second marker has an end, and the first has none. -/
theorem open_comment_is_refused_nested :
    SkipsAt "nil; /* /* */".toList ('/' :: '*' :: " /* */".toList) ∧
      gapItem? ('/' :: '*' :: " /* */".toList) = none ∧ (scan "nil; /* /* */").errors = [] ∧
      (∃ diagnostics, compile "nil; /* /* */" = .error diagnostics) ∧
      ∃ front slash star back,
        (scan "nil; /* /* */").tokens.takeWhile (·.kind ≠ .eof) = front ++ slash :: star :: back ∧
        SpellMarker 5 slash star := by
  have skips : SkipsAt "nil; /* /* */".toList ('/' :: '*' :: " /* */".toList) := by
    have word : (Lexeme.read? "nil; /* /* */".toList).map (·.rest) = some "; /* /* */".toList := by
      decide +kernel
    have mark : (Lexeme.read? "; /* /* */".toList).map (·.rest) = some " /* /* */".toList := by
      decide +kernel
    have blank : (gapItem? " /* /* */".toList).map (·.rest) = some "/* /* */".toList := by
      decide +kernel
    obtain ⟨first, readFirst, firstRest⟩ := Option.map_eq_some_iff.mp word
    obtain ⟨second, readSecond, secondRest⟩ := Option.map_eq_some_iff.mp mark
    obtain ⟨item, found, itemRest⟩ := Option.map_eq_some_iff.mp blank
    refine .behindLexeme rfl readFirst (firstRest ▸ ?_)
    refine .behindLexeme rfl readSecond (secondRest ▸ ?_)
    exact .behindItem found (itemRest ▸ .here _)
  have unended : gapItem? ('/' :: '*' :: " /* */".toList) = none := by decide +kernel
  have clean : (scan "nil; /* /* */").errors = [] := by decide +kernel
  obtain ⟨rejected, marker⟩ := open_comment_is_refused.2 _ _ skips unended
  obtain ⟨front, slash, star, back, place, split, spell, sum⟩ := marker clean
  obtain rfl : place = 5 := Nat.add_right_cancel (m := 8) sum
  exact ⟨skips, unended, clean, rejected, front, slash, star, back, split, spell⟩

end Lox
