import Lox.Proofs.Token.Gap
import Lox.Proofs.Token.Joining
import Lox.Proofs.Token.Spelling

/-!
# Tokens and gaps make up the source

Every token of a source stands where it says, is the longest token there, and is what its characters
spell. The tokens follow each other in the text without overlapping, and on lines that never go
back. If nothing is wrong with the source, only gaps are between them.
-/

namespace Lox.Token

open Lox.Text

/-! ## Pieces -/

namespace Piece

/-- The offset behind the last byte. -/
def stop (piece : Piece) : Nat := piece.start + byteLength piece.chars

/-- The piece is what is read in a source where it stands. -/
def ReadIn (source : List Char) (piece : Piece) : Prop :=
  ∃ (front text : List Char) (lexeme : Lexeme text), source = front ++ text ∧
    Lexeme.read? text = some lexeme ∧
    piece = ⟨lexeme.kind, lexeme.literal, lexeme.taken, byteLength front⟩

end Piece

theorem readFrom_readIn {source text : List Char} {start : Nat}
    (place : RestAt source start text) :
    ∀ piece ∈ (readFrom text start).pieces, piece.ReadIn source := by
  fun_induction readFrom text start with
  | case1 => simp
  | case2 start c rest lexeme found after ih =>
    have others := ih ((place.behind lexeme.toCut).behind after)
    obtain ⟨front, whole, rfl⟩ := place
    exact List.forall_mem_cons.mpr ⟨⟨front, _, lexeme, whole, found, rfl⟩, others⟩
  | case3 start c rest absent skipped resumed ih => exact ih (place.tail.behind skipped)
  | case4 => simp

theorem readText_readIn (text : List Char) :
    ∀ piece ∈ (readText text).pieces, piece.ReadIn text :=
  readFrom_readIn (restAt_gap text)

theorem readFrom_starts (text : List Char) (start : Nat) :
    ∀ piece ∈ (readFrom text start).pieces, start ≤ piece.start := by
  fun_induction readFrom text start with
  | case1 => simp
  | case2 start c rest lexeme found after ih =>
    refine List.forall_mem_cons.mpr ⟨Nat.le_refl _, fun piece member => ?_⟩
    have := ih piece member
    omega
  | case3 start c rest absent skipped resumed ih =>
    intro piece member
    have := ih piece member
    omega
  | case4 => simp

/-- Each piece ends before the next begins. -/
theorem readFrom_ordered (text : List Char) (start : Nat) :
    (readFrom text start).pieces.Pairwise fun first second => first.stop ≤ second.start := by
  fun_induction readFrom text start with
  | case1 => exact .nil
  | case2 start c rest lexeme found after ih =>
    refine .cons (fun piece member => ?_) ih
    have := readFrom_starts _ _ piece member
    show start + byteLength lexeme.taken ≤ piece.start
    omega
  | case3 start c rest absent skipped resumed ih => exact ih
  | case4 => exact .nil

/-! ## Gaps -/

/-- From one offset of a text to the other there is a gap. -/
def GapBetween (text : List Char) (start stop : Nat) : Prop :=
  ∃ front chars rest, text = front ++ chars ++ rest ∧ byteLength front = start ∧
    byteLength (front ++ chars) = stop ∧ IsGap chars rest

theorem RestAt.gapBetween {source text : List Char} {start : Nat}
    (place : RestAt source start text) :
    GapBetween source start (start + byteLength (gap text).taken) := by
  obtain ⟨front, rfl, rfl⟩ := place
  refine ⟨front, (gap text).taken, (gap text).rest, ?_, rfl, byteLength_append _ _, gap_isGap text⟩
  rw [List.append_assoc, (gap text).whole]

/-- A gap is in front of every piece and in front of the end. -/
theorem readFrom_gaps {source text : List Char} {start : Nat} {before : Span}
    (place : RestAt source start text) (clean : (readFrom text start).strays = [])
    (gapBefore : GapBetween source before.stop start) :
    (before :: ((readFrom text start).pieces.map (fun piece => ⟨piece.start, piece.stop⟩) ++
      [⟨byteLength source, byteLength source⟩])).IsChain
        fun left right => GapBetween source left.stop right.start := by
  fun_induction readFrom text start generalizing before with
  | case1 start =>
    obtain ⟨front, rfl, rfl⟩ := place
    rw [List.append_nil] at gapBefore ⊢
    exact .cons_cons gapBefore (.singleton _)
  | case2 start c rest lexeme found after =>
    rename_i ih
    have behind := place.behind lexeme.toCut
    exact .cons_cons gapBefore (ih (behind.behind after) clean behind.gapBetween)
  | case3 => cases clean
  | case4 => cases clean

/-! ## Tokens -/

/-- A token that stands in a text right behind `front` and before `back`. -/
structure StandsBetween (front back : List Char) (token : Token) : Prop where
  span : token.span = ⟨byteLength front, byteLength (front ++ token.lexeme.toList)⟩
  nonempty : token.span.start < token.span.stop
  spelled : Spells token.lexeme.toList token.kind token.literal
  /-- The characters alone determine what the token is. -/
  determined : ∀ kind literal, Spells token.lexeme.toList kind literal →
    kind = token.kind ∧ literal = token.literal
  longest : ∀ chars kind literal, Spells chars kind literal →
    chars <+: token.lexeme.toList ++ back → chars.length ≤ token.lexeme.toList.length
  quoted : token.kind = .string →
    ∃ body, token.lexeme = "\"" ++ body ++ "\"" ∧ token.literal = some (.string body)
  /-- A string counts the line feeds before its closing quote. -/
  line : token.line =
    1 + (front ++ if token.kind = .string then token.lexeme.toList.dropLast else []).count '\n'

theorem byteLength_pos {chars : List Char} (nonempty : chars ≠ []) : 0 < byteLength chars :=
  Nat.pos_of_ne_zero fun zero => nonempty (byteLength_eq_zero.mp zero)

/-- The line feeds before a token, or before the closing quote of a string, tell its line. -/
theorem Spells.lineOf {chars : List Char} {kind : Kind} {literal : Option Literal}
    (spells : Spells chars kind literal) (front back : List Char) :
    (LineIndex.ofText (front ++ chars ++ back)).lineOf
        (if kind = .string then byteLength front + byteLength chars - 1 else byteLength front) =
      1 + (front ++ if kind = .string then chars.dropLast else []).count '\n' := by
  by_cases isString : kind = .string
  · subst isString
    obtain ⟨body, rfl, -⟩ := spells.quoted
    have inner : ('"' :: (body ++ ['"'])).dropLast = '"' :: body := by
      rw [← List.cons_append, List.dropLast_concat]
    have place : byteLength front + byteLength ('"' :: (body ++ ['"'])) - 1 =
        byteLength (front ++ '"' :: body) := by
      have quote : '"'.utf8Size = 1 := rfl
      simp only [byteLength_append, byteLength_cons, byteLength_nil, quote]
      omega
    have split : front ++ '"' :: (body ++ ['"']) ++ back =
        (front ++ '"' :: body) ++ '"' :: back := by
      simp
    rw [if_pos rfl, if_pos rfl, inner, place, split, LineIndex.lineOf_boundary]
  · rw [if_neg isString, if_neg isString, List.append_nil, List.append_assoc,
      LineIndex.lineOf_boundary]

@[simp] theorem Piece.toList_lexeme_toToken (index : LineIndex) (piece : Piece) :
    (piece.toToken index).lexeme.toList = piece.chars :=
  String.toList_ofList

theorem Piece.ReadIn.stands {source : List Char} {piece : Piece} (read : piece.ReadIn source) :
    ∃ front back, source = front ++ piece.chars ++ back ∧
      (piece.toToken (.ofText source)).StandsBetween front back := by
  obtain ⟨front, text, lexeme, rfl, found, rfl⟩ := read
  have spelled := Lexeme.read?_spells found
  have size := byteLength_pos lexeme.nonempty
  have whole : front ++ text = front ++ lexeme.taken ++ lexeme.rest := by
    rw [List.append_assoc, lexeme.whole]
  refine ⟨front, lexeme.rest, whole, ?_⟩
  constructor
  · rw [toList_lexeme_toToken, byteLength_append]
    rfl
  · show byteLength front < byteLength front + byteLength lexeme.taken
    omega
  · rw [toList_lexeme_toToken]
    exact spelled
  · rw [toList_lexeme_toToken]
    exact fun kind literal again => spelled.unique again
  · rw [toList_lexeme_toToken, lexeme.whole]
    exact fun chars kind literal spells begins => Lexeme.read?_longest found spells begins
  · intro isString
    rw [show lexeme.kind = .string from isString] at spelled
    obtain ⟨body, taken, literal⟩ := spelled.quoted
    refine ⟨.ofList body, String.toList_inj.mp ?_, literal⟩
    rw [toList_lexeme_toToken, taken]
    simp
  · rw [toList_lexeme_toToken, whole]
    exact spelled.lineOf front lexeme.rest

/-! ## Sources -/

/-- The tokens of a source: some of its pieces in their order, and the end. -/
theorem scan_tokens (source : String) :
    ∃ pieces : List Piece, pieces.Sublist (readText source.toList).pieces ∧
      (scan source).tokens = pieces.map (Piece.toToken (.ofText source.toList)) ++
        [endOfText (LineIndex.ofText source.toList).lineCount (byteLength source.toList)] := by
  by_cases complete : (readText source.toList).complete = true
  · exact ⟨_, .refl _, by simp [scan, complete]⟩
  · exact ⟨[], List.nil_sublist _, by simp [scan, complete]⟩

/-- The byte that tells the line of a piece is one of the piece. -/
theorem Piece.lineOffset_bounds {piece : Piece} (proper : piece.Proper) :
    piece.start ≤ (if piece.kind = .string then piece.stop - 1 else piece.start) ∧
      (if piece.kind = .string then piece.stop - 1 else piece.start) ≤ piece.stop := by
  have size := byteLength_pos proper.nonempty
  unfold Piece.stop
  split <;> omega

theorem scan_lines (source : String) :
    (scan source).tokens.Pairwise fun first second => first.line ≤ second.line := by
  obtain ⟨pieces, kept, tokens⟩ := scan_tokens source
  have ordered := (readFrom_ordered _ _).sublist kept
  have proper : ∀ piece ∈ pieces, piece.Proper :=
    fun piece member => readFrom_proper _ _ piece (kept.subset member)
  rw [tokens, List.pairwise_append]
  refine ⟨List.pairwise_map.mpr ?_, List.pairwise_singleton _ _, ?_⟩
  · refine ordered.imp_of_mem fun {first second} inFirst inSecond order => ?_
    have before := (Piece.lineOffset_bounds (proper first inFirst)).2
    have behind := (Piece.lineOffset_bounds (proper second inSecond)).1
    exact LineIndex.lineOf_mono _ (before.trans (order.trans behind))
  · intro token member last isLast
    obtain ⟨piece, found, rfl⟩ := List.mem_map.mp member
    have inside := ((readText_standsIn source.toList).pieces piece (kept.subset found)).stop_le
    have before := (Piece.lineOffset_bounds (proper piece found)).2
    rw [List.mem_singleton.mp isLast]
    show _ ≤ (LineIndex.ofText source.toList).lineCount
    rw [LineIndex.lineCount_eq_lineOf]
    exact LineIndex.lineOf_mono _ (before.trans inside)

theorem scan_gaps {source : String} (clean : (scan source).errors = []) :
    (Span.nowhere :: (scan source).tokens.map (·.span)).IsChain fun left right =>
      GapBetween source.toList left.stop right.start := by
  obtain ⟨noStrays, tokens⟩ := scan_of_clean clean
  have start : RestAt source.toList 0 source.toList := ⟨[], rfl, rfl⟩
  have first := start.gapBetween
  rw [Nat.zero_add] at first
  rw [tokens, List.map_append, List.map_map]
  exact readFrom_gaps (restAt_gap source.toList) noStrays first

/-- The tokens of a source stand in it one after another, and each is the longest token that its
place allows, with the kind, the literal and the line that the text gives it; the end stands behind
the text. The lines never go back. If the source has no lexical errors, there are only gaps before,
between and behind its tokens. -/
theorem scan_partitions (source : String) :
    let text := source.toList
    ∃ tokens, (scan source).tokens =
        tokens ++ [endOfText (1 + text.count '\n') (byteLength text)] ∧
      (∀ token ∈ tokens, token.kind ≠ .eof ∧ ∃ front back,
        text = front ++ token.lexeme.toList ++ back ∧ token.StandsBetween front back) ∧
      tokens.Pairwise (fun first second => first.span.stop ≤ second.span.start) ∧
      (scan source).tokens.Pairwise (fun first second => first.line ≤ second.line) ∧
      ((scan source).errors = [] →
        (Span.nowhere :: (scan source).tokens.map (·.span)).IsChain fun left right =>
          GapBetween text left.stop right.start) := by
  intro text
  obtain ⟨pieces, kept, tokens⟩ := scan_tokens source
  rw [LineIndex.lineCount_ofText] at tokens
  refine ⟨_, tokens, ?_, ?_, scan_lines source, scan_gaps⟩
  · intro token member
    obtain ⟨piece, found, rfl⟩ := List.mem_map.mp member
    obtain ⟨front, back, whole, stands⟩ := (readText_readIn text piece (kept.subset found)).stands
    refine ⟨(readFrom_proper _ _ piece (kept.subset found)).not_eof, front, back, ?_, stands⟩
    rw [Piece.toList_lexeme_toToken]
    exact whole
  · exact List.pairwise_map.mpr ((readFrom_ordered _ _).sublist kept)

end Lox.Token
