import Lox.Proofs.Token.Partition

/-!
# Reading tokens again

The characters of a token, with a blank or nothing behind them, are read as that token again: no
gap begins there, and the token does not go on. So the tokens of any source can be written out with
spaces between them and read back.
-/

namespace Lox.Token

open Lox.Text

variable {chars rest : List Char} {kind : Kind} {literal : Option Literal}

/-! ## One token -/

/-- No comment begins with a token, since a slash that begins one is all of it. -/
theorem Spells.slash_alone (spells : Spells ('/' :: rest) kind literal) : rest = [] := by
  obtain ⟨lexeme, read, whole, -⟩ := spells.read?_self
  rw [Lexeme.read?_of_mark (show Kind.ofMark? '/' = some .slash from rfl)] at read
  cases rest with
  | nil => rfl
  | cons d rest =>
    have noPair : Kind.ofMarkPair? '/' d = none := rfl
    simp only [Lexeme.mark?, noPair] at read
    cases read
    cases whole

theorem Spells.not_blank {c : Char} (spells : Spells (c :: rest) kind literal) :
    isBlank c = false := by
  cases blank : isBlank c with
  | false => rfl
  | true =>
    obtain ⟨lexeme, read, -⟩ := spells.read?_self
    rw [Lexeme.read?_of_separates (separates_of_isBlank blank)] at read
    cases read

/-- A token has no gap in front of it. -/
theorem Spells.gapItem? (spells : Spells chars kind literal)
    (ends : ∀ c ∈ rest.head?, isBlank c = true) : gapItem? (chars ++ rest) = none := by
  obtain ⟨c, tail, rfl⟩ := List.exists_cons_of_ne_nil spells.ne_nil
  have noMarker : ∀ d more, isBlank d = false → c = '/' → tail ++ rest ≠ d :: more := by
    rintro d more dark rfl same
    obtain rfl := spells.slash_alone
    have blank : isBlank d = true := ends d (by simp [show rest = d :: more from same])
    rw [dark] at blank
    cases blank
  rw [List.cons_append, gapItem?_of_no_comment (fun more => noMarker '/' more (by decide))
    (fun more => noMarker '*' more (by decide)), if_neg (by simp [spells.not_blank])]

/-- A token ends where a blank or nothing is behind it. -/
theorem Spells.read?_before (spells : Spells chars kind literal)
    (ends : ∀ c ∈ rest.head?, isBlank c = true) :
    ∃ lexeme : Lexeme (chars ++ rest), Lexeme.read? (chars ++ rest) = some lexeme ∧
      lexeme.taken = chars ∧ lexeme.rest = rest ∧ lexeme.kind = kind ∧
      lexeme.literal = literal := by
  obtain ⟨lexeme, read, whole, rfl, rfl⟩ := spells.read?_self
  have nothing : lexeme.rest = [] := by
    have parts := lexeme.whole
    rw [whole] at parts
    exact List.append_right_eq_self.mp parts
  cases rest with
  | nil =>
    rw [List.append_nil]
    exact ⟨lexeme, read, whole, nothing, rfl, rfl⟩
  | cons c more =>
    have separates := separates_of_isBlank (ends c rfl)
    refine ⟨_, Lexeme.read?_extend separates read more, whole, ?_, rfl, rfl⟩
    show lexeme.rest ++ c :: more = c :: more
    rw [nothing, List.nil_append]

theorem readPast_spelled (spells : Spells chars kind literal)
    (ends : ∀ c ∈ rest.head?, isBlank c = true) (start : Nat) :
    readPast (chars ++ rest) start =
      (readPast rest (start + byteLength chars)).addPiece ⟨kind, literal, chars, start⟩ := by
  obtain ⟨lexeme, read, taken, behind, rfl, rfl⟩ := spells.read?_before ends
  have first := readFrom_of_lexeme read start
  rw [taken, behind] at first
  rw [readPast, gap_of_none (spells.gapItem? ends)]
  exact first

theorem readPast_space (text : List Char) (start : Nat) :
    readPast (' ' :: text) start = readPast text (start + 1) := by
  have item : gapItem? (' ' :: text) = some ((Cut.empty text).push ' ') := by
    rw [gapItem?_of_no_comment (by simp) (by simp), if_pos isBlank_space]
  rw [readPast, gap_of_item item]
  show readFrom (gap text).rest (start + (1 + byteLength (gap text).taken)) = _
  rw [readPast, Nat.add_assoc]

theorem readPast_nil (start : Nat) : readPast [] start = ⟨[], [], true⟩ := by
  rw [readPast, gap_of_none rfl]
  show readFrom [] _ = _
  rw [readFrom]

/-! ## All tokens -/

namespace Piece

def Spelled (piece : Piece) : Prop := Spells piece.chars piece.kind piece.literal

/-- What a piece is, apart from where it stands. -/
def content (piece : Piece) : Kind × String × Option Literal :=
  (piece.kind, String.ofList piece.chars, piece.literal)

end Piece

/-- Pieces with spaces between them are read back. -/
theorem readPast_spaced {pieces : List Piece} (spelled : ∀ piece ∈ pieces, piece.Spelled)
    (start : Nat) :
    ∃ again, readPast ([' '].intercalate (pieces.map (·.chars))) start = ⟨again, [], true⟩ ∧
      again.map Piece.content = pieces.map Piece.content := by
  induction pieces generalizing start with
  | nil => exact ⟨[], readPast_nil start, rfl⟩
  | cons piece others ih =>
    obtain ⟨first, later⟩ := List.forall_mem_cons.mp spelled
    cases others with
    | nil =>
      have read := readPast_spelled first (show ∀ c ∈ [].head?, isBlank c = true by simp) start
      rw [List.append_nil, readPast_nil] at read
      rw [List.map_singleton, List.intercalate_singleton, read]
      exact ⟨_, rfl, rfl⟩
    | cons next others =>
      obtain ⟨again, read, same⟩ := ih later (start + byteLength piece.chars + 1)
      let behind := [' '].intercalate ((next :: others).map (·.chars))
      have text : [' '].intercalate ((piece :: next :: others).map (·.chars)) =
          piece.chars ++ ' ' :: behind := by
        simp [behind, List.intercalate_cons_cons]
      have ends : ∀ c ∈ (' ' :: behind).head?, isBlank c = true := by simp [isBlank_space]
      rw [text, readPast_spelled first ends, readPast_space, read]
      exact ⟨_, rfl, congrArg (piece.content :: ·) same⟩

/-- The tokens of a source other than its end come from pieces, each spelled as it is. -/
theorem scan_spelled (source : String) :
    ∃ pieces : List Piece, (∀ piece ∈ pieces, piece.Spelled) ∧
      (scan source).tokens.filter (·.kind ≠ .eof) =
        pieces.map (Piece.toToken (.ofText source.toList)) := by
  obtain ⟨pieces, kept, scanned⟩ := scan_tokens source
  refine ⟨pieces, ?_, ?_⟩
  · intro piece member
    obtain ⟨front, text, lexeme, -, found, rfl⟩ := readText_readIn _ piece (kept.subset member)
    exact Lexeme.read?_spells found
  · have all : (pieces.map (Piece.toToken (.ofText source.toList))).filter (·.kind ≠ .eof) =
        pieces.map (Piece.toToken (.ofText source.toList)) := by
      refine List.filter_eq_self.mpr fun token member => ?_
      obtain ⟨piece, found, rfl⟩ := List.mem_map.mp member
      exact decide_eq_true (readFrom_proper _ _ piece (kept.subset found)).not_eof
    rw [scanned, List.filter_append, all]
    simp [endOfText]

/-- The tokens of a source other than its end, written out with spaces between them, are read back
without errors: the kinds, the lexemes and the literals are the same, in the same order. -/
theorem scan_respaced (source : String) :
    let tokens := (scan source).tokens.filter (·.kind ≠ .eof)
    let respaced := " ".intercalate (tokens.map (·.lexeme))
    (scan respaced).errors = [] ∧
      (scan respaced).tokens.map content = tokens.map content ++ [(.eof, "", none)] := by
  intro tokens respaced
  obtain ⟨pieces, spelled, known⟩ := scan_spelled source
  have lexemes : (tokens.map (·.lexeme)).map String.toList = pieces.map (·.chars) := by
    rw [show tokens = _ from known, List.map_map, List.map_map]
    exact List.map_congr_left fun piece _ => piece.toList_lexeme_toToken _
  have text : respaced.toList = [' '].intercalate (pieces.map (·.chars)) := by
    rw [String.toList_intercalate, lexemes]
    rfl
  obtain ⟨again, read, same⟩ := readPast_spaced spelled 0
  rw [← text, ← readText_eq_readPast] at read
  have clean : (scan respaced).errors = [] := by
    simp [scan, read]
  refine ⟨clean, ?_⟩
  rw [(scan_of_clean clean).2, read, show tokens = _ from known, List.map_append, List.map_map,
    List.map_map]
  exact congrArg (· ++ _) same

/-- Without spaces between them, the first two tokens would begin a line comment, and the last three
would be one number. -/
theorem scan_respaced_operators :
    let source := "/ /*/1 . 2"
    let tokens := (scan source).tokens.filter (·.kind ≠ .eof)
    tokens.map (·.lexeme) = ["/", "/", "*", "/", "1", ".", "2"] ∧
      (scan "/ / * / 1 . 2").errors = [] ∧
      (scan "/ / * / 1 . 2").tokens.map content = tokens.map content ++ [(.eof, "", none)] := by
  have lexemes : ((scan "/ /*/1 . 2").tokens.filter (·.kind ≠ .eof)).map (·.lexeme) =
      ["/", "/", "*", "/", "1", ".", "2"] := by decide +kernel
  have read := scan_respaced "/ /*/1 . 2"
  simp only [lexemes] at read
  exact ⟨lexemes, read⟩

end Lox.Token
