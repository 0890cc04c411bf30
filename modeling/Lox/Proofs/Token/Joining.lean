import Mathlib.Data.List.Chain
import Lox.Proofs.Program.Relocation
import Lox.Proofs.Text.Line
import Lox.Proofs.Token.Extension
import Lox.Proofs.Token.Place

/-!
# Scanning two texts with a line feed between them

Two texts that are read without errors are read without errors also as one, and their tokens are
those of the first, in their places, and those of the second, as many lines and bytes further on as
the first takes. It is asked of the first that no star stands right behind a slash, since the text
behind could make a comment of the two, and that no opening marker has a slash right behind it.
-/

namespace Lox.Token

open Lox.Text

variable {text : List Char}

/-! ## Readings -/

/-- Reads a text that begins at byte `start`, with the gap in front. -/
def readPast (text : List Char) (start : Nat) : Reading :=
  readFrom (gap text).rest (start + byteLength (gap text).taken)

theorem readText_eq_readPast (text : List Char) : readText text = readPast text 0 := by
  simp only [readText, readPast, Nat.zero_add]

/-- Reads a lexeme, and then what is behind it. -/
theorem readFrom_of_lexeme {lexeme : Lexeme text} (found : Lexeme.read? text = some lexeme)
    (start : Nat) :
    readFrom text start =
      (readPast lexeme.rest (start + byteLength lexeme.taken)).addPiece
        ⟨lexeme.kind, lexeme.literal, lexeme.taken, start⟩ := by
  cases text with
  | nil => cases found
  | cons c rest =>
    unfold readFrom
    simp only [found]
    rfl

/-- A text that begins no lexeme has a stray in front. -/
theorem strays_of_no_lexeme {c : Char} {rest : List Char}
    (absent : Lexeme.read? (c :: rest) = none) (start : Nat) :
    (readFrom (c :: rest) start).strays ≠ [] := by
  unfold readFrom
  simp only [absent]
  split <;> exact List.cons_ne_nil _ _

/-- Only a text with a stray is not read to its end. -/
theorem complete_of_no_strays {text : List Char} {start : Nat}
    (clean : (readFrom text start).strays = []) : (readFrom text start).complete = true := by
  fun_induction readFrom text start with
  | case1 => rfl
  | case2 start c rest lexeme _ after ih => exact ih clean
  | case3 => cases clean
  | case4 => cases clean

def Piece.shift (bytes : Nat) (piece : Piece) : Piece :=
  { piece with start := piece.start + bytes }

def Reading.shift (bytes : Nat) (reading : Reading) : Reading :=
  { reading with
    pieces := reading.pieces.map (·.shift bytes)
    strays := reading.strays.map fun stray => { stray with offset := stray.offset + bytes } }

/-- What is read does not hang on the offset at which the text begins. -/
theorem readFrom_shift (text : List Char) (start bytes : Nat) :
    readFrom text (start + bytes) = (readFrom text start).shift bytes := by
  fun_induction readFrom text start with
  | case1 => rw [readFrom]; rfl
  | case2 start c rest lexeme found after ih =>
    have moved : start + bytes + byteLength lexeme.taken + byteLength after.taken =
        start + byteLength lexeme.taken + byteLength after.taken + bytes := by omega
    rw [readFrom_of_lexeme found, readPast, moved, ih]
    rfl
  | case3 start c rest absent skipped resumed ih =>
    have moved : start + bytes + c.utf8Size + byteLength skipped.taken =
        start + c.utf8Size + byteLength skipped.taken + bytes := by omega
    rw [readFrom]
    simp only [absent, resumed]
    rw [moved, ih]
    rfl
  | case4 start c rest absent stuck =>
    unfold readFrom
    simp only [absent, stuck]
    rfl

theorem readPast_shift (text : List Char) (start bytes : Nat) :
    readPast text (start + bytes) = (readPast text start).shift bytes := by
  rw [readPast, readPast, ← readFrom_shift, Nat.add_right_comm]

/-! ## Slashes and stars -/

theorem read?_slash_star (rest : List Char) :
    Lexeme.read? ('/' :: '*' :: rest) =
      some ⟨⟨['/'], '*' :: rest, rfl⟩, .slash, none, by simp⟩ := by
  rw [Lexeme.read?_of_symbol (by decide) (by decide), Lexeme.string?_of_ne (by decide)]
  rfl

theorem read?_star (rest : List Char) :
    Lexeme.read? ('*' :: rest) = some ⟨⟨['*'], rest, rfl⟩, .star, none, by simp⟩ := by
  rw [Lexeme.read?_of_symbol (by decide) (by decide), Lexeme.string?_of_ne (by decide)]
  cases rest <;> rfl

/-- An opening marker at which no gap begins is read as a slash and a star. -/
theorem readFrom_slash_star (rest : List Char) (start : Nat) :
    readFrom ('/' :: '*' :: rest) start =
      ((readPast rest (start + 2)).addPiece ⟨.star, none, ['*'], start + 1⟩).addPiece
        ⟨.slash, none, ['/'], start⟩ := by
  have noGap : gap ('*' :: rest) = Cut.empty ('*' :: rest) := by
    rw [gap_of_none]
    rw [gapItem?_of_no_comment (by simp) (by simp), if_neg (by decide)]
  rw [readFrom_of_lexeme (read?_slash_star rest), readPast, noGap,
    show (Cut.empty ('*' :: rest)).rest = '*' :: rest from rfl,
    readFrom_of_lexeme (read?_star rest)]
  rfl

/-! ## Two readings -/

def Reading.prepend (pieces : List Piece) (reading : Reading) : Reading :=
  { reading with pieces := pieces ++ reading.pieces }

/-- No star is right behind a slash. -/
def Apart (pieces : List Piece) : Prop :=
  pieces.IsChain fun first second => first.kind = .slash → second.kind ≠ .star

theorem Apart.no_marker {rest : List Char} {start : Nat}
    (apart : Apart (readFrom ('/' :: '*' :: rest) start).pieces) : False := by
  rw [readFrom_slash_star] at apart
  exact (List.isChain_cons_cons.mp apart).1 rfl rfl

theorem byteLength_cut (cut : Cut text) :
    byteLength cut.taken + byteLength cut.rest = byteLength text := by
  rw [← byteLength_append, cut.whole]

/-- A text that is one gap leaves all to the text behind it. -/
theorem readPast_joined_of_gap (plain : Plain text) (ends : (gap text).rest = []) (start : Nat)
    (more : List Char) :
    readPast (text ++ '\n' :: more) start = readPast more (start + (byteLength text + 1)) := by
  have moreSize := byteLength_cut (gap more)
  have joinedSize := byteLength_cut (gap (text ++ '\n' :: more))
  have whole : byteLength (text ++ '\n' :: more) = byteLength text + (1 + byteLength more) :=
    byteLength_append text _
  rw [rest_gap_joined plain more ends] at joinedSize
  have offset : start + byteLength (gap (text ++ '\n' :: more)).taken =
      start + (byteLength text + 1) + byteLength (gap more).taken := by omega
  rw [readPast, rest_gap_joined plain more ends, offset]
  rfl

/-- A text is read as before when a line feed and more text follow, which is then read in turn. -/
theorem readPast_joined (plain : Plain text) {start : Nat}
    (clean : (readPast text start).strays = []) (apart : Apart (readPast text start).pieces)
    (more : List Char) :
    readPast (text ++ '\n' :: more) start =
      (readPast more (start + (byteLength text + 1))).prepend (readPast text start).pieces := by
  -- Behind each lexeme there is a shorter text, with a gap in front.
  induction size : text.length using Nat.strongRecOn generalizing text start with
  | _ length ih =>
    cases stops : (gap text).rest with
    | nil =>
      have read : readPast text start = ⟨[], [], true⟩ := by rw [readPast, stops, readFrom]
      rw [read, readPast_joined_of_gap plain stops]
      rfl
    | cons c rest =>
      have shown : readPast text start =
          readFrom (c :: rest) (start + byteLength (gap text).taken) := by rw [readPast, stops]
      rw [shown] at clean apart ⊢
      have noMarker : ∀ after, c = '/' → rest ≠ '*' :: after := by
        rintro after rfl rfl
        exact apart.no_marker
      have extended : readPast (text ++ '\n' :: more) start =
          readFrom (c :: rest ++ '\n' :: more) (start + byteLength (gap text).taken) := by
        rw [readPast, gap_extend plain more stops noMarker, Cut.rest_extend, stops]
        rfl
      rw [extended]
      cases found : Lexeme.read? (c :: rest) with
      | none => exact absurd clean (strays_of_no_lexeme found _)
      | some lexeme =>
        have gapSize := byteLength_cut (gap text)
        have lexemeSize := byteLength_cut lexeme.toCut
        have gapLength := (gap text).rest_length_le
        have lexemeLength := lexeme.rest_length_lt lexeme.nonempty
        have plainRest := plain.rest (gap text)
        rw [stops] at gapSize gapLength plainRest
        rw [readFrom_of_lexeme found] at clean apart ⊢
        have extendedFound := Lexeme.read?_extend (separates_of_isBlank isBlank_newline) found more
        rw [readFrom_of_lexeme extendedFound]
        have later := ih lexeme.rest.length (by omega) (plainRest.rest lexeme.toCut) clean
          (List.IsChain.of_cons apart) rfl
        rw [show start + byteLength (gap text).taken + byteLength lexeme.taken +
          (byteLength lexeme.rest + 1) = start + (byteLength text + 1) by omega] at later
        exact congrArg (Reading.addPiece _) later

theorem readText_joined {front : List Char} (plain : Plain front)
    (clean : (readText front).strays = []) (apart : Apart (readText front).pieces)
    (back : List Char) :
    readText (front ++ '\n' :: back) =
      ((readText back).shift (byteLength front + 1)).prepend (readText front).pieces := by
  rw [readText_eq_readPast] at clean apart
  rw [readText_eq_readPast, readText_eq_readPast back, readText_eq_readPast front,
    readPast_joined plain clean apart, readPast_shift]

/-! ## Pieces -/

/-- A piece has characters and does not stand for the end. -/
structure Piece.Proper (piece : Piece) : Prop where
  nonempty : piece.chars ≠ []
  not_eof : piece.kind ≠ .eof

theorem Kind.ofReserved?_ne_eof {word : String} {kind : Kind}
    (found : Kind.ofReserved? word = some kind) : kind ≠ .eof := by
  have all : ∀ entry ∈ Kind.reserved, entry.2 ≠ .eof := by decide
  exact all (word, kind) (mem_reserved_of_ofReserved? found)

theorem Kind.ofMark?_ne_eof {c : Char} {kind : Kind} (found : Kind.ofMark? c = some kind) :
    kind ≠ .eof := by
  unfold Kind.ofMark? at found
  split at found <;> cases found <;> decide

theorem Kind.ofMarkPair?_ne_eof {c d : Char} {kind : Kind}
    (found : Kind.ofMarkPair? c d = some kind) : kind ≠ .eof := by
  unfold Kind.ofMarkPair? at found
  split at found <;> cases found <;> decide

theorem Lexeme.number?_ne_eof {lexeme : Lexeme text} (found : number? text = some lexeme) :
    lexeme.kind ≠ .eof := by
  rw [number?_eq, numberOf?] at found
  split at found
  · cases found
    simp
  · cases found

theorem Lexeme.string?_ne_eof {lexeme : Lexeme text} (found : string? text = some lexeme) :
    lexeme.kind ≠ .eof := by
  cases text with
  | nil => cases found
  | cons c rest =>
    by_cases isQuote : c = '"'
    · subst isQuote
      rw [string?_quote, stringOf?] at found
      split at found
      · cases found
        simp
      · cases found
    · rw [string?_of_ne isQuote] at found
      cases found

theorem Lexeme.word?_ne_eof {lexeme : Lexeme text} (found : word? text = some lexeme) :
    lexeme.kind ≠ .eof := by
  cases text with
  | nil => cases found
  | cons c rest =>
    rw [word?_cons] at found
    split at found
    · cases found
      simp only [wordOf]
      cases reserved : Kind.ofReserved? _ with
      | some kind => exact Kind.ofReserved?_ne_eof reserved
      | none => simp
    · cases found

theorem Lexeme.mark?_ne_eof {lexeme : Lexeme text} (found : mark? text = some lexeme) :
    lexeme.kind ≠ .eof := by
  unfold mark? at found
  split at found
  · split at found
    · next pair =>
      cases found
      exact Kind.ofMarkPair?_ne_eof pair
    · obtain ⟨kind, mark, rfl⟩ := Option.map_eq_some_iff.mp found
      exact Kind.ofMark?_ne_eof mark
  · obtain ⟨kind, mark, rfl⟩ := Option.map_eq_some_iff.mp found
    exact Kind.ofMark?_ne_eof mark
  · cases found

theorem Lexeme.read?_ne_eof {lexeme : Lexeme text} (found : Lexeme.read? text = some lexeme) :
    lexeme.kind ≠ .eof := by
  simp only [read?, Option.orElse_eq_orElse, Option.orElse_eq_or, Option.or_eq_some_iff] at found
  rcases found with number | ⟨-, string | ⟨-, word | ⟨-, mark⟩⟩⟩
  · exact number?_ne_eof number
  · exact string?_ne_eof string
  · exact word?_ne_eof word
  · exact mark?_ne_eof mark

theorem readFrom_proper (text : List Char) (start : Nat) :
    ∀ piece ∈ (readFrom text start).pieces, piece.Proper := by
  fun_induction readFrom text start with
  | case1 => simp
  | case2 start c rest lexeme found after ih =>
    exact List.forall_mem_cons.mpr ⟨⟨lexeme.nonempty, Lexeme.read?_ne_eof found⟩, ih⟩
  | case3 start c rest absent skipped resumed ih => exact ih
  | case4 => simp

/-! ## Tokens -/

theorem StandsAt.stop_le {chars : List Char} {start : Nat} (stands : StandsAt text start chars) :
    start + byteLength chars ≤ byteLength text := by
  obtain ⟨front, back, rfl, rfl⟩ := stands
  rw [byteLength_append, byteLength_append]
  omega

/-- The place of a piece of the first text is the same in both. -/
theorem toToken_joined_left (front back : List Char) {piece : Piece}
    (inside : piece.start + byteLength piece.chars ≤ byteLength front) :
    piece.toToken (.ofText (front ++ '\n' :: back)) = piece.toToken (.ofText front) := by
  unfold Piece.toToken
  simp only
  rw [LineIndex.lineOf_joined_left]
  split <;> omega

/-- The place of a piece of the second text is moved by the first. -/
theorem toToken_joined_right (front back : List Char) {piece : Piece} (proper : piece.Proper) :
    (piece.shift (byteLength front + 1)).toToken (.ofText (front ++ '\n' :: back)) =
      (piece.toToken (.ofText back)).relocate
        (.shift (1 + front.count '\n') (byteLength front + 1)) := by
  have size : 0 < byteLength piece.chars := by
    obtain ⟨c, rest, same⟩ := List.exists_cons_of_ne_nil proper.nonempty
    have := Char.utf8Size_pos c
    rw [same, byteLength_cons]
    omega
  have line := LineIndex.lineOf_joined_right front back
    (if piece.kind = .string then piece.start + byteLength piece.chars - 1 else piece.start)
  have stop : piece.start + (byteLength front + 1) + byteLength piece.chars =
      piece.start + byteLength piece.chars + (byteLength front + 1) := by omega
  have place : (if piece.kind = .string then
        piece.start + byteLength piece.chars + (byteLength front + 1) - 1
      else piece.start + (byteLength front + 1)) =
      (if piece.kind = .string then piece.start + byteLength piece.chars - 1 else piece.start) +
        (byteLength front + 1) := by
    split <;> omega
  simp only [Piece.toToken, Piece.shift, Token.relocate, Relocation.shift, stop, place, line]

theorem tokens_joined_left (front back : List Char) :
    (readText front).pieces.map (Piece.toToken (.ofText (front ++ '\n' :: back))) =
      (readText front).pieces.map (Piece.toToken (.ofText front)) := by
  apply List.map_congr_left
  intro piece member
  exact toToken_joined_left front back ((readText_standsIn front).pieces piece member).stop_le

theorem tokens_joined_right (front back : List Char) :
    ((readText back).pieces.map (·.shift (byteLength front + 1))).map
        (Piece.toToken (.ofText (front ++ '\n' :: back))) =
      ((readText back).pieces.map (Piece.toToken (.ofText back))).map
        (·.relocate (.shift (1 + front.count '\n') (byteLength front + 1))) := by
  rw [List.map_map, List.map_map]
  apply List.map_congr_left
  intro piece member
  exact toToken_joined_right front back (readFrom_proper _ _ piece member)

theorem endOfText_joined (front back : List Char) :
    endOfText (LineIndex.ofText (front ++ '\n' :: back)).lineCount
        (byteLength (front ++ '\n' :: back)) =
      (endOfText (LineIndex.ofText back).lineCount (byteLength back)).relocate
        (.shift (1 + front.count '\n') (byteLength front + 1)) := by
  have size : byteLength (front ++ '\n' :: back) = byteLength back + (byteLength front + 1) := by
    rw [byteLength_append, byteLength_cons, show '\n'.utf8Size = 1 from rfl]
    omega
  rw [LineIndex.lineCount_joined, size]
  rfl

/-- The tokens of a source without errors: its pieces and the end. -/
theorem scan_of_clean {source : String} (clean : (scan source).errors = []) :
    (readText source.toList).strays = [] ∧
      (scan source).tokens =
        (readText source.toList).pieces.map (Piece.toToken (.ofText source.toList)) ++
          [endOfText (LineIndex.ofText source.toList).lineCount (byteLength source.toList)] := by
  have noStrays : (readText source.toList).strays = [] := List.map_eq_nil_iff.mp clean
  have complete : (readText source.toList).complete = true := complete_of_no_strays noStrays
  refine ⟨noStrays, ?_⟩
  simp [scan, complete]

/-- The tokens before the end are the pieces. -/
theorem takeWhile_scan {source : String} (clean : (scan source).errors = []) :
    (scan source).tokens.takeWhile (·.kind ≠ .eof) =
      (readText source.toList).pieces.map (Piece.toToken (.ofText source.toList)) := by
  have proper : ∀ token ∈ (readText source.toList).pieces.map
      (Piece.toToken (.ofText source.toList)), decide (token.kind ≠ .eof) = true := by
    intro token member
    obtain ⟨piece, found, rfl⟩ := List.mem_map.mp member
    exact decide_eq_true (readFrom_proper _ _ piece found).not_eof
  rw [(scan_of_clean clean).2, List.takeWhile_append_of_pos proper]
  simp [endOfText]

/-- The two sources as one: the tokens of the first before its end, and those of the second, moved
on by the first and the line feed. -/
theorem scan_joined {first second : String} (plain : Plain first.toList)
    (clean : (scan first).errors = []) (laterClean : (scan second).errors = [])
    (apart : ((scan first).tokens.takeWhile (·.kind ≠ .eof)).IsChain
      fun left right => left.kind = .slash → right.kind ≠ .star) :
    scan (first ++ "\n" ++ second) =
      ⟨(scan first).tokens.takeWhile (·.kind ≠ .eof) ++
        (scan second).tokens.map (·.relocate
          (.shift (1 + first.toList.count '\n') (byteLength first.toList + 1))), []⟩ := by
  obtain ⟨noStrays, -⟩ := scan_of_clean clean
  obtain ⟨laterNoStrays, laterTokens⟩ := scan_of_clean laterClean
  rw [takeWhile_scan clean] at apart ⊢
  rw [laterTokens]
  have text : (first ++ "\n" ++ second).toList = first.toList ++ '\n' :: second.toList := by
    simp
  have read := readText_joined plain noStrays ((List.isChain_map _).mp apart) second.toList
  have errors : (scan (first ++ "\n" ++ second)).errors = [] := by
    simp only [scan, text, read]
    simp [Reading.prepend, Reading.shift, laterNoStrays]
  have tokens := (scan_of_clean errors).2
  rw [text, read] at tokens
  have parts : scan (first ++ "\n" ++ second) =
      ⟨(scan (first ++ "\n" ++ second)).tokens, (scan (first ++ "\n" ++ second)).errors⟩ := rfl
  rw [parts, errors, tokens]
  simp only [Reading.prepend, Reading.shift]
  rw [List.map_append, tokens_joined_left, tokens_joined_right, endOfText_joined, List.map_append,
    List.append_assoc]
  rfl

end Lox.Token
