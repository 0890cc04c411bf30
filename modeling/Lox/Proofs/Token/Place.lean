import Lox.Proofs.Diagnostic.Rendering
import Lox.Token.Scan

/-!
# Where tokens stand

Each piece that is read is cut out of the source at the offset it is given, and each stray is a
character of the source at its offset. So the spans of tokens and of lexical errors are spans of
parts of the source.
-/

namespace Lox.Token

open Lox.Text

/-- What a token is, apart from where it stands. -/
def content (token : Token) : Kind × String × Option Literal :=
  (token.kind, token.lexeme, token.literal)

/-- The characters stand in a text at the given offset. -/
def StandsAt (text : List Char) (start : Nat) (chars : List Char) : Prop :=
  ∃ front back, text = front ++ chars ++ back ∧ byteLength front = start

theorem StandsAt.partOf {text chars : List Char} {start : Nat}
    (stands : StandsAt text start chars) :
    Span.PartOf text ⟨start, start + byteLength chars⟩ := by
  obtain ⟨front, back, whole, rfl⟩ := stands
  exact ⟨front, chars, back, whole, rfl⟩

theorem partOf_end (text : List Char) : Span.PartOf text ⟨byteLength text, byteLength text⟩ :=
  ⟨text, [], [], by simp, rfl⟩

/-- What is read stands where it is said to stand. -/
structure Reading.StandsIn (source : List Char) (reading : Reading) : Prop where
  pieces : ∀ piece ∈ reading.pieces, StandsAt source piece.start piece.chars
  strays : ∀ stray ∈ reading.strays, StandsAt source stray.offset [stray.found]

namespace Reading.StandsIn

variable {source : List Char} {reading : Reading} (stands : reading.StandsIn source)

include stands

theorem addPiece {piece : Piece} (first : StandsAt source piece.start piece.chars) :
    (reading.addPiece piece).StandsIn source :=
  ⟨List.forall_mem_cons.mpr ⟨first, stands.pieces⟩, stands.strays⟩

theorem addStray {stray : Stray} (first : StandsAt source stray.offset [stray.found]) :
    (reading.addStray stray).StandsIn source :=
  ⟨stands.pieces, List.forall_mem_cons.mpr ⟨first, stands.strays⟩⟩

end Reading.StandsIn

/-- The text is what stands in a source from the given offset on. -/
def RestAt (source : List Char) (start : Nat) (text : List Char) : Prop :=
  ∃ front, source = front ++ text ∧ byteLength front = start

namespace RestAt

variable {source text : List Char} {start : Nat}

theorem behind (place : RestAt source start text) (cut : Cut text) :
    RestAt source (start + byteLength cut.taken) cut.rest := by
  obtain ⟨front, rfl, rfl⟩ := place
  refine ⟨front ++ cut.taken, ?_, byteLength_append _ _⟩
  rw [List.append_assoc, cut.whole]

theorem tail {c : Char} (place : RestAt source start (c :: text)) :
    RestAt source (start + c.utf8Size) text :=
  place.behind ((Cut.empty text).push c)

theorem standsAt (place : RestAt source start text) (cut : Cut text) :
    StandsAt source start cut.taken := by
  obtain ⟨front, rfl, size⟩ := place
  exact ⟨front, cut.rest, by rw [List.append_assoc, cut.whole], size⟩

end RestAt

/-- Reading begins behind the first gap. -/
theorem restAt_gap (text : List Char) : RestAt text (byteLength (gap text).taken) (gap text).rest :=
  ⟨(gap text).taken, (gap text).whole.symm, rfl⟩

theorem readFrom_standsIn {source text : List Char} {start : Nat}
    (place : RestAt source start text) : (readFrom text start).StandsIn source := by
  fun_induction readFrom text start with
  | case1 => exact ⟨by simp, by simp⟩
  | case2 start c rest lexeme _ after ih =>
    exact (ih ((place.behind lexeme.toCut).behind after)).addPiece (place.standsAt lexeme.toCut)
  | case3 start c rest _ skipped _ ih =>
    exact (ih (place.tail.behind skipped)).addStray (place.standsAt ((Cut.empty rest).push c))
  | case4 start c rest =>
    exact ⟨by simp, List.forall_mem_singleton.mpr (place.standsAt ((Cut.empty rest).push c))⟩

theorem readText_standsIn (text : List Char) : (readText text).StandsIn text :=
  readFrom_standsIn (restAt_gap text)

theorem scan_tokens_partOf {source : String} {token : Token}
    (member : token ∈ (scan source).tokens) :
    token.span.PartOf source.toList := by
  rcases List.mem_append.mp member with read | last
  · obtain ⟨piece, kept, rfl⟩ := List.mem_map.mp read
    have found : piece ∈ (readText source.toList).pieces := by
      split at kept
      · exact kept
      · cases kept
    exact ((readText_standsIn source.toList).pieces piece found).partOf
  · rw [List.mem_singleton.mp last]
    exact partOf_end source.toList

theorem scan_errors_partOf {source : String} {error : LexicalError}
    (member : error ∈ (scan source).errors) : error.span.PartOf source.toList := by
  obtain ⟨stray, found, rfl⟩ := List.mem_map.mp member
  have stands := (readText_standsIn source.toList).strays stray found
  unfold Stray.locate
  split
  · exact partOf_end source.toList
  · exact stands.partOf

end Lox.Token
