import Lox.Proofs.Text.Boundary
import Lox.Proofs.Text.Line

/-!
# Lines by a walk

The walk over a text and the bisection in the table of line starts find the same line for every
offset, also for one inside a character or beyond the text: both count the line feeds before it. At
the boundaries of a text, in order, the positions come in order too, so a position has one boundary.
-/

namespace Lox.Text

/-! ## The characters before an offset -/

/-- The characters of a text that begin before a byte offset. -/
def beginningBefore : List Char → (offset : Nat) → List Char
  | [], _ => []
  | c :: rest, offset => if offset = 0 then [] else c :: beginningBefore rest (offset - c.utf8Size)

@[simp] theorem beginningBefore_zero (text : List Char) : beginningBefore text 0 = [] := by
  cases text <;> simp [beginningBefore]

/-- Before a boundary the characters are those in front of it. -/
theorem beginningBefore_boundary (front back : List Char) :
    beginningBefore (front ++ back) (byteLength front) = front := by
  induction front with
  | nil => simp
  | cons c rest ih =>
    have positive := Char.utf8Size_pos c
    have beyond : c.utf8Size + byteLength rest ≠ 0 := by omega
    rw [List.cons_append, byteLength_cons, beginningBefore, if_neg beyond,
      Nat.add_sub_cancel_left, ih]

/-! ## Positions -/

/-- Earlier in the order of reading. -/
def Position.Precedes (first second : Position) : Prop :=
  first.line < second.line ∨ first.line = second.line ∧ first.column < second.column

/-- The position behind a text that begins at `position`. -/
def Position.behind (position : Position) (text : List Char) : Position :=
  text.foldl Position.after position

namespace Position

theorem Precedes.trans {first second third : Position} (before : first.Precedes second)
    (after : second.Precedes third) : first.Precedes third := by
  unfold Precedes at *
  omega

theorem Precedes.ne {first second : Position} (before : first.Precedes second) :
    first ≠ second := by
  rintro rfl
  unfold Precedes at before
  omega

theorem precedes_after (position : Position) (c : Char) : position.Precedes (position.after c) := by
  by_cases isEnd : c = '\n' <;> simp [Precedes, after, isEnd]

@[simp] theorem behind_nil (position : Position) : position.behind [] = position := rfl

@[simp] theorem behind_cons (position : Position) (c : Char) (rest : List Char) :
    position.behind (c :: rest) = (position.after c).behind rest := rfl

theorem behind_append (position : Position) (front back : List Char) :
    position.behind (front ++ back) = (position.behind front).behind back :=
  List.foldl_append

theorem precedes_behind (position : Position) (c : Char) (rest : List Char) :
    position.Precedes (position.behind (c :: rest)) := by
  induction rest generalizing position c with
  | nil => exact precedes_after position c
  | cons d rest ih => exact (precedes_after position c).trans (ih (position.after c) d)

theorem line_behind (position : Position) (text : List Char) :
    (position.behind text).line = position.line + text.count '\n' := by
  induction text generalizing position with
  | nil => simp
  | cons c rest ih =>
    by_cases isEnd : c = '\n'
    · simp [ih, after, isEnd]
      omega
    · simp [ih, after, isEnd]

/-- On one line the column counts characters. -/
theorem behind_of_single {text : List Char} (single : '\n' ∉ text) (position : Position) :
    position.behind text = ⟨position.line, position.column + text.length⟩ := by
  induction text generalizing position with
  | nil => simp
  | cons c rest ih =>
    simp only [List.mem_cons, not_or] at single
    have goesOn : c ≠ '\n' := Ne.symm single.1
    simp [ih single.2, after, goesOn]
    omega

/-- The walk passes the characters that begin before the offset. -/
theorem walk_eq_behind (text : List Char) (start offset : Nat) (position : Position) :
    walk text start offset position =
      position.behind (beginningBefore text (offset - start)) := by
  induction text generalizing start position with
  | nil => simp [walk, beginningBefore]
  | cons c rest ih =>
    by_cases passed : offset ≤ start
    · have reached : offset - start = 0 := by omega
      simp [walk, passed, reached]
    · have before : offset - start ≠ 0 := by omega
      have left : offset - (start + c.utf8Size) = offset - start - c.utf8Size := by omega
      simp [walk, passed, beginningBefore, before, ih, left]

end Position

theorem positionOf_eq_behind (text : List Char) (offset : Nat) :
    positionOf text offset = Position.first.behind (beginningBefore text offset) :=
  Position.walk_eq_behind text 0 offset Position.first

theorem positionOf_boundary (front back : List Char) :
    positionOf (front ++ back) (byteLength front) = Position.first.behind front := by
  rw [positionOf_eq_behind, beginningBefore_boundary]

/-! ## Line feeds before an offset -/

theorem count_laterLineStarts (text : List Char) (start offset : Nat) :
    (laterLineStarts text start).countP (· ≤ offset) =
      (beginningBefore text (offset - start)).count '\n' := by
  induction text generalizing start with
  | nil => simp [laterLineStarts, beginningBefore]
  | cons c rest ih =>
    have positive := Char.utf8Size_pos c
    have left : offset - (start + c.utf8Size) = offset - start - c.utf8Size := by omega
    by_cases passed : offset ≤ start
    · have reached : offset - start = 0 := by omega
      have none : (laterLineStarts (c :: rest) start).countP (· ≤ offset) = 0 := by
        rw [List.countP_eq_zero]
        intro later member
        have := (laterLineStarts_range member).1
        simp only [decide_eq_true_eq]
        omega
      simp [none, reached]
    · have before : offset - start ≠ 0 := by omega
      by_cases isEnd : c = '\n'
      · subst isEnd
        have size : '\n'.utf8Size = 1 := rfl
        have counted : start + '\n'.utf8Size ≤ offset := by omega
        simp [laterLineStarts, beginningBefore, before, ih, left, counted]
      · simp [laterLineStarts, beginningBefore, before, ih, left, isEnd]

/-- The byte of a line feed is part of no other character. -/
theorem newline_mem_utf8EncodeChar {c : Char} (member : 10 ∈ String.utf8EncodeChar c) :
    c = '\n' := by
  have same : ∀ n : Nat, (10 : UInt8) = UInt8.ofNat n → n % 256 = 10 := by
    intro n equal
    simpa using (congrArg UInt8.toNat equal).symm
  have code : c.val.toNat = 10 := by
    -- All bytes of a longer form are at least 128.
    simp only [String.utf8EncodeChar] at member
    split_ifs at member <;> simp only [List.mem_cons, List.not_mem_nil, or_false] at member
    · have := same _ member
      omega
    · rcases member with byte | byte
      all_goals
        have := same _ byte
        omega
    · rcases member with byte | byte | byte
      all_goals
        have := same _ byte
        omega
    · rcases member with byte | byte | byte | byte
      all_goals
        have := same _ byte
        omega
  exact Char.ext (UInt32.toNat_inj.mp code)

theorem count_take_utf8EncodeChar (c : Char) (count : Nat) :
    ((String.utf8EncodeChar c).take count).count 10 =
      if count = 0 then 0 else [c].count '\n' := by
  by_cases isEnd : c = '\n'
  · subst isEnd
    have single : String.utf8EncodeChar '\n' = [10] := by decide
    cases count <;> simp [single]
  · have absent : 10 ∉ (String.utf8EncodeChar c).take count :=
      fun member => isEnd (newline_mem_utf8EncodeChar (List.mem_of_mem_take member))
    simp [List.count_eq_zero_of_not_mem absent, isEnd]

/-- The bytes of a text before an offset have as many line feeds as the characters that begin before
it. -/
theorem count_take_utf8 (text : List Char) (offset : Nat) :
    ((text.flatMap String.utf8EncodeChar).take offset).count 10 =
      (beginningBefore text offset).count '\n' := by
  induction text generalizing offset with
  | nil => simp [beginningBefore]
  | cons c rest ih =>
    rw [List.flatMap_cons, List.take_append, List.count_append, count_take_utf8EncodeChar,
      String.length_utf8EncodeChar, ih]
    by_cases here : offset = 0
    · simp [here]
    · simp [beginningBefore, here, List.count_cons, Nat.add_comm]

theorem lineOf_eq_count (text : List Char) (offset : Nat) :
    (LineIndex.ofText text).lineOf offset = 1 + (beginningBefore text offset).count '\n' := by
  rw [LineIndex.lineOf_ofText, count_laterLineStarts, Nat.sub_zero]

theorem line_positionOf (text : List Char) (offset : Nat) :
    (positionOf text offset).line = 1 + (beginningBefore text offset).count '\n' := by
  rw [positionOf_eq_behind, Position.line_behind]
  rfl

/-! ## Positions of boundaries -/

/-- Of two boundaries, the earlier one has the earlier position. -/
theorem positionOf_precedes {text : List Char} {first second : Nat}
    (firstBoundary : IsBoundary text first) (secondBoundary : IsBoundary text second)
    (before : first < second) : (positionOf text first).Precedes (positionOf text second) := by
  obtain ⟨front, back, rfl, rfl⟩ := firstBoundary
  obtain ⟨more, rest, rfl, size⟩ := (isBoundary_append (Nat.le_of_lt before)).mp secondBoundary
  have whole : second = byteLength (front ++ more) := by
    rw [byteLength_append, size]
    omega
  cases more with
  | nil =>
    rw [byteLength_nil] at size
    omega
  | cons c tail =>
    rw [positionOf_boundary, whole, ← List.append_assoc, positionOf_boundary,
      Position.behind_append]
    exact Position.precedes_behind _ c tail

/-- The two ways to find a line agree at every offset, and both count the bytes before it that are
line feeds. At the boundaries of a source the positions increase, so no two boundaries have the same
one. -/
theorem line_lookups_agree (source : String) :
    let text := source.toList
    (∀ offset,
      (LineIndex.ofText text).lineOf offset = (positionOf text offset).line ∧
      (positionOf text offset).line = 1 + (source.toUTF8.data.toList.take offset).count 10) ∧
    ∀ first second, IsBoundary text first → IsBoundary text second →
      (first < second → (positionOf text first).Precedes (positionOf text second)) ∧
      (positionOf text first = positionOf text second → first = second) := by
  intro text
  have bytes : source.toUTF8.data.toList = text.flatMap String.utf8EncodeChar := by
    rw [show source.toUTF8 = text.utf8Encode from String.utf8Encode_toList.symm]
    exact List.toList_data_toByteArray
  constructor
  · intro offset
    rw [lineOf_eq_count, line_positionOf, bytes, count_take_utf8]
    exact ⟨rfl, rfl⟩
  · intro first second firstBoundary secondBoundary
    constructor
    · exact positionOf_precedes firstBoundary secondBoundary
    · intro same
      rcases Nat.lt_trichotomy first second with before | equal | after
      · exact absurd same (positionOf_precedes firstBoundary secondBoundary before).ne
      · exact equal
      · exact absurd same.symm (positionOf_precedes secondBoundary firstBoundary after).ne

end Lox.Text
