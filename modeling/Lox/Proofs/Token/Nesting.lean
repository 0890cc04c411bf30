import Lox.Proofs.Token.Extension

/-!
# Comments and the count of their markers

Where a block comment ends can also be found by counting: an opening marker counts one up, an end
marker one down, and the comment ends where the count is back at zero. A comment that the count ends
is ended there by the scanner too. But the scanner takes an opening marker that nothing ends for
plain text, and if a slash stands right behind it, the star of the marker and that slash are an end
marker. So a comment may end that the count leaves open.
-/

namespace Lox.Token

open Lox.Text

/-- Reads markers from left to right, two characters each, and passes over all other characters one
by one. Gives what is left of the text where the count first comes back to zero. -/
def countOff : (depth : Nat) → (text : List Char) → Option (List Char)
  | _, [] => none
  | depth, '*' :: '/' :: rest => if depth = 1 then some rest else countOff (depth - 1) rest
  | depth, '/' :: '*' :: rest => countOff (depth + 1) rest
  | depth, _ :: rest => countOff depth rest

variable {text rest : List Char}

/-- To come down from `depth + more` is to come down by `depth` and then by `more`. -/
theorem countOff_add {depth more : Nat} (deep : 0 < depth) (deeper : 0 < more) :
    countOff (depth + more) text = (countOff depth text).bind (countOff more) := by
  fun_induction countOff depth text with
  | case1 => simp [countOff]
  | case2 rest =>
    rw [countOff, if_neg (by omega), Nat.add_sub_cancel_left]
    rfl
  | case3 depth rest other ih =>
    rw [countOff, if_neg (by omega), Nat.sub_add_comm (by omega), ih (by omega)]
  | case4 depth rest ih => rw [countOff, Nat.add_right_comm, ih (by omega)]
  | case5 depth c rest noEnd noMarker ih =>
    rw [countOff, ih deep]
    · exact noEnd
    · exact noMarker

/-- Inside a comment, an opening marker takes an end of its own, and then the comment takes one. -/
theorem countOff_marker (text : List Char) :
    countOff 1 ('/' :: '*' :: text) = (countOff 1 text).bind (countOff 1) := by
  rw [countOff, countOff_add Nat.one_pos Nat.one_pos]

/-! ## A comment that the count ends -/

theorem rest_commentBody?_of_countOff (counted : countOff 1 text = some rest) :
    (commentBody? text).map (·.rest) = some rest := by
  fun_induction commentBody? text generalizing rest with
  | case1 => cases counted
  | case2 after => exact counted
  | case3 body inner found within after =>
    rw [countOff_marker, Option.bind_eq_some_iff] at counted
    obtain ⟨behind, innerCounted, outerCounted⟩ := counted
    have same := within innerCounted
    rw [found] at same
    cases same
    rw [Option.map_map]
    exact after outerCounted
  | case4 after absent within =>
    rw [countOff_marker, Option.bind_eq_some_iff] at counted
    obtain ⟨behind, innerCounted, -⟩ := counted
    exact absurd (within innerCounted) (by simp [absent])
  | case5 body absent noSlash within =>
    rw [countOff_marker, Option.bind_eq_some_iff] at counted
    obtain ⟨behind, innerCounted, -⟩ := counted
    exact absurd (within innerCounted) (by simp [absent])
  | case6 c body noEnd noMarker after =>
    rw [countOff] at counted
    · rw [Option.map_map]
      exact after counted
    · exact noEnd
    · exact noMarker

/-! ## Comments that the count leaves open -/

/-- The count ends the inside of a comment where the scanner does, or neither ends it. -/
def CountedRight (text : List Char) : Prop :=
  (commentBody? text).map (·.rest) = countOff 1 text

/-- The count ends each opening marker that has a slash right behind it. -/
def SlashesCounted (text : List Char) : Prop :=
  ∀ after, '/' :: '*' :: '/' :: after <:+ text → countOff 1 ('/' :: after) ≠ none

theorem SlashesCounted.suffix (counted : SlashesCounted text) (behind : rest <:+ text) :
    SlashesCounted rest :=
  fun after inside => counted after (inside.trans behind)

theorem SlashesCounted.countedRight (counted : SlashesCounted text) : CountedRight text := by
  unfold CountedRight
  fun_induction commentBody? text with
  | case1 => rfl
  | case2 after => rfl
  | case3 body inner found within after =>
    have inside : body <:+ '/' :: '*' :: body := ⟨['/', '*'], rfl⟩
    have behind : inner.rest <:+ body := ⟨inner.taken, inner.whole⟩
    have innerCounted := within (counted.suffix inside)
    rw [found] at innerCounted
    rw [countOff_marker, ← innerCounted, Option.map_map]
    exact after (counted.suffix (behind.trans inside))
  | case4 after absent within =>
    have inside : '/' :: after <:+ '/' :: '*' :: '/' :: after := ⟨['/', '*'], rfl⟩
    have uncounted := within (counted.suffix inside)
    rw [absent] at uncounted
    exact absurd uncounted.symm (counted after List.suffix_rfl)
  | case5 body absent noSlash within =>
    have inside : body <:+ '/' :: '*' :: body := ⟨['/', '*'], rfl⟩
    have uncounted := within (counted.suffix inside)
    rw [absent] at uncounted
    rw [countOff_marker, ← uncounted]
    rfl
  | case6 c body noEnd noMarker after =>
    rw [countOff, Option.map_map]
    · exact after (counted.suffix (List.suffix_cons c body))
    · exact noEnd
    · exact noMarker

/-- An opening marker with a slash right behind it ends the comment around it, if nothing ends the
comment that it opens. -/
theorem not_countedRight_of_slash {after : List Char} (uncounted : countOff 1 ('/' :: after) = none)
    (right : CountedRight ('/' :: after)) : ¬ CountedRight ('/' :: '*' :: '/' :: after) := by
  have absent : commentBody? ('/' :: after) = none :=
    Option.map_eq_none_iff.mp (right.trans uncounted)
  unfold CountedRight
  rw [countOff_marker, uncounted, commentBody?, absent]
  simp

theorem slashesCounted_iff : SlashesCounted text ↔ ∀ body, body <:+ text → CountedRight body := by
  constructor
  · exact fun counted body inside => (counted.suffix inside).countedRight
  · intro right after inside uncounted
    have behind : '/' :: after <:+ '/' :: '*' :: '/' :: after := ⟨['/', '*'], rfl⟩
    exact not_countedRight_of_slash uncounted (right _ (behind.trans inside)) (right _ inside)

theorem rest_gapItem?_marker (text : List Char) :
    (gapItem? ('/' :: '*' :: text)).map (·.rest) = (commentBody? text).map (·.rest) := by
  rw [gapItem?, Option.map_map]
  rfl

/-- A comment that the count ends is ended there. And the scanner goes by the count behind each
opening marker with a part of `text` behind it exactly if the count ends each opening marker of
`text` that has a slash right behind it. -/
theorem comment_ends_with_count (text : List Char) :
    (∀ rest, countOff 0 ('/' :: '*' :: text) = some rest →
      (gapItem? ('/' :: '*' :: text)).map (·.rest) = some rest) ∧
    ((∀ body, body <:+ text →
        (gapItem? ('/' :: '*' :: body)).map (·.rest) = countOff 0 ('/' :: '*' :: body)) ↔
      ∀ after, '/' :: '*' :: '/' :: after <:+ text →
        countOff 0 ('/' :: '*' :: '/' :: after) ≠ none) := by
  have first : ∀ body, countOff 0 ('/' :: '*' :: body) = countOff 1 body := fun _ => rfl
  simp only [first, rest_gapItem?_marker]
  exact ⟨fun rest => rest_commentBody?_of_countOff, slashesCounted_iff.symm⟩

/-- In `/*/*/` two comments are opened and none is ended, as the count has it. To the scanner all of
it is one comment. -/
theorem slash_behind_marker_ends_comment :
    countOff 0 "/*/*/".toList = none ∧ (gapItem? "/*/*/".toList).map (·.rest) = some [] ∧
      scan "/*/*/" = ⟨[endOfText 1 5], []⟩ := by
  exact ⟨by decide, by cbv, by decide +kernel⟩

end Lox.Token
