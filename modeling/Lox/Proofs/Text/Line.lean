import Mathlib.Data.List.Basic
import Lox.Text.Line

/-!
# Lines by bisection

The table of line starts increases, so bisection finds how many of them lie at or before an offset.
In a text made of two texts with a line feed between them, the offsets of the first keep their
lines, and those of the second are as many lines further down as there are line feeds before it.
-/

namespace Lox.Text

/-! ## The table of line starts -/

theorem laterLineStarts_append (front back : List Char) (offset : Nat) :
    laterLineStarts (front ++ back) offset =
      laterLineStarts front offset ++ laterLineStarts back (offset + byteLength front) := by
  induction front generalizing offset with
  | nil => rfl
  | cons c rest ih =>
    simp only [List.cons_append, laterLineStarts, byteLength_cons, ih, Nat.add_assoc]
    split <;> rfl

theorem laterLineStarts_add (text : List Char) (offset shift : Nat) :
    laterLineStarts text (offset + shift) = (laterLineStarts text offset).map (· + shift) := by
  induction text generalizing offset with
  | nil => rfl
  | cons c rest ih =>
    have next : offset + shift + c.utf8Size = offset + c.utf8Size + shift := by omega
    simp only [laterLineStarts, next, ih]
    split <;> rfl

theorem length_laterLineStarts (text : List Char) (offset : Nat) :
    (laterLineStarts text offset).length = text.count '\n' := by
  induction text generalizing offset with
  | nil => rfl
  | cons c rest ih =>
    unfold laterLineStarts
    by_cases isEnd : c = '\n'
    · simp [isEnd, ih]
    · simp [isEnd, ih]

/-- A line begins behind its line feed, and not behind the text. -/
theorem laterLineStarts_range {text : List Char} {offset start : Nat}
    (member : start ∈ laterLineStarts text offset) :
    offset < start ∧ start ≤ offset + byteLength text := by
  induction text generalizing offset with
  | nil => cases member
  | cons c rest ih =>
    have positive := Char.utf8Size_pos c
    have later : start ∈ laterLineStarts rest (offset + c.utf8Size) →
        offset < start ∧ start ≤ offset + (c.utf8Size + byteLength rest) := by
      intro inside
      have := ih inside
      omega
    unfold laterLineStarts at member
    split at member
    · rcases List.mem_cons.mp member with rfl | inside
      · simp only [byteLength_cons]
        omega
      · exact later inside
    · exact later member

theorem laterLineStarts_increase (text : List Char) (offset : Nat) :
    (laterLineStarts text offset).Pairwise (· < ·) := by
  induction text generalizing offset with
  | nil => exact .nil
  | cons c rest ih =>
    unfold laterLineStarts
    split
    · exact .cons (fun start member => (laterLineStarts_range member).1) (ih _)
    · exact ih _

/-! ## Bisection -/

/-- In a list that increases, the entries up to an offset stand in front. -/
theorem getElem_le_iff_lt_countP {starts : List Nat} (increase : starts.Pairwise (· < ·))
    (offset : Nat) {i : Nat} (inside : i < starts.length) :
    starts[i] ≤ offset ↔ i < starts.countP (· ≤ offset) := by
  induction increase generalizing i with
  | nil => cases inside
  | @cons start rest before _ ih =>
    by_cases first : start ≤ offset
    · cases i with
      | zero => simp [first]
      | succ i => simp [first, ih (Nat.lt_of_succ_lt_succ inside)]
    · have none : rest.countP (· ≤ offset) = 0 := by
        rw [List.countP_eq_zero]
        intro later member
        have := before later member
        simp only [decide_eq_true_eq]
        omega
      cases i with
      | zero => simp [first, none]
      | succ i =>
        have := before _ (List.getElem_mem (Nat.lt_of_succ_lt_succ inside))
        simp only [List.getElem_cons_succ, List.countP_cons, none, first]
        simp
        omega

namespace LineIndex

/-- Where the entries increase, bisection finds the last of those up to `offset`, if it is `offset`,
and else that `offset` belongs behind it. -/
theorem searchBetween_eq {starts : Array Nat} {offset last : Nat}
    (increase : ∀ i j, i < j → j < starts.size → starts.getD i 0 < starts.getD j 0)
    (passes : ∀ i, i < starts.size → (starts.getD i 0 ≤ offset ↔ i ≤ last)) {low high : Nat}
    (above : low ≤ last + 1) (below : last < high) (inside : high ≤ starts.size)
    (before : ∀ i, i < low → starts.getD i 0 < offset) :
    searchBetween starts offset low high =
      if starts.getD last 0 = offset then .found last else .missing (last + 1) := by
  fun_induction searchBetween starts offset low high with
  | case1 low high nonempty middle start same =>
    have reached : middle ≤ last := (passes middle (by omega)).mp (Nat.le_of_eq same)
    -- An entry behind it would lie beyond the offset.
    obtain rfl : middle = last := by
      by_contra differ
      have later := increase middle last (by omega) (by omega)
      have early := (passes last (by omega)).mpr (Nat.le_refl last)
      omega
    rw [if_pos same]
  | case2 low high nonempty middle start _ less ih =>
    have reached : middle ≤ last := (passes middle (by omega)).mp (Nat.le_of_lt less)
    refine ih (by omega) below inside fun i early => ?_
    rcases Nat.lt_succ_iff_lt_or_eq.mp early with earlier | rfl
    · exact Nat.lt_trans (increase i middle earlier (by omega)) less
    · exact less
  | case3 low high nonempty middle start differ more ih =>
    have beyond : ¬ middle ≤ last := fun reached => by
      have := (passes middle (by omega)).mpr reached
      omega
    exact ih above (by omega) (by omega) before
  | case4 low high empty =>
    rw [if_neg (Nat.ne_of_lt (before last (by omega)))]
    congr
    omega

theorem getD_starts_ofText {text : List Char} {i : Nat}
    (inside : i < (0 :: laterLineStarts text 0).length) :
    (ofText text).starts.getD i 0 = (0 :: laterLineStarts text 0)[i] := by
  simp only [ofText, Array.getD_eq_getD_getElem?, List.getElem?_toArray]
  rw [List.getElem?_eq_getElem inside]
  rfl

/-- The search for an offset comes to the last line that begins at or before it. -/
theorem search_ofText (text : List Char) (offset : Nat) :
    (ofText text).search offset =
      let last := (laterLineStarts text 0).countP (· ≤ offset)
      if (ofText text).starts.getD last 0 = offset then .found last else .missing (last + 1) := by
  have increase : (0 :: laterLineStarts text 0).Pairwise (· < ·) :=
    .cons (fun start member => (laterLineStarts_range member).1) (laterLineStarts_increase text 0)
  have size : (ofText text).starts.size = (laterLineStarts text 0).length + 1 := rfl
  have counted : (0 :: laterLineStarts text 0).countP (· ≤ offset) =
      (laterLineStarts text 0).countP (· ≤ offset) + 1 := by
    simp
  have fewer : (laterLineStarts text 0).countP (· ≤ offset) ≤ (laterLineStarts text 0).length :=
    List.countP_le_length
  refine searchBetween_eq ?_ ?_ (Nat.zero_le _) (by omega) (Nat.le_refl _)
    fun i absurd => (Nat.not_lt_zero i absurd).elim
  · intro i j before inside
    rw [getD_starts_ofText (by simp; omega), getD_starts_ofText (by simp; omega)]
    exact List.pairwise_iff_getElem.mp increase i j _ _ before
  · intro i inside
    rw [getD_starts_ofText (by simp; omega),
      getElem_le_iff_lt_countP increase offset, counted, Nat.lt_succ_iff]

/-- The line of an offset is the number of lines that begin at or before it. -/
theorem lineOf_ofText (text : List Char) (offset : Nat) :
    (ofText text).lineOf offset = 1 + (laterLineStarts text 0).countP (· ≤ offset) := by
  rw [lineOf, search_ofText, Nat.add_comm]
  dsimp only
  split_ifs with begins
  · rfl
  · rfl

theorem lineCount_ofText (text : List Char) : (ofText text).lineCount = 1 + text.count '\n' := by
  simp [lineCount, ofText, length_laterLineStarts, Nat.add_comm]

/-- The line of a boundary counts the line feeds before it. -/
theorem lineOf_boundary (front back : List Char) :
    (ofText (front ++ back)).lineOf (byteLength front) = 1 + front.count '\n' := by
  have before : (laterLineStarts front 0).countP (· ≤ byteLength front) = front.count '\n' := by
    rw [← length_laterLineStarts front 0, List.countP_eq_length]
    intro start member
    have := laterLineStarts_range member
    simp only [decide_eq_true_eq]
    omega
  have behind :
      (laterLineStarts back (0 + byteLength front)).countP (· ≤ byteLength front) = 0 := by
    rw [List.countP_eq_zero]
    intro start member
    have := laterLineStarts_range member
    simp only [decide_eq_true_eq]
    omega
  rw [lineOf_ofText, laterLineStarts_append, List.countP_append, before, behind, Nat.add_zero]

theorem lineOf_mono (text : List Char) {earlier later : Nat} (order : earlier ≤ later) :
    (ofText text).lineOf earlier ≤ (ofText text).lineOf later := by
  rw [lineOf_ofText, lineOf_ofText]
  refine Nat.add_le_add_left (List.countP_mono_left ?_) 1
  intro start _ reached
  simp only [decide_eq_true_eq] at reached ⊢
  omega

theorem lineCount_eq_lineOf (text : List Char) :
    (ofText text).lineCount = (ofText text).lineOf (byteLength text) := by
  have boundary := lineOf_boundary text []
  rw [List.append_nil] at boundary
  rw [lineCount_ofText, boundary]

/-! ## Two texts with a line feed between them -/

theorem laterLineStarts_joined (front back : List Char) :
    laterLineStarts (front ++ '\n' :: back) 0 =
      laterLineStarts front 0 ++
        (byteLength front + 1) :: (laterLineStarts back 0).map (· + (byteLength front + 1)) := by
  have size : '\n'.utf8Size = 1 := rfl
  have shifted := laterLineStarts_add back 0 (byteLength front + 1)
  rw [laterLineStarts_append, Nat.zero_add, laterLineStarts, if_pos rfl, size]
  rw [Nat.zero_add] at shifted
  rw [shifted]

theorem lineOf_joined_left (front back : List Char) {offset : Nat}
    (inside : offset ≤ byteLength front) :
    (ofText (front ++ '\n' :: back)).lineOf offset = (ofText front).lineOf offset := by
  have later : ((laterLineStarts back 0).map (· + (byteLength front + 1))).countP (· ≤ offset) =
      0 := by
    rw [List.countP_eq_zero]
    intro start member
    obtain ⟨old, -, rfl⟩ := List.mem_map.mp member
    simp only [decide_eq_true_eq]
    omega
  have next : ¬ byteLength front + 1 ≤ offset := by omega
  rw [lineOf_ofText, lineOf_ofText, laterLineStarts_joined, List.countP_append, List.countP_cons,
    later]
  simp [next]

theorem lineOf_joined_right (front back : List Char) (offset : Nat) :
    (ofText (front ++ '\n' :: back)).lineOf (offset + (byteLength front + 1)) =
      (ofText back).lineOf offset + (1 + front.count '\n') := by
  have earlier : (laterLineStarts front 0).countP (· ≤ offset + (byteLength front + 1)) =
      front.count '\n' := by
    rw [← length_laterLineStarts front 0, List.countP_eq_length]
    intro start member
    have := laterLineStarts_range member
    simp only [decide_eq_true_eq]
    omega
  have shifted : ((laterLineStarts back 0).map (· + (byteLength front + 1))).countP
      (· ≤ offset + (byteLength front + 1)) = (laterLineStarts back 0).countP (· ≤ offset) := by
    rw [List.countP_map]
    congr 1
    funext start
    simp
  have next : byteLength front + 1 ≤ offset + (byteLength front + 1) := by omega
  rw [lineOf_ofText, lineOf_ofText, laterLineStarts_joined, List.countP_append, List.countP_cons,
    earlier, shifted]
  simp [next]
  omega

theorem lineCount_joined (front back : List Char) :
    (ofText (front ++ '\n' :: back)).lineCount =
      (ofText back).lineCount + (1 + front.count '\n') := by
  rw [lineCount_ofText, lineCount_ofText, List.count_append, List.count_cons]
  simp
  omega

end LineIndex
end Lox.Text
