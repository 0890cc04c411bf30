import Lox.Text.Offset
import Lox.Text.Span

/-!
# Boundaries

Where a text can be cut, and which spans can be cut out of it.
-/

namespace Lox.Text

/-- The offset lies between two characters of the text, or at one of its ends. -/
def IsBoundary (text : List Char) (offset : Nat) : Prop :=
  ∃ front back, text = front ++ back ∧ byteLength front = offset

theorem byteLength_eq_zero {text : List Char} : byteLength text = 0 ↔ text = [] := by
  cases text with
  | nil => simp
  | cons c rest =>
    have positive := Char.utf8Size_pos c
    simp only [byteLength_cons, reduceCtorEq, iff_false]
    omega

theorem isBoundary_zero (text : List Char) : IsBoundary text 0 :=
  ⟨[], text, rfl, rfl⟩

/-- Behind a cut the boundaries are those of the rest. -/
theorem isBoundary_append {front back : List Char} {offset : Nat}
    (behind : byteLength front ≤ offset) :
    IsBoundary (front ++ back) offset ↔ IsBoundary back (offset - byteLength front) := by
  constructor
  · rintro ⟨taken, rest, same, rfl⟩
    rcases List.append_eq_append_iff.mp same with ⟨more, rfl, rfl⟩ | ⟨more, rfl, rfl⟩
    · exact ⟨more, rest, rfl, by rw [byteLength_append, Nat.add_sub_cancel_left]⟩
    · rw [byteLength_append] at behind ⊢
      have nothing : byteLength more = 0 := by omega
      rw [byteLength_eq_zero.mp nothing]
      exact ⟨[], back, rfl, by simp⟩
  · rintro ⟨taken, rest, rfl, size⟩
    refine ⟨front ++ taken, rest, by rw [List.append_assoc], ?_⟩
    rw [byteLength_append, size]
    omega

theorem dropBytes?_eq_some {text back : List Char} {offset : Nat}
    (found : dropBytes? text offset = some back) :
    ∃ front, text = front ++ back ∧ byteLength front = offset := by
  fun_induction dropBytes? text offset with
  | case1 text => exact ⟨[], by simpa using found, rfl⟩
  | case2 => cases found
  | case3 c rest offset _ fits ih =>
    obtain ⟨front, rfl, size⟩ := ih found
    exact ⟨c :: front, rfl, by rw [byteLength_cons, size]; omega⟩
  | case4 => cases found

theorem takeBytes?_isSome {text : List Char} {count : Nat}
    (found : (takeBytes? text count).isSome) : IsBoundary text count := by
  fun_induction takeBytes? text count with
  | case1 text => exact isBoundary_zero text
  | case2 => cases found
  | case3 c rest count _ fits ih =>
    rw [Option.isSome_map] at found
    obtain ⟨front, back, rfl, size⟩ := ih found
    exact ⟨c :: front, back, rfl, by rw [byteLength_cons, size]; omega⟩
  | case4 => cases found

/-- A part of a text is cut out exactly at two boundaries, in order. -/
theorem slice?_isSome_iff {text : List Char} {start stop : Nat} :
    (slice? text start stop).isSome ↔
      start ≤ stop ∧ IsBoundary text start ∧ IsBoundary text stop := by
  constructor
  · intro cut
    unfold slice? at cut
    split at cut
    · next order =>
      cases found : dropBytes? text start with
      | none =>
        rw [found] at cut
        cases cut
      | some back =>
        rw [found, Option.bind_some] at cut
        obtain ⟨front, rfl, rfl⟩ := dropBytes?_eq_some found
        exact ⟨order, ⟨front, back, rfl, rfl⟩,
          (isBoundary_append order).mpr (takeBytes?_isSome cut)⟩
    · cases cut
  · rintro ⟨order, ⟨front, back, rfl, rfl⟩, second⟩
    obtain ⟨middle, rest, rfl, size⟩ := (isBoundary_append order).mp second
    have stops : stop = byteLength front + byteLength middle := by omega
    rw [stops, ← List.append_assoc, slice?_append]
    rfl

end Lox.Text
