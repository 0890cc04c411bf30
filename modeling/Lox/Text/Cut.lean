/-!
# Cuts

A text cut into a part that is taken and a rest. The two make up the whole text, so nothing is lost
or invented by any sequence of cuts.
-/

namespace Lox.Text

structure Cut (text : List Char) where
  taken : List Char
  rest : List Char
  whole : taken ++ rest = text

namespace Cut

variable {text : List Char}

/-- Takes nothing. -/
def empty (text : List Char) : Cut text :=
  ⟨[], text, rfl⟩

/-- Takes the longest run of characters of a class. -/
def run (p : Char → Bool) (text : List Char) : Cut text :=
  ⟨text.takeWhile p, text.dropWhile p, List.takeWhile_append_dropWhile⟩

/-- Takes one more character in front. -/
def push (c : Char) (cut : Cut text) : Cut (c :: text) :=
  ⟨c :: cut.taken, cut.rest, by rw [List.cons_append, cut.whole]⟩

/-- Goes on with a cut of the rest. -/
def append (cut : Cut text) (more : Cut cut.rest) : Cut text :=
  ⟨cut.taken ++ more.taken, more.rest, by rw [List.append_assoc, more.whole, cut.whole]⟩

@[simp] theorem taken_push (c : Char) (cut : Cut text) : (cut.push c).taken = c :: cut.taken := rfl

@[simp] theorem rest_push (c : Char) (cut : Cut text) : (cut.push c).rest = cut.rest := rfl

theorem length_eq (cut : Cut text) : cut.taken.length + cut.rest.length = text.length := by
  rw [← List.length_append, cut.whole]

theorem rest_length_le (cut : Cut text) : cut.rest.length ≤ text.length := by
  have := cut.length_eq
  omega

theorem rest_length_lt (cut : Cut text) (nonempty : cut.taken ≠ []) :
    cut.rest.length < text.length := by
  have := cut.length_eq
  have := List.length_pos_iff.mpr nonempty
  omega

end Cut
end Lox.Text
