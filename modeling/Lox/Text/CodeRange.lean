/-!
# Ranges of code points

Character classes that a standard lists as ranges are kept as sorted tables of inclusive ranges.
-/

namespace Lox.Text

/-- The code points from `first` to `last`, both included. -/
structure CodeRange where
  first : Nat
  last : Nat
  deriving DecidableEq, Repr

/-- Membership in a sorted table: only the first range that does not end before the character
can hold it. -/
def CodeRange.tableHolds (table : List CodeRange) (c : Char) : Bool :=
  match table.find? fun range => c.toNat ≤ range.last with
  | some range => range.first ≤ c.toNat
  | none => false

theorem CodeRange.mem_of_tableHolds {table : List CodeRange} {c : Char}
    (held : tableHolds table c = true) :
    ∃ range ∈ table, range.first ≤ c.toNat ∧ c.toNat ≤ range.last := by
  unfold tableHolds at held
  split at held
  · next range found =>
    have reaches := List.find?_some found
    exact ⟨range, List.mem_of_find?_eq_some found, of_decide_eq_true held, by simpa using reaches⟩
  · cases held

end Lox.Text
