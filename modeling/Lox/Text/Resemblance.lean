/-!
# Resembling words

Words resemble each other when they share enough characters in about the same places. Each character
of the one word claims an equal character of the other, no two the same one, and none too far away.
Three shares count alike: the claiming characters of the one word, the claimed characters of the
other, and those of them that are in the same order in both.
-/

namespace Lox.Text

/-- A character of a word, and whether it was claimed. -/
structure Claimable where
  char : Char
  claimed : Bool
  deriving DecidableEq, Repr

/-- Claims the first free `c` between the places `low` and `high` of a word, of which the characters
from `place` on are given. -/
def claim? (c : Char) (low high : Nat) : (place : Nat) → List Claimable → Option (List Claimable)
  | _, [] => none
  | place, item :: rest =>
    if low ≤ place ∧ place ≤ high ∧ item = ⟨c, false⟩ then some (⟨c, true⟩ :: rest)
    else (claim? c low high (place + 1) rest).map (item :: ·)

/-- The characters of a word, from `place` on, that find something to claim at most `reach` places
away, and the other word after all claims. -/
def claims (reach : Nat) :
    (place : Nat) → List Char → List Claimable → List Char × List Claimable
  | _, [], other => ([], other)
  | place, c :: rest, other =>
    match claim? c (place - reach) (place + reach) 0 other with
    | some other =>
      let (claiming, other) := claims reach (place + 1) rest other
      (c :: claiming, other)
    | none => claims reach (place + 1) rest other

/-- Whether two words resemble each other: the mean of the three shares exceeds seven tenths. Half
of the characters that claimed one at another rank count as out of order. -/
def resembles (word other : List Char) : Bool :=
  let reach := max word.length other.length / 2 - 1
  let (claiming, marked) := claims reach 0 word (other.map fun c => ⟨c, false⟩)
  let claimed := (marked.filter (·.claimed)).map (·.char)
  let displaced := ((claiming.zip claimed).filter fun (c, d) => c ≠ d).length
  let shared := claiming.length
  let ordered := shared - displaced / 2
  21 * (shared * word.length * other.length) <
    10 * (shared * shared * other.length + shared * shared * word.length +
      ordered * word.length * other.length)

end Lox.Text
