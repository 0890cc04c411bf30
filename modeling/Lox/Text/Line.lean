import Lox.Text.Offset

/-!
# Lines of a text

Lines are numbered from one and end at a line feed. A line number is found in two ways: by bisection
in the table of all line starts, and together with the column by a walk over the text.
-/

namespace Lox.Text

/-- The byte offsets at which the lines after the first begin, for a text that itself begins at
byte `offset`. -/
def laterLineStarts : List Char → (offset : Nat) → List Nat
  | [], _ => []
  | c :: rest, offset =>
    let next := offset + c.utf8Size
    if c = '\n' then next :: laterLineStarts rest next else laterLineStarts rest next

/-- What a search in a table that increases comes to. -/
inductive Search where
  /-- The entry stands in this place. -/
  | found (place : Nat)
  /-- There is no such entry. It would belong in this place. -/
  | missing (place : Nat)
  deriving DecidableEq, Repr

/-- The byte offsets at which the lines of a text begin, in increasing order. -/
structure LineIndex where
  starts : Array Nat
  deriving DecidableEq, Repr

namespace LineIndex

def ofText (text : List Char) : LineIndex :=
  ⟨(0 :: laterLineStarts text 0).toArray⟩

def lineCount (index : LineIndex) : Nat :=
  index.starts.size

/-- Bisects between two places for an entry that equals `offset`. -/
def searchBetween (starts : Array Nat) (offset low high : Nat) : Search :=
  if low < high then
    let middle := (low + high) / 2
    let start := starts.getD middle 0
    if start = offset then .found middle
    else if start < offset then searchBetween starts offset (middle + 1) high
    else searchBetween starts offset low middle
  else .missing low
termination_by high - low

def search (index : LineIndex) (offset : Nat) : Search :=
  searchBetween index.starts offset 0 index.starts.size

/-- The line that holds the byte at `offset`: it begins there, or is the last to begin before. -/
def lineOf (index : LineIndex) (offset : Nat) : Nat :=
  match index.search offset with
  | .found place => place + 1
  | .missing place => place

end LineIndex

/-- A line and a column in it, both counted from one; columns count characters. -/
structure Position where
  line : Nat
  column : Nat
  deriving DecidableEq, Repr

/-- The first position of a text. -/
def Position.first : Position := ⟨1, 1⟩

/-- The position after a character. -/
def Position.after (position : Position) (c : Char) : Position :=
  if c = '\n' then ⟨position.line + 1, 1⟩ else ⟨position.line, position.column + 1⟩

/-- Walks over the characters that begin before the byte `offset`, of which the first begins at
byte `start`. -/
def Position.walk : List Char → (start offset : Nat) → Position → Position
  | [], _, _, position => position
  | c :: rest, start, offset, position =>
    if offset ≤ start then position
    else walk rest (start + c.utf8Size) offset (position.after c)

/-- The position of a byte offset. An offset inside a character counts as the one after it, and
an offset past the end as the end. -/
def positionOf (text : List Char) (offset : Nat) : Position :=
  Position.walk text 0 offset Position.first

/-- The lines of a text without their ends, which are `\n` or `\r\n`. Nothing after the last line
end makes no line. -/
def lines : List Char → List (List Char)
  | [] => []
  | '\n' :: rest => [] :: lines rest
  | '\r' :: '\n' :: rest => [] :: lines rest
  | c :: rest =>
    match lines rest with
    | [] => [[c]]
    | line :: others => (c :: line) :: others

end Lox.Text
