/-!
# Reading UTF-8

A sink may stop in the middle of a character, so what it holds is read with repairs: each longest
run of bytes that begins a character without completing it, and each byte that begins none, reads as
the replacement character.
-/

namespace Lox.Text

/-- A character begun: how many bytes it still needs, the range of the next one, and its bits so
far. -/
structure Begun where
  tails : Nat
  low : Nat
  high : Nat
  bits : Nat
  deriving DecidableEq, Repr

def replacementCharacter : Char := '\uFFFD'

/-- A byte read where a character may begin: the characters it completes, and what it leaves begun.
No character begins with a continuation byte, or with a byte that only overlong forms or code points
beyond the last one would need; the narrowed second ranges shut out the rest of those, and the
surrogates. -/
def readFirst (byte : Nat) : List Char × Option Begun :=
  if byte < 0x80 then ([Char.ofNat byte], none)
  else if byte < 0xC2 then ([replacementCharacter], none)
  else if byte < 0xE0 then ([], some ⟨1, 0x80, 0xBF, byte - 0xC0⟩)
  else if byte = 0xE0 then ([], some ⟨2, 0xA0, 0xBF, 0⟩)
  else if byte = 0xED then ([], some ⟨2, 0x80, 0x9F, 0xD⟩)
  else if byte < 0xF0 then ([], some ⟨2, 0x80, 0xBF, byte - 0xE0⟩)
  else if byte = 0xF0 then ([], some ⟨3, 0x90, 0xBF, 0⟩)
  else if byte < 0xF4 then ([], some ⟨3, 0x80, 0xBF, byte - 0xF0⟩)
  else if byte = 0xF4 then ([], some ⟨3, 0x80, 0x8F, 4⟩)
  else ([replacementCharacter], none)

/-- A byte read after `pending`. One that cannot go on with the character begun is read as a first
byte instead. -/
def readNext (pending : Option Begun) (byte : Nat) : List Char × Option Begun :=
  match pending with
  | none => readFirst byte
  | some begun =>
    if begun.low ≤ byte ∧ byte ≤ begun.high then
      let bits := begun.bits * 64 + (byte - 0x80)
      if begun.tails ≤ 1 then ([Char.ofNat bits], none)
      else ([], some ⟨begun.tails - 1, 0x80, 0xBF, bits⟩)
    else
      let (read, next) := readFirst byte
      (replacementCharacter :: read, next)

def repairFrom : (pending : Option Begun) → List UInt8 → List Char
  | none, [] => []
  | some _, [] => [replacementCharacter]
  | pending, byte :: rest =>
    let (read, next) := readNext pending byte.toNat
    read ++ repairFrom next rest

/-- Reads bytes as UTF-8, with repairs where they are not. -/
def decodeRepaired (bytes : ByteArray) : String :=
  match String.fromUTF8? bytes with
  | some text => text
  | none => String.ofList (repairFrom none bytes.toList)

end Lox.Text
