/-!
# Byte offsets

Positions in a text count the bytes of its UTF-8 form. Only the offsets between two characters
are boundaries, and only they cut a text.
-/

namespace Lox.Text

/-- The number of bytes of a text in UTF-8. -/
def byteLength : List Char → Nat
  | [] => 0
  | c :: rest => c.utf8Size + byteLength rest

@[simp] theorem byteLength_nil : byteLength [] = 0 := rfl

@[simp] theorem byteLength_cons (c : Char) (rest : List Char) :
    byteLength (c :: rest) = c.utf8Size + byteLength rest := rfl

theorem byteLength_append (front back : List Char) :
    byteLength (front ++ back) = byteLength front + byteLength back := by
  induction front with
  | nil => simp
  | cons c rest ih => simp [ih, Nat.add_assoc]

/-- The part of a text after its first `offset` bytes, unless `offset` is no boundary of it. -/
def dropBytes? : List Char → Nat → Option (List Char)
  | text, 0 => some text
  | [], _ + 1 => none
  | c :: rest, offset =>
    if c.utf8Size ≤ offset then dropBytes? rest (offset - c.utf8Size) else none

/-- The first `count` bytes of a text, unless `count` is no boundary of it. -/
def takeBytes? : List Char → Nat → Option (List Char)
  | _, 0 => some []
  | [], _ + 1 => none
  | c :: rest, count =>
    if c.utf8Size ≤ count then (takeBytes? rest (count - c.utf8Size)).map (c :: ·) else none

/-- The part of a text from byte `start` to byte `stop`; there is none when the two are in the
wrong order or one of them is no boundary. -/
def slice? (text : List Char) (start stop : Nat) : Option (List Char) :=
  if start ≤ stop then
    (dropBytes? text start).bind fun rest => takeBytes? rest (stop - start)
  else none

theorem dropBytes?_byteLength (front back : List Char) :
    dropBytes? (front ++ back) (byteLength front) = some back := by
  induction front with
  | nil => cases back <;> rfl
  | cons c rest ih =>
    have positive := Char.utf8Size_pos c
    obtain ⟨n, size⟩ : ∃ n, c.utf8Size + byteLength rest = n + 1 :=
      ⟨c.utf8Size + byteLength rest - 1, by omega⟩
    simp only [List.cons_append, byteLength_cons]
    rw [size, dropBytes?, ← size, if_pos (by omega), Nat.add_sub_cancel_left, ih]
    simp

theorem takeBytes?_byteLength (front back : List Char) :
    takeBytes? (front ++ back) (byteLength front) = some front := by
  induction front with
  | nil => cases back <;> rfl
  | cons c rest ih =>
    have positive := Char.utf8Size_pos c
    obtain ⟨n, size⟩ : ∃ n, c.utf8Size + byteLength rest = n + 1 :=
      ⟨c.utf8Size + byteLength rest - 1, by omega⟩
    simp only [List.cons_append, byteLength_cons]
    rw [size, takeBytes?, ← size, if_pos (by omega), Nat.add_sub_cancel_left, ih]
    · rfl
    · simp

/-- Cutting out the middle of a text by the byte lengths of its parts gives that middle. -/
theorem slice?_append (front middle back : List Char) :
    slice? (front ++ middle ++ back) (byteLength front) (byteLength front + byteLength middle) =
      some middle := by
  rw [slice?, if_pos (by omega), List.append_assoc, dropBytes?_byteLength,
    Nat.add_sub_cancel_left, Option.bind_some, takeBytes?_byteLength]

end Lox.Text
