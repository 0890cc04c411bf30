import Lox.Text.Blank
import Lox.Text.Cut

/-!
# Gaps between tokens

Blanks and comments separate tokens. A line comment runs up to its line feed. A block comment ends
at the end marker of its own, so block comments nest. One that never ends is no comment: its
opening marker is then read as two tokens.
-/

namespace Lox.Token

open Lox.Text

/-- Cuts a text that follows an opening marker after the end marker that belongs to it. An opening
marker inside whose comment never ends is plain text; nothing after it ends a comment then, but the
star of the marker and a slash right behind it do. -/
def commentBody? : (text : List Char) → Option (Cut text)
  | [] => none
  | '*' :: '/' :: rest => some ((Cut.empty rest).push '/' |>.push '*')
  | '/' :: '*' :: rest =>
    match commentBody? rest with
    | some inner =>
      (commentBody? inner.rest).map fun outer => (inner.append outer).push '*' |>.push '/'
    | none =>
      match rest with
      | '/' :: after => some ((Cut.empty after).push '/' |>.push '*' |>.push '/')
      | _ => none
  | c :: rest => (commentBody? rest).map (·.push c)
termination_by text => text.length
decreasing_by
  · simp only [List.length_cons]; omega
  · have := inner.rest_length_le
    simp only [List.length_cons]; omega
  · simp only [List.length_cons]; omega

/-- One blank or one comment at the start of a text. -/
def gapItem? : (text : List Char) → Option (Cut text)
  | [] => none
  | '/' :: '/' :: rest => some ((Cut.run (· ≠ '\n') rest).push '/' |>.push '/')
  | '/' :: '*' :: rest => (commentBody? rest).map fun body => body.push '*' |>.push '/'
  | c :: rest => if isBlank c then some ((Cut.empty rest).push c) else none

theorem taken_ne_nil_of_gapItem? {text : List Char} {item : Cut text}
    (found : gapItem? text = some item) : item.taken ≠ [] := by
  unfold gapItem? at found
  split at found
  · cases found
  · cases found; simp
  · obtain ⟨body, _, rfl⟩ := Option.map_eq_some_iff.mp found
    simp
  · split at found <;> cases found
    simp

/-- All blanks and comments at the start of a text. -/
def gap (text : List Char) : Cut text :=
  match _found : gapItem? text with
  | some item => item.append (gap item.rest)
  | none => Cut.empty text
termination_by text.length
decreasing_by exact item.rest_length_lt (taken_ne_nil_of_gapItem? ‹_›)

end Lox.Token
