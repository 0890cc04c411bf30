import Lox.Diagnostic.Snippet
import Lox.Proofs.Text.Boundary

/-!
# Which diagnostics can be shown

A diagnostic can be shown with a source if its span begins beyond the source or can be cut out of
it, up to its end. With a source of a single line it can be shown only then.
-/

namespace Lox

open Text

/-- The span can be shown with a text. -/
def Span.ShownIn (text : List Char) (span : Span) : Prop :=
  span = .nowhere ∨ byteLength text < span.start ∨
    (span.start ≤ min span.stop (byteLength text) ∧ IsBoundary text span.start ∧
      IsBoundary text (min span.stop (byteLength text)))

/-- The span of a part of a text. -/
def Span.PartOf (text : List Char) (span : Span) : Prop :=
  ∃ front middle back, text = front ++ middle ++ back ∧
    span = ⟨byteLength front, byteLength front + byteLength middle⟩

/-- The span lies in a text, and both its ends are between characters. -/
structure Span.InBounds (text : List Char) (span : Span) : Prop where
  ordered : span.start ≤ span.stop
  inside : span.stop ≤ byteLength text
  starts : IsBoundary text span.start
  stops : IsBoundary text span.stop

theorem Span.isNowhere_iff {span : Span} : span.isNowhere = true ↔ span = .nowhere := by
  obtain ⟨start, stop⟩ := span
  simp [Span.isNowhere, Span.nowhere]

theorem Span.PartOf.inBounds {text : List Char} {span : Span} (part : span.PartOf text) :
    span.InBounds text := by
  obtain ⟨front, middle, back, rfl, rfl⟩ := part
  constructor
  · exact Nat.le_add_right _ _
  · rw [byteLength_append, byteLength_append]
    exact Nat.le_add_right _ _
  · exact ⟨front, middle ++ back, List.append_assoc _ _ _, rfl⟩
  · exact ⟨front ++ middle, back, rfl, byteLength_append _ _⟩

theorem Span.InBounds.shownIn {text : List Char} {span : Span} (bounds : span.InBounds text) :
    span.ShownIn text := by
  have inside : min span.stop (byteLength text) = span.stop := Nat.min_eq_left bounds.inside
  refine .inr (.inr ?_)
  rw [inside]
  exact ⟨bounds.ordered, bounds.starts, bounds.stops⟩

theorem Span.PartOf.shownIn {text : List Char} {span : Span} (part : span.PartOf text) :
    span.ShownIn text :=
  part.inBounds.shownIn

namespace Text

/-- Without line feeds a text is one line. -/
theorem lines_of_single {text : List Char} (single : '\n' ∉ text) (some_char : text ≠ []) :
    lines text = [text] := by
  fun_induction lines text with
  | case1 => exact absurd rfl some_char
  | case2 | case3 => simp at single
  | case4 c rest _ _ ends ih =>
    cases rest with
    | nil => rfl
    | cons d others =>
      rw [List.mem_cons, not_or] at single
      simp [ih single.2 (List.cons_ne_nil d others)] at ends
  | case5 c rest _ _ line others found ih =>
    rw [List.mem_cons, not_or] at single
    cases rest with
    | nil => cases found
    | cons d tail =>
      rw [ih single.2 (List.cons_ne_nil d tail)] at found
      cases found
      rfl

theorem positionOf_line_of_single {text : List Char} (single : '\n' ∉ text) (offset : Nat) :
    (positionOf text offset).line = 1 := by
  suffices ∀ start position, (Position.walk text start offset position).line = position.line from
    this 0 Position.first
  induction text with
  | nil => exact fun _ _ => rfl
  | cons c rest ih =>
    intro start position
    rw [List.mem_cons, not_or] at single
    unfold Position.walk
    split
    · rfl
    · rw [ih single.2, Position.after, if_neg (Ne.symm single.1)]

end Text

namespace Diagnostic

variable {style : Style} {source file : String}

/-- A diagnostic whose span can be shown with a source is shown. -/
theorem render?_isSome {d : Diagnostic} (shown : d.span.ShownIn source.toList) :
    (render? style source file d).isSome := by
  simp only [render?]
  split
  · rfl
  · next inside =>
    simp only [Bool.or_eq_true, decide_eq_true_eq, Span.isNowhere_iff] at inside
    rw [not_or] at inside
    simp only [Span.ShownIn, inside, false_or, ← slice?_isSome_iff] at shown
    split
    · rfl
    · obtain ⟨middle, cut⟩ := Option.isSome_iff_exists.mp shown
      rw [cut]
      rfl

/-- In a single line, a diagnostic is shown unless its span cannot be cut out. -/
theorem render?_eq_none_iff (single : '\n' ∉ source.toList) (some_char : source.toList ≠ [])
    (d : Diagnostic) : render? style source file d = none ↔ ¬ d.span.ShownIn source.toList := by
  have shown_line : (lines source.toList)[(positionOf source.toList d.span.start).line - 1]? =
      some source.toList := by
    rw [positionOf_line_of_single single, lines_of_single single some_char]
    rfl
  constructor
  · intro refused shown
    have given : (render? style source file d).isSome := render?_isSome shown
    rw [refused] at given
    cases given
  · intro unshown
    simp only [Span.ShownIn, not_or, ← slice?_isSome_iff, Option.not_isSome_iff_eq_none] at unshown
    obtain ⟨placed, within, uncut⟩ := unshown
    have inside : ¬ (d.span.isNowhere || decide (byteLength source.toList < d.span.start)) := by
      simp [Span.isNowhere_iff, placed, within]
    simp only [render?, if_neg inside, shown_line, uncut]
    rfl

theorem renderAll?_eq_none_iff {diagnostics : List Diagnostic} :
    renderAll? style source file diagnostics = none ↔
      ∃ d ∈ diagnostics, render? style source file d = none := by
  unfold renderAll?
  rw [Option.map_eq_map, Option.map_eq_none_iff]
  induction diagnostics with
  | nil => simp
  | cons d rest ih =>
    rw [List.mapM_cons]
    cases shown : render? style source file d with
    | none => simp [shown]
    | some text =>
      have same : (rest.mapM (render? style source file)) = none ↔
          ∃ other ∈ d :: rest, render? style source file other = none := by
        rw [ih]
        simp [shown]
      rw [← same]
      cases rest.mapM (render? style source file) <;> simp

theorem renderAll?_isSome {diagnostics : List Diagnostic}
    (shown : ∀ d ∈ diagnostics, d.span.ShownIn source.toList) :
    (renderAll? style source file diagnostics).isSome := by
  rw [Option.isSome_iff_ne_none, Ne, renderAll?_eq_none_iff]
  rintro ⟨d, member, refused⟩
  have given : (render? style source file d).isSome := render?_isSome (shown d member)
  rw [refused] at given
  cases given

end Diagnostic
end Lox
