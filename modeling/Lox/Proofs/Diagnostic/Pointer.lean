import Mathlib.Order.Interval.Finset.Nat
import Lox.Proofs.Diagnostic.Rendering
import Lox.Proofs.Text.Position

/-!
# What the carets stand under

A span that can be cut out of a source begins on one of its lines, unless it begins behind the last
line feed and nothing follows. That line is shown, with its number and the column, and the carets
stand under the characters of the span that lie on the line, or under the first place of the span if
there are none.
-/

namespace Lox.Text

/-! ## The lines of a text -/

/-- What ends a line in front of `below`. Nothing ends the last line, and a carriage return is part
of the line feed right behind it. -/
inductive LineEnd (line below : List Char) : List Char → Prop
  | nothing (last : below = []) : LineEnd line below []
  | lineFeed (bare : line.getLast? ≠ some '\r') : LineEnd line below ['\n']
  | returnAndFeed : LineEnd line below ['\r', '\n']

/-- A text begins a line. -/
def EndsLine (above : List Char) : Prop :=
  above = [] ∨ above.getLast? = some '\n'

/-- A line of a text with all that is around it. -/
structure IsLine (text above line ending below : List Char) : Prop where
  whole : text = above ++ line ++ ending ++ below
  begins : EndsLine above
  single : '\n' ∉ line
  ends : LineEnd line below ending

/-- A character that ends no line is the first of the line it stands on. -/
theorem lines_cons {c : Char} {text : List Char} (goesOn : c ≠ '\n')
    (bare : ∀ below, c = '\r' → text ≠ '\n' :: below) :
    lines (c :: text) = (c :: (lines text).headD []) :: (lines text).tail := by
  rw [lines]
  · cases lines text <;> rfl
  · exact goesOn
  · exact bare

/-- Any text begins with a line. -/
theorem lines_split {text : List Char} (some_char : text ≠ []) :
    ∃ line ending below, text = line ++ ending ++ below ∧ lines text = line :: lines below ∧
      '\n' ∉ line ∧ LineEnd line below ending := by
  induction text with
  | nil => exact absurd rfl some_char
  | cons c rest ih =>
    by_cases isFeed : c = '\n'
    · subst isFeed
      exact ⟨[], ['\n'], rest, rfl, rfl, by simp, .lineFeed (by simp)⟩
    · cases rest with
      | nil => exact ⟨[c], [], [], rfl, lines_cons isFeed (by simp), by simpa using Ne.symm isFeed,
          .nothing rfl⟩
      | cons d tail =>
        by_cases closed : c = '\r' ∧ d = '\n'
        · obtain ⟨rfl, rfl⟩ := closed
          exact ⟨[], ['\r', '\n'], tail, rfl, rfl, by simp, .returnAndFeed⟩
        · obtain ⟨line, ending, below, whole, split, single, ends⟩ := ih (List.cons_ne_nil d tail)
          have bare : ∀ below, c = '\r' → d :: tail ≠ '\n' :: below := by
            intro below isReturn same
            exact closed ⟨isReturn, (List.cons.inj same).1⟩
          refine ⟨c :: line, ending, below, by simp [whole], ?_, by simp [Ne.symm isFeed, single],
            ?_⟩
          · rw [lines_cons isFeed bare, split]
            rfl
          · cases ends with
            | nothing last => exact .nothing last
            | returnAndFeed => exact .returnAndFeed
            | lineFeed notReturn =>
              apply LineEnd.lineFeed
              cases line with
              | nil =>
                intro isReturn
                exact bare below (by simpa using isReturn) whole
              | cons e rest => simpa [List.getLast?_cons_cons] using notReturn

theorem EndsLine.tail {c d : Char} {rest : List Char} (ends : EndsLine (c :: d :: rest)) :
    EndsLine (d :: rest) := by
  simpa [EndsLine, List.getLast?_cons_cons] using ends

/-- A text that ends a line has as many lines as line feeds, in front of those behind it. -/
theorem lines_append {above : List Char} (ends : EndsLine above) (text : List Char) :
    lines (above ++ text) = lines above ++ lines text ∧
      (lines above).length = above.count '\n' := by
  induction above with
  | nil => simp [lines]
  | cons c rest ih =>
    cases rest with
    | nil =>
      have isFeed : c = '\n' := by simpa [EndsLine] using ends
      simp [isFeed, lines]
    | cons d tail =>
      obtain ⟨joined, size⟩ := ih ends.tail
      rw [List.cons_append] at joined
      by_cases isFeed : c = '\n'
      · simp [isFeed, lines, joined, size]
      · rw [List.count_cons_of_ne isFeed, ← size, List.cons_append, List.cons_append]
        by_cases closed : c = '\r' ∧ d = '\n'
        · obtain ⟨rfl, rfl⟩ := closed
          exact ⟨joined, rfl⟩
        · have bare : ∀ (more below : List Char), c = '\r' → d :: more ≠ '\n' :: below := by
            intro more below isReturn same
            exact closed ⟨isReturn, (List.cons.inj same).1⟩
          obtain ⟨line, _, _, -, split, -⟩ := lines_split (List.cons_ne_nil d tail)
          rw [lines_cons isFeed (bare _), lines_cons isFeed (bare _), joined, split]
          simp

/-- Behind the lines above comes the first line of the text behind them. -/
theorem getElem?_lines {above : List Char} (ends : EndsLine above) (text : List Char) :
    (lines (above ++ text))[above.count '\n']? = (lines text).head? := by
  obtain ⟨joined, size⟩ := lines_append ends text
  rw [joined, ← size, List.getElem?_append_right (Nat.le_refl _), Nat.sub_self,
    List.head?_eq_getElem?]

/-- A text without line feeds that begins a line does not reach over its end. -/
theorem LineEnd.holds {line ending below inside rest : List Char} (ends : LineEnd line below ending)
    (single : '\n' ∉ inside) (split : inside ++ rest = line ++ ending ++ below) :
    inside <+: line ++ ending := by
  rcases List.append_eq_append_iff.mp split with ⟨more, same, -⟩ | ⟨more, same, behind⟩
  · exact ⟨more, same.symm⟩
  · cases ends with
    | nothing last =>
      obtain ⟨rfl, -⟩ : more = [] ∧ rest = [] := by simpa [last] using behind
      simp [same]
    | lineFeed | returnAndFeed => simp [same] at single

/-- What is in front of a place: the lines above, and a part of the line it is on. -/
theorem exists_lastLine (front : List Char) :
    ∃ above inside, front = above ++ inside ∧ EndsLine above ∧ '\n' ∉ inside := by
  induction front with
  | nil => exact ⟨[], [], rfl, .inl rfl, by simp⟩
  | cons c rest ih =>
    obtain ⟨above, inside, rfl, ends, single⟩ := ih
    cases above with
    | nil =>
      by_cases isFeed : c = '\n'
      · exact ⟨[c], inside, rfl, .inr (by simp [isFeed]), single⟩
      · exact ⟨[], c :: inside, rfl, .inl rfl, by simp [Ne.symm isFeed, single]⟩
    | cons d above =>
      rcases ends with none | last
      · cases none
      · exact ⟨c :: d :: above, inside, rfl, .inr (by simpa [List.getLast?_cons_cons] using last),
          single⟩

/-- The first place of a line has column one. -/
theorem EndsLine.column {above : List Char} (ends : EndsLine above) :
    (Position.first.behind above).column = 1 := by
  rcases ends with rfl | last
  · rfl
  · obtain ⟨before, rfl⟩ := List.getLast?_eq_some_iff.mp last
    simp [Position.behind_append, Position.after]

theorem positionOf_onLine {above inside back : List Char} (ends : EndsLine above)
    (single : '\n' ∉ inside) :
    positionOf (above ++ inside ++ back) (byteLength (above ++ inside)) =
      ⟨1 + above.count '\n', 1 + inside.length⟩ := by
  rw [positionOf_boundary, Position.behind_append, Position.behind_of_single single, ends.column,
    Position.line_behind]
  rfl

end Lox.Text

namespace Lox

open Text

theorem Span.InBounds.partOf {text : List Char} {span : Span} (bounds : span.InBounds text) :
    span.PartOf text := by
  obtain ⟨front, rest, rfl, start⟩ := bounds.starts
  have order : byteLength front ≤ span.stop := start ▸ bounds.ordered
  obtain ⟨middle, back, rfl, size⟩ := (isBoundary_append order).mp bounds.stops
  refine ⟨front, middle, back, by rw [List.append_assoc], ?_⟩
  obtain ⟨first, last⟩ := span
  simp_all

namespace Diagnostic

/-! ## The snippet -/

/-- How many characters from `start` to `stop` are also characters from `low` to `high`. -/
def shared (start stop low high : Nat) : Nat :=
  (Finset.Ico start stop ∩ Finset.Ico low high).card

theorem caretCount_eq (line marked : List Char) (before inside : Nat) :
    caretCount line marked (1 + inside) =
      max 1 (shared (before + inside) (before + inside + marked.length) before
        (before + line.length)) := by
  rw [shared, Finset.Ico_inter_Ico, Nat.card_Ico, caretCount]
  omega

/-- The rows of a diagnostic that is shown without colours. -/
def rows (headline file line : String) (number column carets : Nat) : List String :=
  let margin := spaces (toString number).length
  [headline,
    margin ++ "--> " ++ file ++ ":" ++ toString number ++ ":" ++ toString column,
    margin ++ " |",
    toString number ++ " | " ++ line,
    margin ++ " | " ++ spaces (column - 1) ++ String.ofList (List.replicate carets '^')]

theorem snippet_plain (headline file : String) (position : Position) (line : List Char)
    (carets : Nat) :
    headline ++ "\n" ++ snippet .plain file position line carets =
      String.join ((rows headline file (String.ofList line) position.line position.column
        carets).map (· ++ "\n")) := by
  have arrow : "--> " = "-->" ++ " " := by decide
  have bar : " |" = " " ++ "|" := by decide
  have barred : " | " = " " ++ ("|" ++ " ") := by decide
  unfold snippet rows
  simp only [Style.plain, id, arrow, bar, barred, List.map_cons, List.map_nil, String.join,
    List.foldl_cons, List.foldl_nil, String.empty_append, String.append_assoc,
    -String.reduceAppend]

/-- A diagnostic in a source is shown with the line on which its span begins, unless it begins at
the end and the last line is ended. -/
theorem render?_onLine {source : String} (file : String) {d : Diagnostic}
    (placed : d.span ≠ .nowhere) {above inside marked back : List Char}
    (whole : source.toList = above ++ inside ++ marked ++ back)
    (span : d.span = ⟨byteLength (above ++ inside),
      byteLength (above ++ inside) + byteLength marked⟩)
    (ends : EndsLine above) (single : '\n' ∉ inside) :
    render? .plain source file d =
      match (lines (inside ++ marked ++ back)).head? with
      | none => some (d.headline ++ "\n")
      | some line =>
        some (String.join ((rows d.headline file (String.ofList line) (1 + above.count '\n')
          (1 + inside.length) (caretCount line marked (1 + inside.length))).map (· ++ "\n"))) := by
  have total : byteLength source.toList =
      byteLength (above ++ inside) + byteLength marked + byteLength back := by
    rw [whole, byteLength_append, byteLength_append]
  have position : positionOf source.toList d.span.start =
      ⟨1 + above.count '\n', 1 + inside.length⟩ := by
    rw [whole, span, List.append_assoc (above ++ inside)]
    exact positionOf_onLine ends single
  have cut : slice? source.toList d.span.start (min d.span.stop (byteLength source.toList)) =
      some marked := by
    rw [total, span, Nat.min_eq_left (Nat.le_add_right _ _), whole]
    exact slice?_append (above ++ inside) marked back
  have shown : (lines source.toList)[above.count '\n']? =
      (lines (inside ++ marked ++ back)).head? := by
    rw [← getElem?_lines ends, whole]
    simp
  have inSource : ¬ (d.span.isNowhere || decide (byteLength source.toList < d.span.start)) := by
    have start : d.span.start = byteLength (above ++ inside) := by rw [span]
    have within : d.span.start ≤ byteLength source.toList := by omega
    simp [Span.isNowhere_iff, placed, within]
  simp only [render?, if_neg inSource, position, Nat.add_sub_cancel_left, shown, cut]
  cases (lines (inside ++ marked ++ back)).head? with
  | none => rfl
  | some line => exact congrArg some (snippet_plain d.headline file _ line _)

/-- A span of a text and the line that it begins on. In front of the span stands `inside`, which is
what the line has before it. -/
structure Pointing (text : List Char) (span : Span) where
  above : List Char
  inside : List Char
  marked : List Char
  back : List Char
  line : List Char
  ending : List Char
  below : List Char
  whole : text = above ++ inside ++ marked ++ back
  place : span =
    ⟨byteLength (above ++ inside), byteLength (above ++ inside) + byteLength marked⟩
  isLine : IsLine text above line ending below
  onLine : inside <+: line ++ ending
  single : '\n' ∉ inside

namespace Pointing

variable {text : List Char} {span : Span} (pointing : Pointing text span)

def number : Nat := 1 + pointing.above.count '\n'

def column : Nat := 1 + pointing.inside.length

/-- One caret for each character of the span that is on the line, but at least one. -/
def carets : Nat :=
  let start := (pointing.above ++ pointing.inside).length
  max 1 (shared start (start + pointing.marked.length) pointing.above.length
    (pointing.above ++ pointing.line).length)

/-- The text of the diagnostic, row by row. -/
def shown (headline file : String) : String :=
  String.join ((rows headline file (String.ofList pointing.line) pointing.number pointing.column
    pointing.carets).map (· ++ "\n"))

theorem carets_eq : pointing.carets =
    caretCount pointing.line pointing.marked pointing.column := by
  rw [column, caretCount_eq _ _ pointing.above.length, carets, List.length_append,
    List.length_append]

end Pointing

/-- Without colours, a diagnostic with a span in a source is shown by its headline alone if the span
begins at the end of the source, behind a line feed. Otherwise the line on which the span begins is
shown under it, as it stands among the lines of the source, with its number, the column at which the
span begins, and carets under the characters of the span that are on the line. -/
theorem pointer_underlines_span {source : String} {d : Diagnostic} (file : String)
    (placed : d.span ≠ .nowhere) (bounds : d.span.InBounds source.toList) :
    if d.span.start = byteLength source.toList ∧ source.toList.getLast? = some '\n' then
      render? .plain source file d = some (d.headline ++ "\n")
    else
      ∃ pointing : Pointing source.toList d.span,
        (lines source.toList)[pointing.number - 1]? = some pointing.line ∧
        render? .plain source file d = some (pointing.shown d.headline file) := by
  obtain ⟨front, marked, back, whole, place⟩ := bounds.partOf
  obtain ⟨above, inside, rfl, ends, single⟩ := exists_lastLine front
  have rendered := render?_onLine file placed whole place ends single
  have behind : source.toList = above ++ (inside ++ marked ++ back) := by simp [whole]
  by_cases empty : inside ++ marked ++ back = []
  · -- The span begins, and ends, behind all lines.
    obtain ⟨rfl, rfl, rfl⟩ : inside = [] ∧ marked = [] ∧ back = [] := by simpa using empty
    have last : source.toList.getLast? = some '\n' := by
      rcases ends with rfl | last
      · exact absurd place placed
      · simpa [behind] using last
    have start : d.span.start = byteLength source.toList := by
      rw [place, whole]
      simp
    rw [if_pos ⟨start, last⟩, rendered]
    rfl
  · have notEnd : ¬ (d.span.start = byteLength source.toList ∧
        source.toList.getLast? = some '\n') := by
      rintro ⟨start, last⟩
      have total := byteLength_append (above ++ inside ++ marked) back
      rw [← whole, ← start, byteLength_append (above ++ inside), place] at total
      simp only at total
      have nothing : byteLength marked = 0 ∧ byteLength back = 0 := by omega
      obtain rfl := byteLength_eq_zero.mp nothing.1
      obtain rfl := byteLength_eq_zero.mp nothing.2
      rw [List.append_nil, List.append_nil] at empty
      rw [behind, List.append_nil, List.append_nil, List.getLast?_append_of_ne_nil _ empty] at last
      exact single (List.mem_of_getLast? last)
    rw [if_neg notEnd]
    obtain ⟨line, ending, below, split, shown, bare, ended⟩ := lines_split empty
    have onLine : inside <+: line ++ ending := by
      rw [List.append_assoc] at split
      exact ended.holds single split
    have listed : (lines source.toList)[above.count '\n']? = some line := by
      rw [behind, getElem?_lines ends, shown, List.head?_cons]
    let pointing : Pointing source.toList d.span :=
      { above, inside, marked, back, line, ending, below, whole, place, onLine, single
        isLine := ⟨by simp [behind, split], ends, bare, ended⟩ }
    have number : pointing.number - 1 = above.count '\n' := Nat.add_sub_cancel_left _ _
    have rendered' : render? .plain source file d = some (pointing.shown d.headline file) := by
      rw [rendered, shown, Pointing.shown, pointing.carets_eq]
      rfl
    exact ⟨pointing, number ▸ listed, rendered'⟩

/-- A span from the end of one line into the next is underlined on the first of them only. -/
theorem pointer_underlines_span_two_lines :
    let source := "a;\r\né + x\r\ny"
    let d : Diagnostic := ⟨.beforeRun, "Bad.", 2, none, ⟨9, 13⟩⟩
    d.span ≠ .nowhere ∧ d.span.InBounds source.toList ∧
      ∃ pointing : Pointing source.toList d.span,
        (lines source.toList)[pointing.number - 1]? = some pointing.line ∧
        pointing.shown d.headline "a.lox" =
          "[line: 2 Error: Bad.]\n --> a.lox:2:5\n  |\n2 | é + x\n  |     ^\n" := by
  intro source d
  have placed : d.span ≠ .nowhere := by decide
  have bounds : d.span.InBounds source.toList :=
    ⟨by decide, by decide, ⟨"a;\r\né + ".toList, "x\r\ny".toList, by decide, by decide⟩,
      ⟨source.toList, [], by decide, by decide⟩⟩
  have drawn : render? .plain source "a.lox" d =
      some "[line: 2 Error: Bad.]\n --> a.lox:2:5\n  |\n2 | é + x\n  |     ^\n" := by
    decide +kernel
  have shown := pointer_underlines_span "a.lox" placed bounds
  rw [if_neg (by decide)] at shown
  obtain ⟨pointing, listed, rendered⟩ := shown
  exact ⟨placed, bounds, pointing, listed, Option.some.inj (rendered.symm.trans drawn)⟩

end Diagnostic
end Lox
