import Mathlib.Data.List.Infix
import Mathlib.Data.List.TakeWhile
import Lox.Token.Scan

/-!
# Text behind a text

What is read at the start of a text is read there also when a line feed and more text follow: no
lexeme, blank or comment reaches over a line feed that it does not need. For lexemes any other blank
will do as well. The one exception is a comment: an opening marker inside a comment counts only if a
comment begins there, which later text may decide. It makes a difference only where a slash stands
right behind such a marker.
-/

namespace Lox.Text.Cut

variable {text : List Char}

/-- The same part taken, with more text behind the rest. -/
def extend (cut : Cut text) (more : List Char) : Cut (text ++ more) :=
  ⟨cut.taken, cut.rest ++ more, by rw [← List.append_assoc, cut.whole]⟩

@[simp] theorem taken_extend (cut : Cut text) (more : List Char) :
    (cut.extend more).taken = cut.taken := rfl

@[simp] theorem rest_extend (cut : Cut text) (more : List Char) :
    (cut.extend more).rest = cut.rest ++ more := rfl

/-- A cut is known by what it takes. -/
theorem eq_of_taken {first second : Cut text} (same : first.taken = second.taken) :
    first = second := by
  obtain ⟨taken, rest, whole⟩ := first
  obtain ⟨taken', rest', whole'⟩ := second
  cases same
  have rests : rest = rest' := List.append_cancel_left (whole.trans whole'.symm)
  cases rests
  rfl

theorem all_taken_run (p : Char → Bool) (text : List Char) : ∀ c ∈ (run p text).taken, p c = true :=
  fun _ => List.mem_takeWhile_imp

/-- A run ends at a character that is not of its class. -/
theorem run_extend {p : Char → Bool} {c : Char} (stops : p c = false) (text more : List Char) :
    run p (text ++ c :: more) = (run p text).extend (c :: more) := by
  apply eq_of_taken
  simp only [run, taken_extend, List.takeWhile_append]
  split
  · next all =>
    rw [List.takeWhile_cons_of_neg (by simp [stops]), List.append_nil]
    exact ((List.takeWhile_prefix p).eq_of_length all).symm
  · rfl

/-- A run that ends before the text does ends there whatever follows. -/
theorem run_extend_of_stop {p : Char → Bool} (stops : (run p text).rest ≠ []) (more : List Char) :
    run p (text ++ more) = (run p text).extend more := by
  apply eq_of_taken
  simp only [run, taken_extend, List.takeWhile_append]
  split
  · next all =>
    have size := (run p text).length_eq
    have none : (run p text).rest.length = 0 := by
      simp only [run] at size ⊢
      omega
    exact absurd (List.length_eq_zero_iff.mp none) stops
  · rfl

end Lox.Text.Cut

namespace Lox.Token

open Lox.Text

variable {text : List Char}

/-! ## Comments and blanks -/

/-- No opening marker has a slash right behind it. -/
def Plain (text : List Char) : Prop := ¬ ['/', '*', '/'] <:+: text

theorem Plain.rest (plain : Plain text) (cut : Cut text) : Plain cut.rest := by
  intro inside
  apply plain
  rw [← cut.whole]
  exact inside.trans (List.suffix_append _ _).isInfix

theorem Plain.tail {c : Char} (plain : Plain (c :: text)) : Plain text :=
  fun inside => plain (inside.trans (List.suffix_cons c text).isInfix)

/-- A comment that ends does so whatever follows. -/
theorem commentBody?_extend (plain : Plain text) {body : Cut text}
    (found : commentBody? text = some body) (more : List Char) :
    commentBody? (text ++ more) = some (body.extend more) := by
  fun_induction commentBody? text with
  | case1 => cases found
  | case2 rest =>
    cases found
    show commentBody? ('*' :: '/' :: (rest ++ more)) = some _
    rw [commentBody?]
    rfl
  | case3 rest inner read ih outer =>
    obtain ⟨body', outerRead, rfl⟩ := Option.map_eq_some_iff.mp found
    have innerRead := ih plain.tail.tail read
    have outerRead := outer (plain.tail.tail.rest inner) outerRead
    show commentBody? ('/' :: '*' :: (rest ++ more)) = some _
    unfold commentBody?
    simp only [innerRead, Cut.rest_extend, outerRead, Option.map_some]
    exact congrArg some (Cut.eq_of_taken rfl)
  | case4 after => exact absurd ⟨[], after, rfl⟩ plain
  | case5 => cases found
  | case6 c rest noEnd noMarker ih =>
    obtain ⟨body', read, rfl⟩ := Option.map_eq_some_iff.mp found
    -- A rest that holds the end of a comment is not empty, so the text behind decides nothing.
    cases rest with
    | nil => simp [commentBody?] at read
    | cons d rest =>
      have later := ih plain.tail read
      show commentBody? (c :: (d :: rest ++ more)) = some _
      rw [commentBody?, later]
      · rfl
      · intro after isStar same
        exact noEnd rest isStar (by simp_all)
      · intro after isSlash same
        exact noMarker rest isSlash (by simp_all)

/-- Where no comment begins, only a blank makes a gap. -/
theorem gapItem?_of_no_comment {c : Char} (line : ∀ rest, c = '/' → text ≠ '/' :: rest)
    (block : ∀ rest, c = '/' → text ≠ '*' :: rest) :
    gapItem? (c :: text) = if isBlank c then some ((Cut.empty text).push c) else none := by
  rw [gapItem?]
  · exact line
  · exact block

/-- A blank or a comment is the same with a line feed and more text behind. -/
theorem gapItem?_extend (plain : Plain text) {item : Cut text} (found : gapItem? text = some item)
    (more : List Char) : gapItem? (text ++ '\n' :: more) = some (item.extend ('\n' :: more)) := by
  unfold gapItem? at found
  split at found
  · cases found
  · next rest =>
    cases found
    show gapItem? ('/' :: '/' :: (rest ++ '\n' :: more)) = some _
    rw [gapItem?, Cut.run_extend (by decide)]
    rfl
  · next rest =>
    obtain ⟨body, read, rfl⟩ := Option.map_eq_some_iff.mp found
    show gapItem? ('/' :: '*' :: (rest ++ '\n' :: more)) = some _
    rw [gapItem?, commentBody?_extend plain.tail.tail read]
    rfl
  · next c rest noLine noBlock =>
    split at found
    · next blank =>
      cases found
      have other : c ≠ '/' := by
        rintro rfl
        revert blank
        decide
      show gapItem? (c :: (rest ++ '\n' :: more)) = some _
      rw [gapItem?_of_no_comment (fun _ isSlash => absurd isSlash other)
        (fun _ isSlash => absurd isSlash other), if_pos blank]
      rfl
    · cases found

/-- No blank or comment begins because of the text behind, unless it is a comment that did not
end. -/
theorem gapItem?_none_extend {c : Char} (absent : gapItem? (c :: text) = none)
    (block : ∀ rest, c = '/' → text ≠ '*' :: rest) (more : List Char) :
    gapItem? (c :: text ++ '\n' :: more) = none := by
  have line : ∀ rest, c = '/' → text ≠ '/' :: rest := by
    rintro rest rfl rfl
    simp [gapItem?] at absent
  have unchanged : ∀ d : Char, d ≠ '\n' → (∀ rest, c = '/' → text ≠ d :: rest) →
      ∀ rest, c = '/' → text ++ '\n' :: more ≠ d :: rest := by
    intro d other before rest isSlash same
    cases text with
    | nil => exact other (List.cons.inj same).1.symm
    | cons e tail =>
      obtain ⟨rfl, -⟩ := List.cons.inj same
      exact before tail isSlash rfl
  rw [gapItem?_of_no_comment line block] at absent
  show gapItem? (c :: (text ++ '\n' :: more)) = none
  rw [gapItem?_of_no_comment (unchanged '/' (by decide) line) (unchanged '*' (by decide) block)]
  split at absent
  · cases absent
  · next dark => rw [if_neg dark]

/-! ## Gaps -/

theorem gap_of_item {item : Cut text} (found : gapItem? text = some item) :
    gap text = item.append (gap item.rest) := by
  rw [gap]
  split
  · next other same =>
    obtain rfl := Option.some.inj (found.symm.trans same)
    rfl
  · next absent => rw [found] at absent; cases absent

theorem gap_of_none (absent : gapItem? text = none) : gap text = Cut.empty text := by
  rw [gap]
  split
  · next item found => rw [absent] at found; cases found
  · rfl

/-- A gap before the end of a text ends at the same place with more text behind, unless an opening
marker stands there. -/
theorem gap_extend (plain : Plain text) (more : List Char) {c : Char} {rest : List Char}
    (stops : (gap text).rest = c :: rest) (block : ∀ after, c = '/' → rest ≠ '*' :: after) :
    gap (text ++ '\n' :: more) = (gap text).extend ('\n' :: more) := by
  fun_induction gap text with
  | case1 text item found ih =>
    have later := ih (plain.rest item) stops
    rw [gap_of_item (gapItem?_extend plain found more)]
    apply Cut.eq_of_taken
    simp only [Cut.append, Cut.taken_extend]
    rw [Cut.rest_extend, later]
    rfl
  | case2 text absent =>
    obtain rfl : text = c :: rest := stops
    rw [gap_of_none (gapItem?_none_extend absent block more)]
    exact Cut.eq_of_taken rfl

/-- A gap that reaches the end of a text goes on behind the line feed. -/
theorem rest_gap_joined (plain : Plain text) (more : List Char) (ends : (gap text).rest = []) :
    (gap (text ++ '\n' :: more)).rest = (gap more).rest := by
  fun_induction gap text with
  | case1 text item found ih =>
    rw [gap_of_item (gapItem?_extend plain found more)]
    exact ih (plain.rest item) ends
  | case2 text absent =>
    obtain rfl : text = [] := ends
    have blank : gapItem? ('\n' :: more) = some ((Cut.empty more).push '\n') := by
      rw [gapItem?_of_no_comment (by simp) (by simp), if_pos isBlank_newline]
    rw [List.nil_append, gap_of_item blank]
    rfl

/-! ## Separators -/

/-- The character is part of no token other than a string. -/
structure Separates (c : Char) : Prop where
  no_digit : isDigit c = false
  no_start : isIdentifierStart c = false
  no_continue : isIdentifierContinue c = false
  no_mark : Kind.ofMark? c = none
  no_quote : c ≠ '"'

theorem Separates.ne_mark {c mark : Char} (separates : Separates c)
    (single : (Kind.ofMark? mark).isSome) : c ≠ mark := by
  rintro rfl
  rw [separates.no_mark] at single
  cases single

theorem Separates.ofMarkPair? {c : Char} (separates : Separates c) (d : Char) :
    Kind.ofMarkPair? d c = none := by
  have noEqual : c ≠ '=' := separates.ne_mark rfl
  unfold Kind.ofMarkPair?
  split <;> first | rfl | exact absurd rfl noEqual

theorem separates_of_isBlank {c : Char} (blank : isBlank c = true) : Separates c := by
  have each : ∀ range ∈ blankTable,
      ∀ code ∈ List.range' range.first (range.last + 1 - range.first),
        isDigit (.ofNat code) = false ∧ isIdentifierStart (.ofNat code) = false ∧
          isIdentifierContinue (.ofNat code) = false ∧ Kind.ofMark? (.ofNat code) = none ∧
          Char.ofNat code ≠ '"' := by
    decide +kernel
  obtain ⟨range, listed, low, high⟩ := CodeRange.mem_of_tableHolds blank
  have known := each range listed c.toNat (List.mem_range'_1.mpr (by omega))
  rw [Char.ofNat_toNat] at known
  obtain ⟨noDigit, noStart, noContinue, noMark, noQuote⟩ := known
  exact ⟨noDigit, noStart, noContinue, noMark, noQuote⟩

/-! ## Lexemes -/

namespace Lexeme

variable {sep : Char}

/-- The same lexeme with more text behind. -/
def extend (lexeme : Lexeme text) (more : List Char) : Lexeme (text ++ more) :=
  { lexeme.toCut.extend more with
    kind := lexeme.kind
    literal := lexeme.literal
    nonempty := lexeme.nonempty }

/-- A lexeme is known by its characters, its kind and its literal. -/
theorem eq_of_parts {first second : Lexeme text} (taken : first.taken = second.taken)
    (kind : first.kind = second.kind) (literal : first.literal = second.literal) :
    first = second := by
  obtain ⟨cut, kind, literal, nonempty⟩ := first
  obtain ⟨cut', kind', literal', nonempty'⟩ := second
  obtain rfl : cut = cut' := Cut.eq_of_taken taken
  cases kind
  cases literal
  rfl

/-! ### Numbers -/

/-- The fraction that follows the digits before a point. -/
def fraction : (text : List Char) → Cut text
  | '.' :: rest =>
    if (Cut.run isDigit rest).taken = [] then Cut.empty _ else (Cut.run isDigit rest).push '.'
  | text => Cut.empty text

/-- The number whose whole part is given. -/
def numberOf? (whole : Cut text) : Option (Lexeme text) :=
  if nonempty : whole.taken ≠ [] then
    some
      { whole.append (fraction whole.rest) with
        kind := .number
        literal := some (.number (.ofDecimal whole.taken ((fraction whole.rest).taken.drop 1)))
        nonempty := by simp [Cut.append, nonempty] }
  else none

theorem number?_eq (text : List Char) : number? text = numberOf? (Cut.run isDigit text) := rfl

theorem fraction_of_ne {c : Char} (other : c ≠ '.') (rest : List Char) :
    fraction (c :: rest) = Cut.empty (c :: rest) := by
  rw [fraction]
  exact fun after same => other (List.cons.inj same).1

theorem fraction_extend (separates : Separates sep) (text more : List Char) :
    fraction (text ++ sep :: more) = (fraction text).extend (sep :: more) := by
  cases text with
  | nil =>
    show fraction (sep :: more) = _
    rw [fraction_of_ne (separates.ne_mark rfl)]
    exact Cut.eq_of_taken rfl
  | cons c rest =>
    show fraction (c :: (rest ++ sep :: more)) = _
    by_cases isPoint : c = '.'
    · subst isPoint
      unfold fraction
      simp only [Cut.run_extend separates.no_digit, Cut.taken_extend]
      split <;> exact Cut.eq_of_taken rfl
    · rw [fraction_of_ne isPoint, fraction_of_ne isPoint]
      exact Cut.eq_of_taken rfl

theorem numberOf?_extend (separates : Separates sep) (whole : Cut text) (more : List Char) :
    numberOf? (whole.extend (sep :: more)) = (numberOf? whole).map (·.extend (sep :: more)) := by
  have same : (fraction (whole.rest ++ sep :: more)).taken = (fraction whole.rest).taken :=
    congrArg Cut.taken (fraction_extend separates whole.rest more)
  unfold numberOf?
  by_cases nonempty : whole.taken ≠ []
  · have nonempty' : (whole.extend (sep :: more)).taken ≠ [] := nonempty
    rw [dif_pos nonempty, dif_pos nonempty']
    refine congrArg some (eq_of_parts ?_ rfl ?_)
    · exact congrArg (whole.taken ++ ·) same
    · exact congrArg
        (fun chars => some (Literal.number (.ofDecimal whole.taken (chars.drop 1)))) same
  · have empty' : ¬ (whole.extend (sep :: more)).taken ≠ [] := nonempty
    rw [dif_neg nonempty, dif_neg empty']
    rfl

theorem number?_extend (separates : Separates sep) (text more : List Char) :
    number? (text ++ sep :: more) = (number? text).map (·.extend (sep :: more)) := by
  rw [number?_eq, number?_eq, Cut.run_extend separates.no_digit, numberOf?_extend separates]

/-! ### Words and marks -/

/-- The word whose first character and further characters are given. -/
def wordOf (c : Char) (tail : Cut text) : Lexeme (c :: text) :=
  { tail.push c with
    kind := (Kind.ofReserved? (String.ofList (c :: tail.taken))).getD .identifier
    literal := none
    nonempty := by simp }

theorem word?_cons (c : Char) (rest : List Char) :
    word? (c :: rest) =
      if isIdentifierStart c then some (wordOf c (Cut.run isIdentifierContinue rest)) else none :=
  rfl

theorem word?_extend (separates : Separates sep) (text more : List Char) :
    word? (text ++ sep :: more) = (word? text).map (·.extend (sep :: more)) := by
  cases text with
  | nil =>
    show word? (sep :: more) = none
    rw [word?_cons, if_neg (by simp [separates.no_start])]
  | cons c rest =>
    show word? (c :: (rest ++ sep :: more)) = _
    rw [word?_cons, word?_cons, Cut.run_extend separates.no_continue]
    split <;> rfl

theorem mark?_of_separates (separates : Separates sep) (more : List Char) :
    mark? (sep :: more) = none := by
  have noPair : ∀ d, Kind.ofMarkPair? sep d = none := by
    intro d
    unfold Kind.ofMarkPair?
    split <;> first | rfl | cases separates.no_mark
  cases more <;> simp only [mark?, noPair, separates.no_mark, Option.map_none]

theorem mark?_extend (separates : Separates sep) (text more : List Char) :
    mark? (text ++ sep :: more) = (mark? text).map (·.extend (sep :: more)) := by
  match text with
  | [] => exact mark?_of_separates separates more
  | [c] =>
    show mark? (c :: sep :: more) = _
    simp only [mark?, separates.ofMarkPair?]
    cases Kind.ofMark? c <;> rfl
  | c :: d :: rest =>
    show mark? (c :: d :: (rest ++ sep :: more)) = _
    simp only [mark?]
    cases Kind.ofMarkPair? c d with
    | some kind => rfl
    | none => cases Kind.ofMark? c <;> rfl

/-! ### Strings -/

/-- The string whose characters up to the closing quote are given. -/
def stringOf? (body : Cut text) : Option (Lexeme ('"' :: text)) :=
  match closing : body.rest with
  | '"' :: after =>
    some
      { taken := '"' :: body.taken ++ ['"']
        rest := after
        whole := by
          have := body.whole
          rw [closing] at this
          simp [this]
        kind := .string
        literal := some (.string (String.ofList body.taken))
        nonempty := by simp }
  | _ => none

theorem string?_quote (rest : List Char) :
    string? ('"' :: rest) = stringOf? (Cut.run (· ≠ '"') rest) := rfl

theorem string?_of_ne {c : Char} (other : c ≠ '"') (rest : List Char) :
    string? (c :: rest) = none := by
  rw [string?]
  exact fun after same => other (List.cons.inj same).1

theorem stringOf?_extend {body : Cut text} {lexeme : Lexeme ('"' :: text)}
    (found : stringOf? body = some lexeme) (more : List Char) :
    body.rest ≠ [] ∧ stringOf? (body.extend more) = some (lexeme.extend more) := by
  obtain ⟨taken, rest, whole⟩ := body
  cases rest with
  | nil => cases found
  | cons c after =>
    by_cases isQuote : c = '"'
    · subst isQuote
      cases found
      exact ⟨List.cons_ne_nil _ _, rfl⟩
    · unfold stringOf? at found
      split at found
      · next closing => exact absurd (List.cons.inj closing).1 isQuote
      · cases found

theorem string?_extend {lexeme : Lexeme text} (found : string? text = some lexeme)
    (more : List Char) : string? (text ++ more) = some (lexeme.extend more) := by
  cases text with
  | nil => cases found
  | cons c rest =>
    by_cases isQuote : c = '"'
    · subst isQuote
      rw [string?_quote] at found
      obtain ⟨stops, extended⟩ := stringOf?_extend found more
      show string? ('"' :: (rest ++ more)) = some _
      rw [string?_quote, Cut.run_extend_of_stop stops]
      exact extended
    · rw [string?_of_ne isQuote] at found
      cases found

/-! ### All of them -/

/-- A character that begins no number and no word begins a string or is a mark. -/
theorem read?_of_symbol {c : Char} (noDigit : isDigit c = false)
    (noStart : isIdentifierStart c = false) (rest : List Char) :
    read? (c :: rest) = (string? (c :: rest) <|> mark? (c :: rest)) := by
  have noNumber : number? (c :: rest) = none := by
    simp [number?_eq, numberOf?, Cut.run, noDigit]
  have noWord : word? (c :: rest) = none := by
    simp [word?_cons, noStart]
  unfold read?
  rw [noNumber, noWord]
  cases string? (c :: rest) <;> rfl

/-- Only a string begins with a quote. -/
theorem read?_quote (rest : List Char) : read? ('"' :: rest) = string? ('"' :: rest) := by
  have noMark : mark? ('"' :: rest) = none := by cases rest <;> rfl
  rw [read?_of_symbol (by decide) (by decide), noMark]
  cases string? ('"' :: rest) <;> rfl

theorem read?_of_separates (separates : Separates sep) (more : List Char) :
    read? (sep :: more) = none := by
  rw [read?_of_symbol separates.no_digit separates.no_start, string?_of_ne separates.no_quote,
    mark?_of_separates separates]
  rfl

/-- What is read at the start of a text is also read with a separator and more text behind. -/
theorem read?_extend (separates : Separates sep) {lexeme : Lexeme text}
    (found : read? text = some lexeme) (more : List Char) :
    read? (text ++ sep :: more) = some (lexeme.extend (sep :: more)) := by
  cases text with
  | nil => cases found
  | cons c rest =>
    by_cases isQuote : c = '"'
    · subst isQuote
      rw [read?_quote] at found
      show read? ('"' :: (rest ++ sep :: more)) = some _
      rw [read?_quote]
      exact string?_extend found _
    · have quoteless : string? (c :: rest ++ sep :: more) = none := string?_of_ne isQuote _
      unfold read? at found ⊢
      rw [string?_of_ne isQuote] at found
      rw [number?_extend separates, word?_extend separates, mark?_extend separates, quoteless]
      generalize number? (c :: rest) = number, word? (c :: rest) = word,
        mark? (c :: rest) = mark at found ⊢
      cases number <;> cases word <;> cases mark <;> cases found <;> rfl

end Lexeme
end Lox.Token
