import Lox.Proofs.Token.Extension

/-!
# How tokens are spelled

Which texts spell a token, of which kind and with which literal, said without reading them. The
first character tells numbers, strings, words and marks apart, so a text spells at most one token.
What is read at the start of a text is the longest of its beginnings that spell a token.
-/

namespace Lox.Token

open Lox.Text

/-- The characters spell a token. -/
inductive Spells : List Char → Kind → Option Literal → Prop
  | whole {digits : List Char} (some_digit : digits ≠ []) (all : ∀ c ∈ digits, isDigit c = true) :
      Spells digits .number (some (.number (.ofDecimal digits [])))
  | decimal {digits fraction : List Char} (some_digit : digits ≠ [])
      (all : ∀ c ∈ digits, isDigit c = true) (some_place : fraction ≠ [])
      (places : ∀ c ∈ fraction, isDigit c = true) :
      Spells (digits ++ '.' :: fraction) .number (some (.number (.ofDecimal digits fraction)))
  | string {body : List Char} (plain : '"' ∉ body) :
      Spells ('"' :: (body ++ ['"'])) .string (some (.string (.ofList body)))
  /-- A reserved word has a kind of its own. -/
  | word {c : Char} {tail : List Char} (starts : isIdentifierStart c = true)
      (continues : ∀ d ∈ tail, isIdentifierContinue d = true) :
      Spells (c :: tail) ((Kind.ofReserved? (.ofList (c :: tail))).getD .identifier) none
  | mark {c : Char} {kind : Kind} (single : Kind.ofMark? c = some kind) : Spells [c] kind none
  | markPair {c d : Char} {kind : Kind} (pair : Kind.ofMarkPair? c d = some kind) :
      Spells [c, d] kind none

/-! ## First characters -/

/-- The table begins with the capital letters, which stand behind the digits. -/
theorem isIdentifierStart_of_isDigit {c : Char} (digit : isDigit c = true) :
    isIdentifierStart c = false := by
  have bounds : 48 ≤ c.toNat ∧ c.toNat ≤ 57 := by
    simp only [isDigit, Bool.and_eq_true, decide_eq_true_eq] at digit
    exact digit
  have other : c ≠ '_' := by
    rintro rfl
    revert bounds
    decide
  have table : identifierStartTable = ⟨0x41, 0x5A⟩ :: identifierStartTable.tail := rfl
  have early : decide (c.toNat ≤ 0x5A) = true := decide_eq_true (by omega)
  have outside : decide (0x41 ≤ c.toNat) = false := decide_eq_false (by omega)
  unfold isIdentifierStart CodeRange.tableHolds
  rw [table, List.find?_cons_of_pos (by exact early)]
  simp only [outside, Bool.or_false, beq_eq_false_iff_ne]
  exact other

theorem symbol_of_ofMark? {c : Char} {kind : Kind} (single : Kind.ofMark? c = some kind) :
    isDigit c = false ∧ isIdentifierStart c = false ∧ c ≠ '"' := by
  unfold Kind.ofMark? at single
  split at single <;> first | decide | cases single

theorem ofMark?_of_ofMarkPair? {c d : Char} {kind : Kind}
    (pair : Kind.ofMarkPair? c d = some kind) :
    d = '=' ∧ ∃ single, Kind.ofMark? c = some single := by
  unfold Kind.ofMarkPair? at pair
  split at pair <;> first | exact ⟨rfl, _, rfl⟩ | cases pair

/-! ## What is read is spelled -/

namespace Lexeme

variable {text : List Char} {lexeme : Lexeme text}

theorem number?_spells (found : number? text = some lexeme) :
    Spells lexeme.taken lexeme.kind lexeme.literal := by
  rw [number?_eq, numberOf?] at found
  split at found
  · next some_digit =>
    cases found
    have all := Cut.all_taken_run isDigit text
    generalize (Cut.run isDigit text) = whole at some_digit all
    obtain ⟨digits, rest, _⟩ := whole
    show Spells (digits ++ (fraction rest).taken) _
      (some (.number (.ofDecimal digits ((fraction rest).taken.drop 1))))
    unfold fraction
    split
    · next places _ =>
      split
      · rw [show (Cut.empty _).taken = ([] : List Char) from rfl, List.append_nil]
        exact .whole some_digit all
      · next some_place =>
        exact .decimal some_digit all some_place (Cut.all_taken_run isDigit places)
    · rw [show (Cut.empty _).taken = ([] : List Char) from rfl, List.append_nil]
      exact .whole some_digit all
  · cases found

theorem string?_spells (found : string? text = some lexeme) :
    Spells lexeme.taken lexeme.kind lexeme.literal := by
  cases text with
  | nil => cases found
  | cons c rest =>
    by_cases isQuote : c = '"'
    · subst isQuote
      have plain : '"' ∉ (Cut.run (· ≠ '"') rest).taken :=
        fun member => absurd (Cut.all_taken_run _ rest _ member) (by simp)
      rw [string?_quote, stringOf?] at found
      split at found
      · cases found
        exact .string plain
      · cases found
    · rw [string?_of_ne isQuote] at found
      cases found

theorem word?_spells (found : word? text = some lexeme) :
    Spells lexeme.taken lexeme.kind lexeme.literal := by
  cases text with
  | nil => cases found
  | cons c rest =>
    rw [word?_cons] at found
    split at found
    · next starts =>
      cases found
      exact .word starts (Cut.all_taken_run isIdentifierContinue rest)
    · cases found

theorem mark?_spells (found : mark? text = some lexeme) :
    Spells lexeme.taken lexeme.kind lexeme.literal := by
  unfold mark? at found
  split at found
  · split at found
    · next pair =>
      cases found
      exact .markPair pair
    · obtain ⟨kind, single, rfl⟩ := Option.map_eq_some_iff.mp found
      exact .mark single
  · obtain ⟨kind, single, rfl⟩ := Option.map_eq_some_iff.mp found
    exact .mark single
  · cases found

theorem read?_spells (found : read? text = some lexeme) :
    Spells lexeme.taken lexeme.kind lexeme.literal := by
  simp only [read?, Option.orElse_eq_orElse, Option.orElse_eq_or, Option.or_eq_some_iff] at found
  rcases found with number | ⟨-, string | ⟨-, word | ⟨-, mark⟩⟩⟩
  · exact number?_spells number
  · exact string?_spells string
  · exact word?_spells word
  · exact mark?_spells mark

end Lexeme

/-! ## What is spelled is read -/

/-- What is read where a text begins with the spelling of a token: that token, or one that goes on
behind it. -/
structure Lexeme.Covers {text : List Char} (lexeme : Lexeme text) (chars : List Char) (kind : Kind)
    (literal : Option Literal) : Prop where
  begins : chars <+: lexeme.taken
  same : lexeme.taken = chars → lexeme.kind = kind ∧ lexeme.literal = literal

namespace Lexeme

theorem read?_of_number {text : List Char} {lexeme : Lexeme text}
    (found : number? text = some lexeme) : read? text = some lexeme := by
  unfold read?
  rw [found]
  rfl

theorem read?_whole {digits : List Char} (some_digit : digits ≠ [])
    (all : ∀ c ∈ digits, isDigit c = true) (more : List Char) :
    ∃ lexeme, read? (digits ++ more) = some lexeme ∧
      lexeme.Covers digits .number (some (.number (.ofDecimal digits []))) := by
  have run : (Cut.run isDigit (digits ++ more)).taken = digits ++ more.takeWhile isDigit :=
    List.takeWhile_append_of_pos all
  have number : number? (digits ++ more) = numberOf? (Cut.run isDigit (digits ++ more)) := rfl
  generalize Cut.run isDigit (digits ++ more) = cut at run number
  have nonempty : cut.taken ≠ [] := by simp [run, some_digit]
  rw [numberOf?, dif_pos nonempty] at number
  refine ⟨_, read?_of_number number, ?_, ?_⟩
  · show digits <+: cut.taken ++ (fraction cut.rest).taken
    rw [run, List.append_assoc]
    exact List.prefix_append _ _
  · intro same
    have whole : cut.taken ++ (fraction cut.rest).taken = digits := same
    refine ⟨rfl, ?_⟩
    show some (Literal.number (.ofDecimal cut.taken ((fraction cut.rest).taken.drop 1))) = _
    rw [run, List.append_assoc] at whole
    have nothing := List.append_eq_nil_iff.mp (List.append_right_eq_self.mp whole)
    rw [run, nothing.1, nothing.2, List.append_nil]
    rfl

theorem read?_decimal {digits places : List Char} (some_digit : digits ≠ [])
    (all : ∀ c ∈ digits, isDigit c = true) (some_place : places ≠ [])
    (allPlaces : ∀ c ∈ places, isDigit c = true) (more : List Char) :
    ∃ lexeme, read? (digits ++ '.' :: places ++ more) = some lexeme ∧
      lexeme.Covers (digits ++ '.' :: places) .number
        (some (.number (.ofDecimal digits places))) := by
  have text : digits ++ '.' :: places ++ more = digits ++ '.' :: (places ++ more) := by simp
  rw [text]
  have run : Cut.run isDigit (digits ++ '.' :: (places ++ more)) =
      ⟨digits, '.' :: (places ++ more), rfl⟩ := by
    rw [Cut.run_extend (by decide)]
    apply Cut.eq_of_taken
    exact List.takeWhile_eq_self_iff.mpr all
  have behind : (Cut.run isDigit (places ++ more)).taken = places ++ more.takeWhile isDigit :=
    List.takeWhile_append_of_pos allPlaces
  have found : (fraction ('.' :: (places ++ more))).taken =
      '.' :: (places ++ more.takeWhile isDigit) := by
    have given : (Cut.run isDigit (places ++ more)).taken ≠ [] := by simp [behind, some_place]
    show (if (Cut.run isDigit (places ++ more)).taken = [] then Cut.empty _ else _).taken = _
    rw [if_neg given, Cut.taken_push, behind]
  have number : number? (digits ++ '.' :: (places ++ more)) = numberOf? ⟨digits, _, rfl⟩ := by
    rw [number?_eq, run]
  rw [numberOf?, dif_pos some_digit] at number
  refine ⟨_, read?_of_number number, ?_, ?_⟩
  · show _ <+: digits ++ (fraction ('.' :: (places ++ more))).taken
    rw [found, ← List.cons_append, ← List.append_assoc]
    exact List.prefix_append _ _
  · intro same
    have whole : digits ++ (fraction ('.' :: (places ++ more))).taken = digits ++ '.' :: places :=
      same
    refine ⟨rfl, ?_⟩
    show some (Literal.number (.ofDecimal digits
      ((fraction ('.' :: (places ++ more))).taken.drop 1))) = _
    rw [List.append_cancel_left whole]
    rfl

theorem read?_string {body : List Char} (plain : '"' ∉ body) (more : List Char) :
    ∃ lexeme, read? ('"' :: (body ++ ['"']) ++ more) = some lexeme ∧
      lexeme.Covers ('"' :: (body ++ ['"'])) .string (some (.string (.ofList body))) := by
  have text : '"' :: (body ++ ['"']) ++ more = '"' :: (body ++ '"' :: more) := by simp
  have run : Cut.run (· ≠ '"') (body ++ '"' :: more) = ⟨body, '"' :: more, rfl⟩ := by
    rw [Cut.run_extend (by decide)]
    apply Cut.eq_of_taken
    refine List.takeWhile_eq_self_iff.mpr fun c member => decide_eq_true ?_
    rintro rfl
    exact plain member
  rw [text, read?_quote, string?_quote, run]
  exact ⟨_, rfl, ⟨List.prefix_refl _, fun _ => ⟨rfl, rfl⟩⟩⟩

theorem read?_word {c : Char} {tail : List Char} (starts : isIdentifierStart c = true)
    (continues : ∀ d ∈ tail, isIdentifierContinue d = true) (more : List Char) :
    ∃ lexeme, read? (c :: tail ++ more) = some lexeme ∧
      lexeme.Covers (c :: tail) ((Kind.ofReserved? (.ofList (c :: tail))).getD .identifier)
        none := by
  have noDigit : isDigit c = false := by
    cases digit : isDigit c with
    | false => rfl
    | true => rw [isIdentifierStart_of_isDigit digit] at starts; cases starts
  have noQuote : c ≠ '"' := by
    rintro rfl
    revert starts
    decide
  have noNumber : number? (c :: (tail ++ more)) = none := by
    simp [number?_eq, numberOf?, Cut.run, noDigit]
  have word : read? (c :: (tail ++ more)) =
      some (wordOf c (Cut.run isIdentifierContinue (tail ++ more))) := by
    unfold read?
    rw [noNumber, string?_of_ne noQuote, word?_cons, if_pos starts]
    rfl
  have run : (Cut.run isIdentifierContinue (tail ++ more)).taken =
      tail ++ more.takeWhile isIdentifierContinue := List.takeWhile_append_of_pos continues
  refine ⟨_, word, ?_, ?_⟩
  · show c :: tail <+: c :: (Cut.run isIdentifierContinue (tail ++ more)).taken
    rw [run, ← List.cons_append]
    exact List.prefix_append _ _
  · intro same
    have whole : c :: (Cut.run isIdentifierContinue (tail ++ more)).taken = c :: tail := same
    refine ⟨?_, rfl⟩
    show (Kind.ofReserved?
      (.ofList (c :: (Cut.run isIdentifierContinue (tail ++ more)).taken))).getD .identifier = _
    rw [whole]

theorem read?_of_mark {c : Char} {kind : Kind} (single : Kind.ofMark? c = some kind)
    (rest : List Char) : read? (c :: rest) = mark? (c :: rest) := by
  obtain ⟨noDigit, noStart, noQuote⟩ := symbol_of_ofMark? single
  rw [read?_of_symbol noDigit noStart, string?_of_ne noQuote]
  rfl

theorem read?_mark {c : Char} {kind : Kind} (single : Kind.ofMark? c = some kind)
    (more : List Char) :
    ∃ lexeme, read? ([c] ++ more) = some lexeme ∧ lexeme.Covers [c] kind none := by
  rw [List.singleton_append, read?_of_mark single]
  cases more with
  | nil =>
    rw [mark?, single]
    exact ⟨_, rfl, List.prefix_refl _, fun _ => ⟨rfl, rfl⟩⟩
  | cons d rest =>
    rw [mark?]
    cases pair : Kind.ofMarkPair? c d with
    | some both =>
      refine ⟨_, rfl, ⟨[d], rfl⟩, ?_⟩
      intro same
      cases same
    | none =>
      simp only [single, Option.map_some]
      exact ⟨_, rfl, List.prefix_refl _, fun _ => ⟨rfl, rfl⟩⟩

theorem read?_markPair {c d : Char} {kind : Kind} (pair : Kind.ofMarkPair? c d = some kind)
    (more : List Char) :
    ∃ lexeme, read? ([c, d] ++ more) = some lexeme ∧ lexeme.Covers [c, d] kind none := by
  obtain ⟨-, single, mark⟩ := ofMark?_of_ofMarkPair? pair
  show ∃ lexeme, read? (c :: d :: more) = some lexeme ∧ _
  rw [read?_of_mark mark, mark?, pair]
  exact ⟨_, rfl, List.prefix_refl _, fun _ => ⟨rfl, rfl⟩⟩

end Lexeme

namespace Spells

variable {chars : List Char} {kind : Kind} {literal : Option Literal}

/-- Where a text begins with the spelling of a token, a token is read, and no shorter one. -/
theorem read?_append (spells : Spells chars kind literal) (more : List Char) :
    ∃ lexeme, Lexeme.read? (chars ++ more) = some lexeme ∧ lexeme.Covers chars kind literal := by
  cases spells with
  | whole some_digit all => exact Lexeme.read?_whole some_digit all more
  | decimal some_digit all some_place places =>
    exact Lexeme.read?_decimal some_digit all some_place places more
  | string plain => exact Lexeme.read?_string plain more
  | word starts continues => exact Lexeme.read?_word starts continues more
  | mark single => exact Lexeme.read?_mark single more
  | markPair pair => exact Lexeme.read?_markPair pair more

theorem ne_nil (spells : Spells chars kind literal) : chars ≠ [] := by
  cases spells <;> simp_all

theorem read?_self (spells : Spells chars kind literal) :
    ∃ lexeme : Lexeme chars, Lexeme.read? chars = some lexeme ∧ lexeme.taken = chars ∧
      lexeme.kind = kind ∧ lexeme.literal = literal := by
  have alone := spells.read?_append []
  rw [List.append_nil] at alone
  obtain ⟨lexeme, read, covers⟩ := alone
  have size := lexeme.toCut.length_eq
  have whole : lexeme.taken = chars := (covers.begins.eq_of_length_le (by omega)).symm
  obtain ⟨kinds, literals⟩ := covers.same whole
  exact ⟨lexeme, read, whole, kinds, literals⟩

/-- A text spells one token at most. -/
theorem unique {other : Kind} {otherLiteral : Option Literal} (spells : Spells chars kind literal)
    (again : Spells chars other otherLiteral) : other = kind ∧ otherLiteral = literal := by
  obtain ⟨lexeme, read, -, rfl, rfl⟩ := spells.read?_self
  obtain ⟨twin, readAgain, -, rfl, rfl⟩ := again.read?_self
  obtain rfl : lexeme = twin := Option.some.inj (read.symm.trans readAgain)
  exact ⟨rfl, rfl⟩

/-- A string is spelled by its literal between two quotes. -/
theorem quoted (spells : Spells chars .string literal) :
    ∃ body, chars = '"' :: (body ++ ['"']) ∧ literal = some (.string (.ofList body)) := by
  generalize isString : Kind.string = kind at spells
  cases spells with
  | string => exact ⟨_, rfl, rfl⟩
  | @word c tail =>
    have all : ∀ entry ∈ Kind.reserved, entry.2 ≠ .string := by decide
    cases reserved : Kind.ofReserved? (.ofList (c :: tail)) with
    | none =>
      rw [reserved] at isString
      cases isString
    | some kind =>
      rw [reserved, Option.getD_some] at isString
      exact absurd isString.symm (all _ (Kind.mem_reserved_of_ofReserved? reserved))
  | mark single =>
    subst isString
    unfold Kind.ofMark? at single
    split at single <;> cases single
  | markPair pair =>
    subst isString
    unfold Kind.ofMarkPair? at pair
    split at pair <;> cases pair
  | whole => cases isString
  | decimal => cases isString

end Spells

/-- What is read is the longest beginning of the text that spells a token. -/
theorem Lexeme.read?_longest {text chars : List Char} {lexeme : Lexeme text} {kind : Kind}
    {literal : Option Literal} (found : Lexeme.read? text = some lexeme)
    (spells : Spells chars kind literal) (begins : chars <+: text) :
    chars.length ≤ lexeme.taken.length := by
  obtain ⟨more, rfl⟩ := begins
  obtain ⟨same, read, covers⟩ := spells.read?_append more
  obtain rfl : lexeme = same := Option.some.inj (found.symm.trans read)
  exact covers.begins.length_le

end Lox.Token
