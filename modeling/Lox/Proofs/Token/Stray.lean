import Lox.Proofs.Text.Position
import Lox.Proofs.Token.Nesting
import Lox.Proofs.Token.Rescan
import Lox.Proofs.Token.Skipping

/-!
# Tokens in front of a stray

Up to the first stray, a source is read as the text in front of that stray is read alone: what is
behind ends no comment and no lexeme in front of it elsewhere. The exception is again a comment with
an opening marker inside that has a slash right behind it. Whether the tokens in front are kept is
another matter. They are, if behind each stray a token begins.
-/

namespace Lox.Text

/-- A cut is known by what it leaves. -/
theorem Cut.eq_of_rest {text : List Char} {first second : Cut text}
    (same : first.rest = second.rest) : first = second := by
  have parts := first.whole.trans second.whole.symm
  rw [same] at parts
  exact Cut.eq_of_taken (List.append_cancel_right parts)

/-- A text that begins a longer one has the first characters of it. -/
theorem exists_tail_of_append {text more : List Char} (chars : List Char) {rest : List Char}
    (split : text ++ more = chars ++ rest) (within : chars.length ≤ text.length) :
    ∃ tail, text = chars ++ tail ∧ tail ++ more = rest := by
  have begins : chars <+: text :=
    List.prefix_of_prefix_length_le ⟨rest, split.symm⟩ (List.prefix_append text more) within
  obtain ⟨tail, rfl⟩ := begins
  rw [List.append_assoc] at split
  exact ⟨tail, rfl, List.append_cancel_left split⟩

/-- Of two beginnings of a text, the one with fewer bytes has fewer characters. -/
theorem length_le_of_byteLength_le {front other text : List Char} (begins : front <+: text)
    (otherBegins : other <+: text) (size : byteLength front ≤ byteLength other) :
    front.length ≤ other.length := by
  rcases List.prefix_or_prefix_of_prefix begins otherBegins with within | ⟨rest, rfl⟩
  · exact within.length_le
  · have nothing : byteLength rest = 0 := by
      rw [byteLength_append] at size
      omega
    simp [byteLength_eq_zero.mp nothing]

/-- The characters before an offset do not hang on those behind it. -/
theorem beginningBefore_append {front : List Char} {offset : Nat}
    (inside : offset ≤ byteLength front) (back : List Char) :
    beginningBefore (front ++ back) offset = beginningBefore front offset := by
  induction front generalizing offset with
  | nil =>
    obtain rfl : offset = 0 := by simpa using inside
    simp
  | cons c rest ih =>
    rw [byteLength_cons] at inside
    simp only [List.cons_append, beginningBefore]
    rw [ih (by omega)]

end Lox.Text

namespace Lox.Token

open Lox.Text

variable {text more rest : List Char}

/-! ## Comments -/

/-- What the count ends it ends there whatever follows. -/
theorem countOff_append {depth : Nat} (counted : countOff depth text = some rest)
    (more : List Char) : countOff depth (text ++ more) = some (rest ++ more) := by
  fun_induction countOff depth text with
  | case1 => cases counted
  | case2 after =>
    cases counted
    rfl
  | case3 depth after deeper ih =>
    rw [List.cons_append, List.cons_append, countOff, if_neg deeper]
    exact ih counted
  | case4 depth after ih =>
    rw [List.cons_append, List.cons_append, countOff]
    exact ih counted
  | case5 depth c after noEnd noMarker ih =>
    cases after with
    | nil => cases counted
    | cons d tail =>
      rw [List.cons_append, countOff]
      · exact ih counted
      · rintro other rfl same
        exact noEnd tail rfl (by rw [(List.cons.inj same).1])
      · rintro other rfl same
        exact noMarker tail rfl (by rw [(List.cons.inj same).1])

/-- A comment that ends within a text, with more behind it, is ended there by the count if the count
ends each opening marker in the text that has a slash right behind it. -/
theorem countOff_of_within {whole : List Char} {body : Cut whole}
    (found : commentBody? whole = some body) (split : text ++ more = whole)
    (counted : SlashesCounted text) (within : body.taken.length ≤ text.length) :
    ∃ rest, countOff 1 text = some rest ∧ body.taken ++ rest = text := by
  fun_induction commentBody? whole generalizing text with
  | case1 => cases found
  | case2 after =>
    cases found
    obtain ⟨tail, rfl, -⟩ := exists_tail_of_append ['*', '/'] split within
    exact ⟨tail, rfl, rfl⟩
  | case3 after inner read ihInner ihOuter =>
    obtain ⟨outer, readOuter, rfl⟩ := Option.map_eq_some_iff.mp found
    simp only [Cut.append, Cut.taken_push, List.length_cons, List.length_append] at within
    obtain ⟨tail, rfl, behindMarker⟩ :=
      exists_tail_of_append ['/', '*'] split (Nat.le_trans (Nat.le_add_left 2 _) within)
    simp only [List.cons_append, List.nil_append, List.length_cons] at within ⊢
    have tailCounted : SlashesCounted tail := counted.suffix ⟨['/', '*'], rfl⟩
    obtain ⟨between, innerCounted, rfl⟩ := ihInner read behindMarker tailCounted (by omega)
    have behind : between ++ more = inner.rest := by
      have parts := behindMarker.trans inner.whole.symm
      rw [List.append_assoc] at parts
      exact List.append_cancel_left parts
    rw [List.length_append] at within
    have restCounted : SlashesCounted between := tailCounted.suffix ⟨inner.taken, rfl⟩
    obtain ⟨rest, outerCounted, rfl⟩ := ihOuter readOuter behind restCounted (by omega)
    refine ⟨rest, ?_, by simp [Cut.append]⟩
    rw [countOff_marker, innerCounted]
    exact outerCounted
  | case4 after absent ih =>
    cases found
    obtain ⟨tail, rfl, rfl⟩ := exists_tail_of_append ['/', '*', '/'] split within
    -- The count ends the comment that the marker opens, and then so does the scanner.
    obtain ⟨behind, innerCounted⟩ :=
      Option.ne_none_iff_exists'.mp (counted tail List.suffix_rfl)
    have read := rest_commentBody?_of_countOff (countOff_append innerCounted more)
    rw [List.cons_append, absent] at read
    cases read
  | case5 => cases found
  | case6 c after noEnd noMarker ih =>
    obtain ⟨body, read, rfl⟩ := Option.map_eq_some_iff.mp found
    rw [Cut.taken_push, List.length_cons] at within
    obtain ⟨tail, rfl, rfl⟩ :=
      exists_tail_of_append [c] split (Nat.le_trans (Nat.le_add_left 1 _) within)
    have tailCounted : SlashesCounted tail := counted.suffix (List.suffix_cons c tail)
    obtain ⟨rest, restCounted, parts⟩ := ih read rfl tailCounted (Nat.le_of_succ_le_succ within)
    refine ⟨rest, ?_, congrArg (c :: ·) parts⟩
    rw [List.singleton_append, countOff]
    · exact restCounted
    · exact fun other isStar same => noEnd (other ++ more) isStar (by rw [same]; rfl)
    · exact fun other isSlash same => noMarker (other ++ more) isSlash (by rw [same]; rfl)

/-! ## Gaps -/

/-- If a comment begins a text, then the count ends it, or the count ends each opening marker in it
that has a slash right behind it. -/
def MarkerCounted (text : List Char) : Prop :=
  ∀ body, text = '/' :: '*' :: body → countOff 1 body = none → SlashesCounted body

theorem gapItem?_of_isBlank {c : Char} (blank : isBlank c = true) (rest : List Char) :
    gapItem? (c :: rest) = some ((Cut.empty rest).push c) := by
  have other : c ≠ '/' := by
    rintro rfl
    revert blank
    decide
  rw [gapItem?_of_no_comment (fun _ isSlash => absurd isSlash other)
    (fun _ isSlash => absurd isSlash other), if_pos blank]

/-- A blank or a comment that leaves some of a text ends there whatever follows. -/
theorem gapItem?_append (counted : MarkerCounted text) {item : Cut text}
    (found : gapItem? text = some item) (stops : item.rest ≠ []) (more : List Char) :
    gapItem? (text ++ more) = some (item.extend more) := by
  unfold gapItem? at found
  split at found
  · cases found
  · next line =>
    cases found
    show gapItem? ('/' :: '/' :: (line ++ more)) = some _
    rw [gapItem?, Cut.run_extend_of_stop stops]
    rfl
  · next inside =>
    obtain ⟨body, read, rfl⟩ := Option.map_eq_some_iff.mp found
    have ended : countOff 1 inside = some body.rest := by
      cases counts : countOff 1 inside with
      | none =>
        have right := (counted inside rfl counts).countedRight
        rw [CountedRight, read, counts] at right
        cases right
      | some rest =>
        have same := rest_commentBody?_of_countOff counts
        rw [read] at same
        exact same.symm
    have further := rest_commentBody?_of_countOff (countOff_append ended more)
    obtain ⟨longer, readLonger, same⟩ := Option.map_eq_some_iff.mp further
    obtain rfl : longer = body.extend more := Cut.eq_of_rest same
    show gapItem? ('/' :: '*' :: (inside ++ more)) = some _
    rw [gapItem?, readLonger]
    rfl
  · next c tail noLine noBlock =>
    split at found
    · next blank =>
      cases found
      show gapItem? (c :: (tail ++ more)) = some _
      rw [gapItem?_of_isBlank blank]
      rfl
    · cases found

/-- A blank or a comment that ends within a text, with more behind it, begins that text. -/
theorem gapItem?_of_within (counted : MarkerCounted text) {whole : List Char} {item : Cut whole}
    (found : gapItem? whole = some item) (split : text ++ more = whole)
    (within : item.taken.length ≤ text.length) : gapItem? text ≠ none := by
  unfold gapItem? at found
  split at found
  · cases found
  · next line =>
    cases found
    rw [Cut.taken_push, Cut.taken_push, List.length_cons, List.length_cons] at within
    obtain ⟨tail, rfl, -⟩ :=
      exists_tail_of_append ['/', '/'] split (Nat.le_trans (Nat.le_add_left 2 _) within)
    simp [gapItem?]
  · next inside =>
    obtain ⟨body, read, rfl⟩ := Option.map_eq_some_iff.mp found
    rw [Cut.taken_push, Cut.taken_push, List.length_cons, List.length_cons] at within
    obtain ⟨tail, rfl, behindMarker⟩ :=
      exists_tail_of_append ['/', '*'] split (Nat.le_trans (Nat.le_add_left 2 _) within)
    simp only [List.cons_append, List.nil_append, List.length_cons] at within ⊢
    have ended : countOff 1 tail ≠ none := by
      intro counts
      obtain ⟨rest, ended, -⟩ :=
        countOff_of_within read behindMarker (counted tail rfl counts) (by omega)
      rw [counts] at ended
      cases ended
    obtain ⟨rest, ended⟩ := Option.ne_none_iff_exists'.mp ended
    have bodyEnds := rest_commentBody?_of_countOff ended
    intro absent
    rw [gapItem?, Option.map_eq_none_iff] at absent
    rw [absent] at bodyEnds
    cases bodyEnds
  · next c tail noLine noBlock =>
    split at found
    · next blank =>
      cases found
      obtain ⟨tail, rfl, -⟩ := exists_tail_of_append [c] split within
      simp [gapItem?_of_isBlank blank]
    · cases found

/-! ## Lexemes -/

/-- A lexeme that ends within a text, with more behind it, is read in that text. -/
theorem Lexeme.read?_of_within {lexeme : Lexeme (text ++ more)}
    (found : Lexeme.read? (text ++ more) = some lexeme)
    (within : lexeme.taken.length ≤ text.length) :
    ∃ same : Lexeme text, Lexeme.read? text = some same ∧ lexeme = same.extend more := by
  have begins : lexeme.taken <+: text :=
    List.prefix_of_prefix_length_le ⟨_, lexeme.whole⟩ (List.prefix_append text more) within
  obtain ⟨tail, parts⟩ := begins
  have again := (read?_spells found).read?_append tail
  rw [parts] at again
  obtain ⟨same, read, covers⟩ := again
  have inWhole : same.taken <+: text ++ more :=
    List.IsPrefix.trans ⟨_, same.whole⟩ (List.prefix_append text more)
  have taken : lexeme.taken = same.taken :=
    covers.begins.eq_of_length_le (read?_longest found (read?_spells read) inWhole)
  obtain ⟨kind, literal⟩ := covers.same taken.symm
  exact ⟨same, read, eq_of_parts taken kind.symm literal.symm⟩

/-! ## Readings -/

/-- The comments that are met on the way through a text end as the count has it: where the count
does not end one, it ends each opening marker behind that has a slash right behind it. -/
def CommentsCounted (text : List Char) : Prop := ∀ rest, SkipsAt text rest → MarkerCounted rest

theorem SlashesCounted.comments (counted : SlashesCounted text) : CommentsCounted text := by
  rintro _ skips body rfl -
  exact counted.suffix ((List.suffix_append ['/', '*'] body).trans skips.suffix)

theorem Plain.slashesCounted (plain : Plain text) : SlashesCounted text := by
  intro after inside
  exact absurd (List.IsInfix.trans ⟨[], after, rfl⟩ inside.isInfix) plain

theorem readFrom_strays_start (text : List Char) (start : Nat) :
    ∀ stray ∈ (readFrom text start).strays, start ≤ stray.offset := by
  fun_induction readFrom text start with
  | case1 => simp
  | case2 start c rest lexeme found after ih =>
    intro stray member
    have := ih stray member
    omega
  | case3 start c rest absent skipped resumed ih =>
    refine List.forall_mem_cons.mpr ⟨Nat.le_refl _, fun stray member => ?_⟩
    have := ih stray member
    omega
  | case4 => simp

theorem readPast_strays_start (text : List Char) (start : Nat) :
    ∀ stray ∈ (readPast text start).strays, start ≤ stray.offset :=
  fun stray member => Nat.le_of_add_right_le (readFrom_strays_start _ _ stray member)

theorem head?_strays_of_no_lexeme {c : Char} (absent : Lexeme.read? (c :: rest) = none)
    (start : Nat) : (readFrom (c :: rest) start).strays.head? = some ⟨c, start⟩ := by
  unfold readFrom
  simp only [absent]
  split <;> rfl

/-- The text in front of the first stray has no strays, and its pieces are the first ones. -/
theorem readPast_before (counted : CommentsCounted text) {start : Nat} {stray : Stray}
    (first : (readPast (text ++ more) start).strays.head? = some stray)
    (place : stray.offset = start + byteLength text) :
    (readPast text start).strays = [] ∧
      (readPast text start).pieces <+: (readPast (text ++ more) start).pieces := by
  -- Both texts are read in the same steps, and no step can go beyond the stray.
  induction size : text.length using Nat.strongRecOn generalizing text start with
  | _ length ih =>
    have within : ∀ cut : Cut (text ++ more), start + byteLength cut.taken ≤ stray.offset →
        cut.taken.length ≤ text.length := by
      intro cut before
      exact length_le_of_byteLength_le ⟨_, cut.whole⟩ (List.prefix_append _ _) (by omega)
    cases found : gapItem? text with
    | some item =>
      have itemSize := byteLength_cut item
      have itemLength := item.rest_length_lt (taken_ne_nil_of_gapItem? found)
      rw [readPast_of_item found]
      by_cases ends : item.rest = []
      · simp [ends, readPast_nil]
      · have extended := gapItem?_append (counted _ (.here text)) found ends more
        rw [readPast_of_item extended] at first ⊢
        have later : CommentsCounted item.rest := fun rest skips =>
          counted rest (.behindItem found skips)
        exact ih item.rest.length (by omega) later first (by omega) rfl
    | none =>
      cases text with
      | nil => simp [readPast_nil]
      | cons c tail =>
        have noItem : gapItem? (c :: tail ++ more) = none := by
          cases longer : gapItem? (c :: tail ++ more) with
          | none => rfl
          | some item =>
            rw [readPast_of_item longer] at first
            have before := readPast_strays_start _ _ stray (List.mem_of_head? first)
            exact absurd found (gapItem?_of_within (counted _ (.here _)) longer rfl
              (within item before))
        rw [readPast_of_no_item noItem] at first ⊢
        rw [readPast_of_no_item found]
        cases read : Lexeme.read? (c :: tail ++ more) with
        | none =>
          rw [List.cons_append] at read first
          rw [head?_strays_of_no_lexeme read] at first
          cases first
          have positive := Char.utf8Size_pos c
          rw [byteLength_cons] at place
          simp only at place
          omega
        | some lexeme =>
          have behind := first
          rw [readFrom_of_lexeme read] at behind
          have before := readPast_strays_start _ _ stray (List.mem_of_head? behind)
          obtain ⟨same, readSame, rfl⟩ := Lexeme.read?_of_within read (within _ before)
          have sameSize := byteLength_cut same.toCut
          have sameLength := same.rest_length_lt same.nonempty
          have later : CommentsCounted same.rest := fun rest skips =>
            counted rest (.behindLexeme found readSame skips)
          obtain ⟨clean, kept⟩ := ih same.rest.length (by omega) later behind
            (by simp only [Lexeme.extend, Cut.taken_extend]; omega) rfl
          rw [readFrom_of_lexeme read, readFrom_of_lexeme readSame]
          exact ⟨clean, (List.prefix_cons_inj _).mpr kept⟩

/-! ## Reading on behind a stray -/

/-- Behind the byte at `offset` there are characters that spell a token. -/
def TokenBehind (text : List Char) (offset : Nat) : Prop :=
  ∃ front chars back kind literal, text = front ++ chars ++ back ∧ offset < byteLength front ∧
    Spells chars kind literal

theorem Lexeme.read?_ne_none_iff : Lexeme.read? text ≠ none ↔
    ∃ chars back kind literal, text = chars ++ back ∧ Spells chars kind literal := by
  constructor
  · intro present
    obtain ⟨lexeme, found⟩ := Option.ne_none_iff_exists'.mp present
    exact ⟨_, _, _, _, lexeme.whole.symm, read?_spells found⟩
  · rintro ⟨chars, back, kind, literal, rfl, spells⟩
    obtain ⟨lexeme, found, -⟩ := spells.read?_append back
    simp [found]

theorem resume?_cons (c : Char) (rest : List Char) : resume? (c :: rest) =
    if (Lexeme.read? (c :: rest)).isSome then some (Cut.empty _)
    else (resume? rest).map (·.push c) := rfl

theorem resume?_begins {skipped : Cut text} (resumed : resume? text = some skipped) :
    Lexeme.read? skipped.rest ≠ none := by
  induction text with
  | nil => cases resumed
  | cons c rest ih =>
    rw [resume?_cons] at resumed
    split at resumed
    · next begins =>
      cases resumed
      exact Option.isSome_iff_ne_none.mp begins
    · obtain ⟨further, found, rfl⟩ := Option.map_eq_some_iff.mp resumed
      exact ih found

theorem resume?_eq_none (stuck : resume? text = none) (inside : rest <:+ text) :
    Lexeme.read? rest = none := by
  induction text with
  | nil =>
    obtain rfl := List.suffix_nil.mp inside
    rfl
  | cons c tail ih =>
    rw [resume?_cons] at stuck
    split at stuck
    · cases stuck
    · next absent =>
      rcases List.suffix_cons_iff.mp inside with rfl | later
      · simpa using absent
      · exact ih (Option.map_eq_none_iff.mp stuck) later

theorem tokenBehind_iff {front : List Char} {c : Char} :
    TokenBehind (front ++ c :: text) (byteLength front) ↔ resume? text ≠ none := by
  constructor
  · rintro ⟨before, chars, back, kind, literal, split, behind, spells⟩ stuck
    rw [List.append_assoc] at split
    have inside : chars ++ back <:+ text := by
      rcases List.append_eq_append_iff.mp split with ⟨between, rfl, parts⟩ | ⟨between, rfl, -⟩
      · cases between with
        | nil =>
          rw [List.append_nil] at behind
          omega
        | cons d tail => exact ⟨tail, (List.cons.inj parts).2.symm⟩
      · rw [byteLength_append] at behind
        omega
    exact Lexeme.read?_ne_none_iff.mpr ⟨_, _, _, _, rfl, spells⟩ (resume?_eq_none stuck inside)
  · intro resumes
    obtain ⟨skipped, resumed⟩ := Option.ne_none_iff_exists'.mp resumes
    obtain ⟨chars, back, kind, literal, parts, spells⟩ :=
      Lexeme.read?_ne_none_iff.mp (resume?_begins resumed)
    have positive := Char.utf8Size_pos c
    refine ⟨front ++ c :: skipped.taken, chars, back, kind, literal, ?_, ?_, spells⟩
    · rw [List.append_assoc, ← parts, List.append_assoc, List.cons_append, skipped.whole]
    · rw [byteLength_append, byteLength_cons]
      omega

/-- Reading comes to the end of a text if behind each stray a token begins, and only then. -/
theorem readFrom_complete_iff {source text : List Char} {start : Nat}
    (place : RestAt source start text) : (readFrom text start).complete = true ↔
      ∀ stray ∈ (readFrom text start).strays, TokenBehind source stray.offset := by
  fun_induction readFrom text start with
  | case1 => simp
  | case2 start c rest lexeme found after ih =>
    exact ih ((place.behind lexeme.toCut).behind after)
  | case3 start c rest absent skipped resumed ih =>
    have others := ih (place.tail.behind skipped)
    obtain ⟨front, rfl, rfl⟩ := place
    have begins : TokenBehind (front ++ c :: rest) (byteLength front) :=
      tokenBehind_iff.mpr (by simp [resumed])
    simp only [Reading.addStray, List.forall_mem_cons, begins, true_and]
    exact others
  | case4 start c rest absent stuck =>
    obtain ⟨front, rfl, rfl⟩ := place
    simp [tokenBehind_iff, stuck]

/-! ## Sources -/

/-- A piece has the same place in a text and in the part of it that ends behind the piece. -/
theorem toToken_append {front : List Char} {piece : Piece}
    (inside : piece.start + byteLength piece.chars ≤ byteLength front) (back : List Char) :
    piece.toToken (.ofText (front ++ back)) = piece.toToken (.ofText front) := by
  unfold Piece.toToken
  simp only [lineOf_eq_count]
  rw [beginningBefore_append]
  split <;> omega

/-- The tokens of a source are its pieces and the end, or the end alone. -/
theorem scan_tokens_eq (source : String) : (scan source).tokens =
    (if (readText source.toList).complete then (readText source.toList).pieces else []).map
        (Piece.toToken (.ofText source.toList)) ++
      [endOfText (LineIndex.ofText source.toList).lineCount (byteLength source.toList)] :=
  rfl

/-- The stray of the first lexical error, with the text in front of it and behind it. -/
theorem stray_of_first_error {source : String} {error : LexicalError}
    (first : (scan source).errors.head? = some error) :
    (readText source.toList).strays.head? = some error.stray ∧
      ∃ front back, source.toList = front ++ error.stray.found :: back ∧
        byteLength front = error.stray.offset := by
  have located : ((readText source.toList).strays.map
      (Stray.locate (.ofText source.toList) (byteLength source.toList))).head? = some error := first
  rw [List.head?_map, Option.map_eq_some_iff] at located
  obtain ⟨stray, isFirst, rfl⟩ := located
  obtain ⟨front, back, whole, size⟩ :=
    (readText_standsIn source.toList).strays stray (List.mem_of_head? isFirst)
  rw [List.append_assoc, List.singleton_append] at whole
  exact ⟨isFirst, front, back, whole, size⟩

/-- Behind each stray of a source a token begins. -/
def Recovers (source : String) : Prop :=
  ∀ error ∈ (scan source).errors, TokenBehind source.toList error.stray.offset

theorem recovers_iff (source : String) :
    Recovers source ↔ (readText source.toList).complete = true := by
  have complete := readFrom_complete_iff (restAt_gap source.toList)
  have errors : (scan source).errors = (readText source.toList).strays.map
      (Stray.locate (.ofText source.toList) (byteLength source.toList)) := rfl
  rw [Recovers, errors, List.forall_mem_map]
  exact complete.symm

theorem scan_tokens_of_not_recovers {source : String} (stuck : ¬ Recovers source) :
    (scan source).tokens =
      [endOfText (LineIndex.ofText source.toList).lineCount (byteLength source.toList)] := by
  rw [recovers_iff] at stuck
  rw [scan_tokens_eq, if_neg stuck, List.map_nil, List.nil_append]

/-- The tokens of a text without errors, in their places in the text with more behind it. -/
theorem dropLast_tokens_of_clean {front : List Char} (clean : (readText front).strays = [])
    (back : List Char) : (scan (.ofList front)).tokens.dropLast =
      (readText front).pieces.map (Piece.toToken (.ofText (front ++ back))) := by
  have complete : (readText front).complete = true := complete_of_no_strays clean
  rw [scan_tokens_eq, List.dropLast_concat, String.toList_ofList, if_pos complete]
  refine List.map_congr_left fun piece member => ?_
  exact (toToken_append ((readText_standsIn front).pieces piece member).stop_le back).symm

/-- The first lexical error of a source is a stray, with a text in front of it. If all comments of
that text end as the count has it, it has no lexical errors. Its tokens without the end are the
first tokens of the source, each the same and in the same place, if there are none or if behind each
stray of the source a token begins. Otherwise they are not, as the source has no tokens but its
end. -/
theorem tokens_before_stray {source : String} {error : LexicalError}
    (first : (scan source).errors.head? = some error) :
    ∃ front back, source.toList = front ++ error.stray.found :: back ∧
      byteLength front = error.stray.offset ∧
      (CommentsCounted front →
        (scan (.ofList front)).errors = [] ∧
        ((scan (.ofList front)).tokens.dropLast <+: (scan source).tokens ↔
          (scan (.ofList front)).tokens.dropLast = [] ∨ Recovers source) ∧
        (¬ Recovers source → (scan source).tokens.length = 1)) := by
  obtain ⟨isFirst, front, back, whole, size⟩ := stray_of_first_error first
  refine ⟨front, back, whole, size, ?_⟩
  intro counted
  rw [whole, readText_eq_readPast] at isFirst
  obtain ⟨clean, kept⟩ := readPast_before counted isFirst (by omega)
  rw [← readText_eq_readPast] at clean kept
  rw [← readText_eq_readPast, ← whole] at kept
  have tokens := dropLast_tokens_of_clean clean (error.stray.found :: back)
  rw [← whole] at tokens
  refine ⟨by simp [scan, clean], ⟨?_, ?_⟩, ?_⟩
  · intro begins
    by_cases recovers : Recovers source
    · exact .inr recovers
    · left
      rw [scan_tokens_of_not_recovers recovers, tokens] at begins
      rw [tokens]
      cases read : (readText front).pieces with
      | nil => rfl
      | cons piece others =>
        -- The end of the source would have to be the token of a piece.
        rw [read, List.map_cons, List.cons_prefix_cons] at begins
        have member : piece ∈ (readText front).pieces := by simp [read]
        exact absurd (congrArg Token.kind begins.1) (readFrom_proper _ _ piece member).not_eof
  · rintro (none | recovers)
    · rw [none]
      exact List.nil_prefix
    · rw [tokens, scan_tokens_eq, if_pos ((recovers_iff source).mp recovers)]
      exact (kept.map _).trans (List.prefix_append _ _)
  · intro stuck
    simp [scan_tokens_of_not_recovers stuck]

/-- In `/* a */ 1 @ 2;` the token `2` begins behind the stray, and the token `1` is kept. -/
theorem tokens_before_stray_in_line :
    ∃ error, (scan "/* a */ 1 @ 2;").errors.head? = some error ∧ error.stray = ⟨'@', 10⟩ ∧
      CommentsCounted "/* a */ 1 ".toList ∧ Recovers "/* a */ 1 @ 2;" ∧
      (scan "/* a */ 1 ").errors = [] ∧
      (scan "/* a */ 1 ").tokens.dropLast ≠ [] ∧
      (scan "/* a */ 1 ").tokens.dropLast <+: (scan "/* a */ 1 @ 2;").tokens := by
  have strays : ((scan "/* a */ 1 @ 2;").errors.head?.map (·.stray)) = some ⟨'@', 10⟩ := by
    decide +kernel
  obtain ⟨error, first, stray⟩ := Option.map_eq_some_iff.mp strays
  obtain ⟨front, back, whole, size, kept⟩ := tokens_before_stray first
  have before := takeBytes?_byteLength front (error.stray.found :: back)
  rw [← whole, size, stray] at before
  obtain rfl : "/* a */ 1 ".toList = front := Option.some.inj (.trans (by decide) before)
  have plain : Plain "/* a */ 1 ".toList := by
    unfold Plain
    decide
  have recovers : Recovers "/* a */ 1 @ 2;" := (recovers_iff _).mpr (by decide +kernel)
  have counted := plain.slashesCounted.comments
  rw [String.ofList_toList] at kept
  obtain ⟨clean, kept, -⟩ := kept counted
  exact ⟨error, first, stray, counted, recovers, clean, by decide +kernel, kept.mpr (.inr recovers)⟩

/-- In `1 @` nothing begins behind the stray, and the token in front is gone. -/
theorem token_before_last_stray_lost :
    (scan "1 @").errors.map (·.stray) = [⟨'@', 2⟩] ∧ (scan "1 ").errors = [] ∧
      (scan "1 ").tokens.map (·.kind) = [.number, .eof] ∧
      (scan "1 @").tokens = [endOfText 1 3] := by
  decide +kernel

end Lox.Token
