import Lox.Proofs.Token.Extension

/-!
# What gaps are made of

A gap is a row of blanks, line comments and block comments. Where a block comment ends is said by
rules: at each place inside it, a comment that begins there is passed over whole; failing that, an
end marker ends the comment, and any other character belongs to it. What is skipped between tokens
is such a gap.
-/

namespace Lox.Token

open Lox.Text

/-- The text behind an opening marker, with what is left of it behind the comment, or with nothing
if the comment never ends. This is the scanner's own rule, by which an opening marker inside whose
comment never ends opens nothing: all of `/*/*/` is one comment. By counting markers it would never
end; `comment_ends_with_count` says for which texts both come to the same end. -/
inductive CommentRest : (text : List Char) → (rest : Option (List Char)) → Prop
  | ended : CommentRest [] none
  | close (rest : List Char) : CommentRest ('*' :: '/' :: rest) (some rest)
  | inner {text behind : List Char} {rest : Option (List Char)}
      (within : CommentRest text (some behind)) (after : CommentRest behind rest) :
      CommentRest ('/' :: '*' :: text) rest
  /-- An opening marker whose comment never ends is plain text. -/
  | plain {c : Char} {text : List Char} {rest : Option (List Char)}
      (noEnd : ∀ behind, c :: text ≠ '*' :: '/' :: behind)
      (noComment : ∀ within, c :: text = '/' :: '*' :: within → CommentRest within none)
      (after : CommentRest text rest) : CommentRest (c :: text) rest

/-- The characters make a gap in front of `rest`. -/
inductive IsGap : (chars rest : List Char) → Prop
  | nil {rest : List Char} : IsGap [] rest
  | blank {c : Char} {chars rest : List Char} (blank : isBlank c = true) (more : IsGap chars rest) :
      IsGap (c :: chars) rest
  /-- A line comment runs to the end of its line. -/
  | lineComment {body chars rest : List Char} (oneLine : '\n' ∉ body)
      (lineEnds : ∀ c ∈ (chars ++ rest).head?, c = '\n') (more : IsGap chars rest) :
      IsGap ('/' :: '/' :: body ++ chars) rest
  /-- A block comment is complete by the scanner's own rule. -/
  | blockComment {body chars rest : List Char}
      (complete : CommentRest (body ++ (chars ++ rest)) (some (chars ++ rest)))
      (more : IsGap chars rest) : IsGap ('/' :: '*' :: body ++ chars) rest

theorem commentBody?_commentRest (text : List Char) :
    CommentRest text ((commentBody? text).map (·.rest)) := by
  fun_induction commentBody? text with
  | case1 => exact .ended
  | case2 rest => exact .close rest
  | case3 rest inner found within after =>
    rw [found] at within
    rw [Option.map_map]
    exact .inner within after
  | case4 after absent within =>
    rw [absent] at within
    refine .plain (by simp) ?_ (.close after)
    rintro other same
    cases same
    exact within
  | case5 rest absent noSlash within =>
    rw [absent] at within
    refine .plain (by simp) ?_ (.plain ?_ (by simp) within)
    · rintro other same
      cases same
      exact within
    · rintro behind same
      exact noSlash behind (List.cons.inj same).2
  | case6 c rest noEnd noMarker after =>
    rw [Option.map_map]
    refine .plain ?_ ?_ after
    · rintro behind same
      exact noEnd behind (List.cons.inj same).1 (List.cons.inj same).2
    · rintro within same
      exact absurd (List.cons.inj same).2 (noMarker within (List.cons.inj same).1)

/-- A blank or a comment in front of a gap makes a gap. -/
theorem isGap_of_item {text chars rest : List Char} {item : Cut text}
    (found : gapItem? text = some item) (behind : chars ++ rest = item.rest)
    (more : IsGap chars rest) : IsGap (item.taken ++ chars) rest := by
  unfold gapItem? at found
  split at found
  · cases found
  · next line =>
    cases found
    have oneLine : '\n' ∉ (Cut.run (· ≠ '\n') line).taken :=
      fun member => absurd (Cut.all_taken_run _ line _ member) (by simp)
    have lineEnds : ∀ c ∈ (Cut.run (· ≠ '\n') line).rest.head?, c = '\n' := by
      intro c first
      have stops := List.head?_dropWhile_not (· ≠ '\n') line
      rw [show (line.dropWhile (· ≠ '\n')).head? = some c from first] at stops
      simpa using stops
    exact .lineComment oneLine (behind ▸ lineEnds) more
  · next inside =>
    obtain ⟨body, ends, rfl⟩ := Option.map_eq_some_iff.mp found
    have same : chars ++ rest = body.rest := behind
    have whole : body.taken ++ (chars ++ rest) = inside := same ▸ body.whole
    have complete := commentBody?_commentRest inside
    rw [ends, Option.map_some, ← same, ← whole] at complete
    exact .blockComment complete more
  · split at found
    · next blank =>
      cases found
      exact .blank blank more
    · cases found

theorem gap_isGap (text : List Char) : IsGap (gap text).taken (gap text).rest := by
  fun_induction gap text with
  | case1 text item found more => exact isGap_of_item found (gap item.rest).whole more
  | case2 text absent => exact .nil

end Lox.Token
