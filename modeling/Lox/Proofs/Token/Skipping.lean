import Lox.Proofs.Token.Joining

/-!
# Where blanks and comments are skipped

Reading goes from one place at which a gap may begin to the next: behind a blank, behind a comment,
or, if neither begins there, behind the token that does.
-/

namespace Lox.Token

open Lox.Text

/-- On the way through `text`, blanks and comments are skipped from where `rest` begins: in front of
the first token, behind each token, and behind each blank or comment. -/
inductive SkipsAt : (text rest : List Char) → Prop
  | here (text : List Char) : SkipsAt text text
  | behindItem {text rest : List Char} {item : Cut text} (found : gapItem? text = some item)
      (later : SkipsAt item.rest rest) : SkipsAt text rest
  | behindLexeme {text rest : List Char} {lexeme : Lexeme text} (noItem : gapItem? text = none)
      (found : Lexeme.read? text = some lexeme) (later : SkipsAt lexeme.rest rest) :
      SkipsAt text rest
  /-- Behind a stray, nothing is skipped before the next token. -/
  | behindStray {c : Char} {tail rest : List Char} {skipped : Cut tail}
      {lexeme : Lexeme skipped.rest} (noItem : gapItem? (c :: tail) = none)
      (stray : Lexeme.read? (c :: tail) = none) (resumed : resume? tail = some skipped)
      (found : Lexeme.read? skipped.rest = some lexeme) (later : SkipsAt lexeme.rest rest) :
      SkipsAt (c :: tail) rest

variable {text rest : List Char}

theorem SkipsAt.suffix (skips : SkipsAt text rest) : rest <:+ text := by
  induction skips with
  | here text => exact List.suffix_rfl
  | @behindItem text rest item found later ih => exact ih.trans ⟨item.taken, item.whole⟩
  | @behindLexeme text rest lexeme noItem found later ih =>
    exact ih.trans ⟨lexeme.taken, lexeme.whole⟩
  | @behindStray c tail rest skipped lexeme noItem stray resumed found later ih =>
    have behindLexeme : lexeme.rest <:+ skipped.rest := ⟨lexeme.taken, lexeme.whole⟩
    have behindStray : skipped.rest <:+ tail := ⟨skipped.taken, skipped.whole⟩
    exact (ih.trans behindLexeme).trans (behindStray.trans (List.suffix_cons c tail))

theorem readPast_of_item {item : Cut text} (found : gapItem? text = some item) (start : Nat) :
    readPast text start = readPast item.rest (start + byteLength item.taken) := by
  rw [readPast, gap_of_item found, readPast, Nat.add_assoc, ← byteLength_append]
  rfl

theorem readPast_of_no_item (noItem : gapItem? text = none) (start : Nat) :
    readPast text start = readFrom text start := by
  rw [readPast, gap_of_none noItem]
  rfl

end Lox.Token
