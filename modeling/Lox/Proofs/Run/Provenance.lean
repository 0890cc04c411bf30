import Lox.Proofs.Run.Relocation

/-!
# Whose token is blamed

A run can stop at a token of the program itself or at one of a function that the machine had before.
By the place of the token the two cannot be told apart, for sources that are run one after another
share their places. So the tokens of the program are marked before it is run: the marked run knows
whose token it blames, and every way to place the program and the machine is read off it.
-/

namespace Lox

/-- The mark of a token: its line is odd if it is a token of the program that is run. -/
def Token.isOwn (token : Token) : Bool := token.line % 2 = 1

/-- A marked token as it was. -/
def Token.unmarked (token : Token) : Token := { token with line := token.line / 2 }

namespace Relocation

/-- Marks all tokens as the program's own, or as not its own. -/
def mark (own : Bool) : Relocation := fun token => (2 * token.line + own.toNat, token.span)

/-- Takes the marks away. The program's own tokens are relocated one way, all others another. -/
def unmark (own other : Relocation) : Relocation := fun token =>
  if token.isOwn then own token.unmarked else other token.unmarked

end Relocation

theorem Token.isOwn_mark (mine : Bool) (token : Token) :
    (token.relocate (.mark mine)).isOwn = mine := by
  cases mine <;> simp [isOwn, relocate, Relocation.mark, Nat.add_mod]

theorem Token.unmarked_mark (mine : Bool) (token : Token) :
    (token.relocate (.mark mine)).unmarked = token := by
  have half : (2 * token.line + mine.toNat) / 2 = token.line := by
    cases mine with
    | false => simp
    | true =>
      show (2 * token.line + 1) / 2 = token.line
      omega
  simp [unmarked, relocate, Relocation.mark, half]

section

variable (own other : Relocation)

theorem Relocation.mark_unmark (mine : Bool) :
    (mark mine).andThen (unmark own other) = if mine then own else other := by
  funext token
  simp only [andThen, unmark, Token.isOwn_mark, Token.unmarked_mark]
  cases mine <;> rfl

theorem Token.relocate_unmark_of_own {token : Token} (mine : token.isOwn = true) :
    token.relocate (.unmark own other) = token.unmarked.relocate own := by
  simp only [relocate, Relocation.unmark, if_pos mine, unmarked]

theorem Token.relocate_unmark_of_not_own {token : Token} (foreign : ¬ token.isOwn = true) :
    token.relocate (.unmark own other) = token.unmarked.relocate other := by
  simp only [relocate, Relocation.unmark, if_neg foreign, unmarked]

end

namespace Run

/-- The run of a program whose tokens are marked, on a machine that had none of them. -/
def runMarked (echo : Bool) (fuel : Nat) (program : List Stmt) : Run Unit := fun machine =>
  runProgram echo fuel (program.map (·.relocate (.mark true))) (machine.relocate (.mark false))

/-- The marked run stops at an error that is blamed on a token of the program. -/
def stopsAtOwn : EStateM.Result Halt Machine Unit → Bool
  | .error (.error (.blamed _ token)) _ => token.isOwn
  | _ => false

/-- Wherever the program and the machine are placed, the run is the marked one, its own tokens
placed like the program and all others like the machine. -/
theorem runProgram_unmark (own other : Relocation) (echo : Bool) (fuel : Nat) (program : List Stmt)
    (machine : Machine) :
    runProgram echo fuel (program.map (·.relocate own)) (machine.relocate other) =
      relocateResult (.unmark own other) (runMarked echo fuel program machine) := by
  unfold runMarked
  rw [← runProgram_relocate, List.map_map, Machine.relocate_relocate, Relocation.mark_unmark]
  have relocated : (Stmt.relocate (.unmark own other) ∘ Stmt.relocate (.mark true)) =
      Stmt.relocate own := by
    funext stmt
    exact (stmt.relocate_relocate ..).trans
      (congrArg stmt.relocate (Relocation.mark_unmark own other true))
  rw [relocated]
  rfl

/-- The run of a program whose place alone is moved. -/
theorem runProgram_moved (move : Relocation) (echo : Bool) (fuel : Nat) (program : List Stmt)
    (machine : Machine) :
    runProgram echo fuel (program.map (·.relocate move)) machine =
      relocateResult (.unmark move .stay) (runMarked echo fuel program machine) := by
  rw [← runProgram_unmark, Machine.relocate_stay]

theorem runProgram_unmoved (echo : Bool) (fuel : Nat) (program : List Stmt) (machine : Machine) :
    runProgram echo fuel program machine =
      relocateResult (.unmark .stay .stay) (runMarked echo fuel program machine) := by
  have stays : program.map (·.relocate .stay) = program := by
    simp only [Stmt.relocate_stay, List.map_id']
  rw [← runProgram_moved, stays]

end Run
end Lox
