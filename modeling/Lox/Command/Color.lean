/-!
# Choosing colours
-/

namespace Lox.Command

/-- When messages are coloured. -/
inductive ColorChoice where
  | auto | always | never
  deriving DecidableEq, Repr

namespace ColorChoice

/-- A choice by its name, in either case. Only ASCII letters have lower forms among the letters of
the names, so no other ones are folded. -/
def ofText? (text : String) : Option ColorChoice :=
  match text.toLower with
  | "auto" => some auto
  | "always" => some always
  | "never" => some never
  | _ => none

/-- The complaint about a text that names no choice. -/
def complaint (text : String) : String :=
  "Invalid color choice: " ++ text ++ ". Must be 'auto', 'always', or 'never'"

/-- Whether messages are coloured, unless that is up to the terminal. -/
def enabled? : ColorChoice → Option Bool
  | always => some true
  | never => some false
  | auto => none

end ColorChoice
end Lox.Command
