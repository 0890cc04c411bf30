import Lox.Command.Arguments
import Lox.Diagnostic.Snippet
import Lox.Session

/-!
# Running one source

What the program writes and the code with which it exits, for a source given on the command line or
in a script.
-/

namespace Lox.Command

/-- What a process leaves behind. -/
structure Report where
  exitCode : Nat
  stdout : String
  stderr : String
  deriving DecidableEq, Repr

/-- How the program was asked to work. -/
structure Config where
  color : Bool
  tokens : Bool
  fuel : Nat
  clock : Nat → Number

namespace Config

/-- The configuration for given arguments. Colours left open are used on a terminal. -/
def ofArguments (arguments : Arguments) (terminal : Bool) (fuel : Nat) (clock : Nat → Number) :
    Config :=
  { color := (arguments.color.enabled?).getD terminal, tokens := arguments.tokens, fuel, clock }

def style (config : Config) : Diagnostic.Style :=
  .ofBool config.color

/-- A message that has no place in a source. -/
def message (config : Config) (text : String) : String :=
  config.style.headline text ++ "\n"

end Config

/-- The exit code after a file could not be read. -/
def exitUnreadable : Nat := 74

/-- The exit code after a diagnostic could not be shown. -/
def exitUnshown : Nat := 101

/-- The report of a source, given its diagnostics. -/
def reportOf (config : Config) (source file : String) (exitCode : Nat) (stdout : String)
    (diagnostics : List Diagnostic) : Report :=
  match Diagnostic.renderAll? config.style source file diagnostics with
  | some stderr => ⟨exitCode, stdout, stderr⟩
  | none => ⟨exitUnshown, stdout, ""⟩

/-- A token on a line of its own, behind its line number, which is at least four characters wide. -/
def tokenLine (token : Token) : String :=
  let number := toString token.line
  Diagnostic.spaces (4 - number.length) ++ number ++ " " ++ token.listing ++ "\n"

/-- Lists the tokens of a source. Only its lexical errors are reported. -/
def listTokens (config : Config) (source file : String) : Report :=
  let scan := Token.scan source
  let exitCode := if scan.errors.isEmpty then 0 else 65
  reportOf config source file exitCode (String.join (scan.tokens.map tokenLine))
    (scan.errors.map (·.diagnostic))

/-- Runs a source, or lists its tokens. -/
def runSource (config : Config) (source file : String) : Report :=
  if config.tokens then listTokens config source file
  else
    let (outcome, output) := runAlone config.clock config.fuel source
    reportOf config source file outcome.exitCode output outcome.diagnostics

/-- Why a file could not be read. -/
inductive ReadFailure where
  | missing | directory | notText
  | other (message : String)
  deriving DecidableEq, Repr

def ReadFailure.message : ReadFailure → String
  | missing => "No such file or directory (os error 2)"
  | directory => "Is a directory (os error 21)"
  | notText => "stream did not contain valid UTF-8"
  | other message => message

/-- Runs the script at `path`, of which `content` was read. -/
def runScript (config : Config) (path : String) (content : Except ReadFailure ByteArray) :
    Report :=
  let source : Except ReadFailure String := do
    match String.fromUTF8? (← content) with
    | some source => .ok source
    | none => .error .notText
  match source with
  | .ok source => runSource config source path
  | .error failure =>
    ⟨exitUnreadable, "",
      config.message ("Failed to read " ++ path ++ ": " ++ failure.message)⟩

end Lox.Command
