import Lox.Command.Prompt

/-!
# The whole program

From the command line, the files and the input to what the process leaves behind.
-/

namespace Lox.Command

def versionText : String := "loxwalk 0.1.0\n"

def usageText : String :=
  "Tree-walking interpreter for a small scripting language\n\n" ++
  "Usage: loxwalk [OPTIONS] [SCRIPT] [COMMAND]\n"

/-- The complaint about a command line. -/
def UsageError.message : UsageError → String
  | help => usageText
  | version => versionText
  | unknownArgument argument => "error: unexpected argument '" ++ argument ++ "' found\n"
  | unknownSubcommand name => "error: unrecognized subcommand '" ++ name ++ "'\n"
  | repeated name => "error: the argument '" ++ name ++ "' cannot be used multiple times\n"
  | scriptAndEval =>
    "error: the argument '" ++ Slot.eval.name ++ "' cannot be used with '" ++ Slot.script.name ++
      "'\n"
  | missingValue name => "error: a value is required for '" ++ name ++ "' but none was supplied\n"
  | unwantedValue name => "error: unexpected value for '" ++ name ++ "' found\n"
  | emptyScript =>
    "error: a value is required for '" ++ Slot.script.name ++ "' but none was supplied\n"
  | invalidColor text =>
    "error: invalid value '" ++ text ++ "' for '" ++ Slot.color.name ++ "': " ++
      ColorChoice.complaint text ++ "\n"
  | missingShell => "error: the following required arguments were not provided:\n  <SHELL>\n"
  | unknownShell name => "error: invalid value '" ++ name ++ "' for '<SHELL>'\n"

/-- Help and the version are answers; all else is a complaint. -/
def UsageError.report (error : UsageError) : Report :=
  match error with
  | help | version => ⟨0, error.message, ""⟩
  | _ => ⟨2, "", error.message⟩

/-- What is to be done. -/
inductive Task where
  | runSource (source : String)
  | runScript (path : String)
  | prompt
  | complete (shell : Shell)
  deriving DecidableEq, Repr

/-- The task of given arguments. Completions come before everything, and a source before a
script. -/
def Arguments.task (arguments : Arguments) : Task :=
  match arguments.complete, arguments.eval, arguments.script with
  | some shell, _, _ => .complete shell
  | none, some source, _ => .runSource source
  | none, none, some path => .runScript path
  | none, none, none => .prompt

/-- The name under which a source from the command line is reported. -/
def evalName : String := "<eval>"

/-- What a process can see. -/
structure World where
  fileAt : String → Except ReadFailure ByteArray
  input : ByteArray
  terminal : Bool
  fuel : Nat
  clock : Nat → Number

/-- Carries out a command line. -/
def perform (world : World) (commandLine : List String) : Report :=
  match Arguments.parse commandLine with
  | .error error => error.report
  | .ok arguments =>
    let config := Config.ofArguments arguments world.terminal world.fuel world.clock
    match arguments.task with
    | .runSource source => runSource config source evalName
    | .runScript path => runScript config path (world.fileAt path)
    | .prompt => converse config (promptSession config) (inputLines world.input)
    | .complete _ => ⟨0, "", ""⟩

end Lox.Command
