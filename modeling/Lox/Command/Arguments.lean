import Lox.Command.Color
import Lox.Text.Resemblance

/-!
# The command line

Arguments are read from left to right. An option that takes a value keeps waiting for it until the
next argument settles the matter, and so does the script until its name is checked. The first fault
met ends the reading; only whether the script and the source to evaluate exclude each other is
decided at the very end.
-/

namespace Lox.Command

/-- The shells for which completions exist. -/
inductive Shell where
  | bash | elvish | fish | powershell | zsh
  deriving DecidableEq, Repr

namespace Shell

def all : List Shell := [bash, elvish, fish, powershell, zsh]

def name : Shell → String
  | bash => "bash"
  | elvish => "elvish"
  | fish => "fish"
  | powershell => "powershell"
  | zsh => "zsh"

def ofName? (name : String) : Option Shell :=
  all.find? fun shell => shell.name == name

end Shell

/-- What the command line asks for. -/
structure Arguments where
  script : Option String
  /-- The source to run in place of a script. -/
  eval : Option String
  tokens : Bool
  color : ColorChoice
  verbose : Bool
  /-- The shell whose completions are asked for. -/
  complete : Option Shell
  deriving DecidableEq, Repr

/-- The least severe messages that are logged. -/
def Arguments.logLevel (arguments : Arguments) : String :=
  if arguments.verbose then "debug" else "warn"

/-- Why a command line gives no arguments. Asking for help or for the version is among the
reasons. -/
inductive UsageError where
  | help
  | version
  | unknownArgument (argument : String)
  | unknownSubcommand (name : String)
  | repeated (name : String)
  | scriptAndEval
  | missingValue (name : String)
  | unwantedValue (name : String)
  | emptyScript
  | invalidColor (text : String)
  | missingShell
  | unknownShell (name : String)
  deriving DecidableEq, Repr

/-- An argument that has a value. -/
inductive Slot where
  | script | eval | color
  deriving DecidableEq, Repr

def Slot.name : Slot → String
  | script => "[SCRIPT]"
  | eval => "--eval <SOURCE>"
  | color => "--color <WHEN>"

/-- An option without a value. -/
inductive Switch where
  | tokens | verbose | help | version
  deriving DecidableEq, Repr

def Switch.name : Switch → String
  | tokens => "--tokens"
  | verbose => "--verbose"
  | help => "--help"
  | version => "--version"

inductive Named where
  | slot (slot : Slot)
  | switch (switch : Switch)
  deriving DecidableEq, Repr

/-- Options by their long names, which are never shortened. -/
def Named.ofLong? : String → Option Named
  | "eval" => some (slot .eval)
  | "color" => some (slot .color)
  | "tokens" => some (switch .tokens)
  | "verbose" => some (switch .verbose)
  | "help" => some (switch .help)
  | "version" => some (switch .version)
  | _ => none

/-- Options by their short names. -/
def Named.ofShort? : Char → Option Named
  | 'e' => some (slot .eval)
  | 'v' => some (switch .verbose)
  | 'h' => some (switch .help)
  | 'V' => some (switch .version)
  | _ => none

/-- The words that begin a subcommand. -/
def subcommandNames : List String := ["complete", "help"]

/-- The complaint about a word for which there is no room. One that resembles a subcommand is taken
for an attempt at it. The subcommands themselves get this far only behind a separator. -/
def UsageError.surplus (word : String) : UsageError :=
  if word ∉ subcommandNames ∧
      subcommandNames.any fun name => Text.resembles word.toList name.toList then
    .unknownSubcommand word
  else .unknownArgument word

/-- What was given so far. -/
structure Given where
  script : Option String
  eval : Option String
  tokens : Bool
  color : Option ColorChoice
  verbose : Bool
  deriving DecidableEq, Repr

namespace Given

def nothing : Given := ⟨none, none, false, none, false⟩

/-- Fills a slot with its value. That it is filled already is noticed before what the value is. -/
def fill (given : Given) (slot : Slot) (value : String) : Except UsageError Given :=
  match slot with
  | .script =>
    if value.isEmpty then .error .emptyScript else .ok { given with script := some value }
  | .eval =>
    if given.eval.isSome then .error (.repeated slot.name)
    else .ok { given with eval := some value }
  | .color =>
    if given.color.isSome then .error (.repeated slot.name)
    else
      match ColorChoice.ofText? value with
      | some choice => .ok { given with color := some choice }
      | none => .error (.invalidColor value)

/-- Turns a switch on, once. -/
def turnOn (given : Given) (switch : Switch) : Except UsageError Given :=
  match switch with
  | .tokens =>
    if given.tokens then .error (.repeated switch.name) else .ok { given with tokens := true }
  | .verbose =>
    if given.verbose then .error (.repeated switch.name) else .ok { given with verbose := true }
  | .help => .error .help
  | .version => .error .version

/-- The arguments, if the script and a source to evaluate are not both given. -/
def finish (given : Given) (complete : Option Shell) : Except UsageError Arguments :=
  if given.script.isSome && given.eval.isSome then .error .scriptAndEval
  else
    .ok
      { script := given.script
        eval := given.eval
        tokens := given.tokens
        color := given.color.getD .auto
        verbose := given.verbose
        complete }

end Given

/-- A slot that is not settled yet, with its value if that is there. -/
structure Pending where
  slot : Slot
  value : Option String
  deriving DecidableEq, Repr

/-- A command line read in part. -/
structure Progress where
  given : Given
  pending : Option Pending
  deriving DecidableEq, Repr

namespace Progress

def start : Progress := ⟨.nothing, none⟩

/-- Whether the next argument may be the value of an option. -/
def awaitsValue (progress : Progress) : Bool :=
  match progress.pending with
  | some ⟨_, none⟩ => true
  | _ => false

/-- Settles what is pending. -/
def settle (progress : Progress) : Except UsageError Given :=
  match progress.pending with
  | none => .ok progress.given
  | some ⟨slot, none⟩ => .error (.missingValue slot.name)
  | some ⟨slot, some value⟩ => progress.given.fill slot value

/-- Settles what is pending and leaves a slot pending in its place. -/
def leave (progress : Progress) (slot : Slot) (value : Option String) :
    Except UsageError Progress := do
  return ⟨← progress.settle, some ⟨slot, value⟩⟩

/-- Settles what is pending and fills a slot at once. -/
def fill (progress : Progress) (slot : Slot) (value : String) : Except UsageError Progress := do
  return ⟨← (← progress.settle).fill slot value, none⟩

/-- Settles what is pending and turns a switch on. -/
def turnOn (progress : Progress) (switch : Switch) : Except UsageError Progress := do
  return ⟨← (← progress.settle).turnOn switch, none⟩

/-- Gives the pending slot its value. -/
def supply (progress : Progress) (value : String) : Progress :=
  { progress with pending := progress.pending.map fun pending => ⟨pending.slot, some value⟩ }

/-- A word that is no option. There is room for one script. -/
def positional (progress : Progress) (word : String) : Except UsageError Progress :=
  let taken :=
    progress.given.script.isSome || progress.pending.any (fun pending => pending.slot = .script)
  if taken then .error (.surplus word) else progress.leave .script (some word)

/-- A long option, with what stands behind an equals sign. -/
def long (progress : Progress) (name : String) (value : Option String) :
    Except UsageError Progress :=
  match Named.ofLong? name, value with
  | none, _ => .error (.unknownArgument ("--" ++ name))
  | some (.slot slot), some value => progress.fill slot value
  | some (.slot slot), none => progress.leave slot none
  | some (.switch switch), none => progress.turnOn switch
  | some (.switch switch), some _ => .error (.unwantedValue switch.name)

/-- A cluster of short options. The rest of it behind one that takes a value is that value, less an
equals sign in front. -/
def cluster (progress : Progress) : List Char → Except UsageError Progress
  | [] => .ok progress
  | letter :: rest =>
    match Named.ofShort? letter, rest with
    | none, _ => .error (.unknownArgument (String.ofList ['-', letter]))
    | some (.switch switch), rest => do cluster (← progress.turnOn switch) rest
    | some (.slot slot), [] => progress.leave slot none
    | some (.slot slot), '=' :: value => progress.fill slot (String.ofList value)
    | some (.slot slot), value => progress.fill slot (String.ofList value)

end Progress

/-- How an argument looks. -/
inductive Look where
  | separator
  | long (name : String) (value : Option String)
  | cluster (letters : List Char)
  | word
  deriving DecidableEq, Repr

/-- The look of an argument. A lone hyphen is a word. -/
def Look.of (argument : String) : Look :=
  match argument.toList with
  | ['-', '-'] => separator
  | '-' :: '-' :: rest =>
    let name := String.ofList (rest.takeWhile (· ≠ '='))
    match rest.dropWhile (· ≠ '=') with
    | [] => long name none
    | _ :: value => long name (some (String.ofList value))
  | '-' :: letter :: rest => cluster (letter :: rest)
  | _ => word

/-- The arguments of the subcommand for completions. It knows only the switch for help. Its shell
is checked once something else than a fault follows. -/
def readShell (shell : Option String) (separated : Bool) :
    List String → Except UsageError Shell
  | [] => check shell
  | argument :: rest =>
    match if separated then Look.word else Look.of argument with
    | .separator => readShell shell true rest
    | .long "help" none | .cluster ('h' :: _) => do
      if let some name := shell then let _ ← check (some name)
      .error .help
    | .long "help" (some _) => .error (.unwantedValue Switch.help.name)
    | .long name _ => .error (.unknownArgument ("--" ++ name))
    | .cluster letters => .error (.unknownArgument (String.ofList ('-' :: letters)))
    | .word =>
      if shell.isSome then .error (.unknownArgument argument)
      else readShell (some argument) separated rest
where
  check : Option String → Except UsageError Shell
    | none => .error .missingShell
    | some name =>
      match Shell.ofName? name with
      | some shell => .ok shell
      | none => .error (.unknownShell name)

/-- The words behind a request for help name a subcommand, if there are any. -/
def helpTopic : List String → UsageError
  | [] => .help
  | topic :: rest =>
    if topic ∈ subcommandNames then
      match rest with
      | [] => .help
      | further :: _ => .unknownSubcommand further
    else .unknownSubcommand topic

/-- Reads the arguments behind those in `progress`. Behind a separator all are words. -/
def readArguments (progress : Progress) (separated : Bool) :
    List String → Except UsageError Arguments
  | [] => do (← progress.settle).finish none
  | argument :: rest =>
    if separated then do readArguments (← progress.positional argument) true rest
    else if argument = "complete" ∧ !progress.awaitsValue then do
      let shell ← readShell none false rest
      (← progress.settle).finish (some shell)
    else if argument = "help" ∧ !progress.awaitsValue then .error (helpTopic rest)
    else
      match Look.of argument with
      | .separator => readArguments progress true rest
      | .long name value => do readArguments (← progress.long name value) false rest
      | .cluster letters => do readArguments (← progress.cluster letters) false rest
      | .word =>
        if progress.awaitsValue then readArguments (progress.supply argument) false rest
        else do readArguments (← progress.positional argument) false rest

/-- Reads a command line, without the name of the program. -/
def Arguments.parse (commandLine : List String) : Except UsageError Arguments :=
  readArguments .start false commandLine

end Lox.Command
