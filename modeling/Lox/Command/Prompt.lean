import Lox.Command.Report
import Lox.Text.Blank

/-!
# The prompt

Without a script or a source the program reads lines and runs each one in the same session. An error
is reported and the next line is read; a line that is no text ends the conversation.
-/

namespace Lox.Command

/-- What is printed before each line is read. -/
def promptText : String := "> "

/-- The name under which lines typed at the prompt are reported. -/
def promptName : String := "<repl>"

/-- What happens after a line. -/
inductive Next where
  | goOn (session : Session)
  | stop (exitCode : Nat)

/-- The answer to a line. -/
structure Reply where
  stdout : String
  stderr : String
  next : Next

/-- Answers a line, which may be no text. Blanks at its ends do not count for what it is, but the
line is run as it stands. -/
def reply (config : Config) (session : Session) (line : Option String) : Reply :=
  match line with
  | none =>
    { stdout := ""
      stderr := config.message ("Error reading input: " ++ ReadFailure.notText.message)
      next := .stop 0 }
  | some line =>
    let core := Text.trim line.toList
    if core = "exit".toList then ⟨"", "", .stop 0⟩
    else if core.isEmpty then ⟨"", "", .goOn session⟩
    else
      let before := session.output.size
      let (outcome, session) := session.run true config.fuel line
      let stdout := Text.decodeRepaired (session.output.extract before session.output.size)
      match Diagnostic.renderAll? config.style line promptName outcome.diagnostics with
      | some stderr => ⟨stdout, stderr, .goOn session⟩
      | none => ⟨stdout, "", .stop exitUnshown⟩

/-- Answers lines one after another. The prompt is printed also before the end is found. -/
def converse (config : Config) (session : Session) : List (Option String) → Report
  | [] => ⟨0, promptText, ""⟩
  | line :: rest =>
    let answer := reply config session line
    let stdout := promptText ++ answer.stdout
    match answer.next with
    | .stop exitCode => ⟨exitCode, stdout, answer.stderr⟩
    | .goOn session =>
      let report := converse config session rest
      { report with stdout := stdout ++ report.stdout, stderr := answer.stderr ++ report.stderr }

/-- Removes a carriage return from the end of a line. -/
def withoutReturn : List UInt8 → List UInt8
  | [] => []
  | [byte] => if byte = 13 then [] else [byte]
  | byte :: rest => byte :: withoutReturn rest

/-- The lines of an input, without their ends. `begun` holds the bytes of the current line in
reverse. -/
def inputLinesFrom (begun : List UInt8) : List UInt8 → List (List UInt8)
  | [] => if begun.isEmpty then [] else [begun.reverse]
  | byte :: rest =>
    if byte = 10 then withoutReturn begun.reverse :: inputLinesFrom [] rest
    else inputLinesFrom (byte :: begun) rest

/-- The lines of an input as texts, where they are texts. -/
def inputLines (input : ByteArray) : List (Option String) :=
  (inputLinesFrom [] input.toList).map fun line => String.fromUTF8? ⟨line.toArray⟩

/-- Starts a session at the prompt. -/
def promptSession (config : Config) : Session :=
  .start .unlimited config.clock

end Lox.Command
