import Lox.Command.Program
import Std.Time.DateTime.Timestamp

/-!
# The executable

Connects the program to the process it runs in. At the prompt each line is answered before the next
one is read.
-/

namespace Lox.Command

/-- More steps than any run takes. -/
def runFuel : Nat := Nat.pow 2 62

/-- A clock that shows seconds since the epoch. It starts at the time of the process and moves on by
a microsecond with each reading. -/
def clockFrom (startMicros reading : Nat) : Number :=
  .nearest (startMicros + reading) 1000000

/-- Reads a script. -/
def readScript (path : String) : IO (Except ReadFailure ByteArray) := do
  try
    return .ok (← IO.FS.readBinFile path)
  catch
    | .noFileOrDirectory .. => return .error .missing
    | .inappropriateType .. => return .error .directory
    | error => return .error (.other (toString error))

/-- Reads the bytes of a line behind those in `begun`, or nothing at the end of the input. -/
partial def readLine (input : IO.FS.Stream) (begun : ByteArray) : IO (Option ByteArray) := do
  let byte ← input.read 1
  if byte.isEmpty then return if begun.isEmpty then none else some begun
  else if byte.toList = [10] then return some ⟨(withoutReturn begun.toList).toArray⟩
  else readLine input (begun ++ byte)

/-- Answers lines until one ends the conversation. -/
partial def prompt (config : Config) (session : Session) : IO UInt32 := do
  let output ← IO.getStdout
  output.putStr promptText
  output.flush
  match ← readLine (← IO.getStdin) .empty with
  | none => return 0
  | some line =>
    let answer := reply config session (String.fromUTF8? line)
    output.putStr answer.stdout
    output.flush
    IO.eprint answer.stderr
    match answer.next with
    | .stop exitCode => return exitCode.toUInt32
    | .goOn session => prompt config session

/-- Writes a report. -/
def Report.write (report : Report) : IO UInt32 := do
  IO.print report.stdout
  IO.eprint report.stderr
  return report.exitCode.toUInt32

/-- Carries out a command line in the process. -/
def runProcess (commandLine : List String) : IO UInt32 := do
  match Arguments.parse commandLine with
  | .error error => error.report.write
  | .ok arguments =>
    let terminal := (← (← IO.getStdout).isTty) && (← (← IO.getStderr).isTty)
    let now := (← Std.Time.Timestamp.now).toNanosecondsSinceUnixEpoch.val.toNat / 1000
    let config := Config.ofArguments arguments terminal runFuel (clockFrom now)
    match arguments.task with
    | .runSource source => (runSource config source evalName).write
    | .runScript path => (runScript config path (← readScript path)).write
    | .prompt => prompt config (promptSession config)
    | .complete _ => return 0

end Lox.Command

def main (commandLine : List String) : IO UInt32 :=
  Lox.Command.runProcess commandLine
