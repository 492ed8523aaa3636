import Axial.Command.Line

/-!
# The program

Fetches the store of a command, runs the command and prints what it leaves behind.
-/

namespace Axial

/-- All that is left to read of a stream. -/
partial def readAll (stream : IO.FS.Stream) (front : ByteArray) : IO ByteArray := do
  let chunk ← stream.read 65536
  if chunk.isEmpty then return front else readAll stream (front ++ chunk)

/-- Why a file cannot be read. -/
def readFailure : IO.Error → CommandError
  | .noFileOrDirectory _ code details => .unreadable s!"{details} (os error {code})"
  | error => .unreadable (toString error)

/-- The text of a store, if there is one to fetch. A terminal is not waited for. -/
def fetch : Source → IO (Except CommandError (Option String))
  | .none => return .ok none
  | .file path => do
    try return .ok (some (← IO.FS.readFile path))
    catch error => return .error (readFailure error)
  | .input => do
    let input ← IO.getStdin
    if ← input.isTty then return .ok none
    match String.fromUTF8? (← readAll input .empty) with
    | some text => return .ok (some text)
    | none => return .error (.unreadable "stream did not contain valid UTF-8")

end Axial

/-- Run the command of a command line. -/
def main (words : List String) : IO UInt32 := do
  let outcome ← match Axial.Command.ofLine? words with
    | some command => pure (command.run (← Axial.fetch command.source))
    | none => pure Axial.Command.usage
  (← IO.getStdout).putStr outcome.output
  (← IO.getStderr).putStr outcome.errors
  return outcome.code.toUInt32
