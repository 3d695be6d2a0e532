import Declarator.Cli.Run

/-!
# The command-line program

The arguments and standard input are handed to `Cli.run`, and its outcome is performed. Standard
input is read only where it is needed.
-/

open Declarator Cli

/-- Writes a text. -/
def put (stream : IO.FS.Stream) (t : Text) : IO Unit := do
  stream.putStr (String.ofList t)
  stream.flush

/-- Everything that is left on a stream. -/
partial def readAll (stream : IO.FS.Stream) (before : ByteArray) : IO ByteArray := do
  let chunk ← stream.read 65536
  if chunk.isEmpty then return before else readAll stream (before ++ chunk)

def main (arguments : List String) : IO UInt32 := do
  let request := readArguments (arguments.map String.toList)
  let input ←
    if request.readsInput then readAll (← IO.getStdin) ByteArray.empty else pure ByteArray.empty
  let outcome := request.outcome input.toList
  put (← IO.getStdout) outcome.stdout
  put (← IO.getStderr) outcome.stderr
  return outcome.code.toUInt32
