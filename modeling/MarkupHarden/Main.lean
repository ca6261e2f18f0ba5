import MarkupHarden.CommandLine.Run

/-!
# The program

Runs the command line on the files and streams of the process.
-/

namespace MarkupHarden.CommandLine

/-- The reason behind an error of the system. -/
def fileFaultOf : IO.Error → FileFault
  | .noFileOrDirectory .. => .missing
  | .inappropriateType _ _ details =>
      if Text.sameIgnoringCase details "is a directory" then .isDirectory
      else .notDirectory
  | error => .other error.toString

/-- Turns errors of the system into values. -/
def attempt {α : Type} (action : IO α) : IO (Except FileFault α) := do
  match ← action.toBaseIO with
  | .ok value => return .ok value
  | .error error => return .error (fileFaultOf error)

/-- Everything up to the end of a stream. -/
partial def readAll (stream : IO.FS.Stream) (content : ByteArray) :
    IO ByteArray := do
  let chunk ← stream.read 65536
  if chunk.isEmpty then return content
  readAll stream (content ++ chunk)

/-- The files and streams of the process. -/
def processHost : Host IO where
  readInput := attempt do
    return (← readAll (← IO.getStdin) ByteArray.empty).toList
  readFile := fun path => attempt do
    return (← IO.FS.readBinFile path).toList
  writeFile := fun path text => attempt (IO.FS.writeFile path text)
  writeOutput := fun text => do
    let stream ← IO.getStdout
    stream.putStr text
    stream.flush
  writeError := fun text => do (← IO.getStderr).putStr text

end MarkupHarden.CommandLine

/-- The log filter is taken from the variable `PD_LOG`. -/
def main (arguments : List String) : IO UInt32 := do
  let logFilter ← IO.getEnv "PD_LOG"
  let status ←
    MarkupHarden.CommandLine.run MarkupHarden.CommandLine.processHost logFilter
      arguments
  return status.code
