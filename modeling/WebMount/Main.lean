import WebMount.CommandLine

/-!
# The program

The command line run on the files and the streams of the process.
-/

namespace WebMount

/-- The bytes of a file of the system. -/
def readFile (path : String) : IO (Except IoError Bytes) := do
  try
    let content ← IO.FS.readBinFile path
    return .ok content.toList
  catch e =>
    return .error (.other (toString e))

end WebMount

/-- Runs the command line. -/
def main (arguments : List String) : IO UInt32 := do
  let outcome ← WebMount.CommandLine.run WebMount.readFile arguments
  (← IO.getStdout).putStr outcome.output
  (← IO.getStderr).putStr outcome.complaint
  return outcome.exitCode.toUInt32
