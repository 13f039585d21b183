import ContentModel.CommandLine.Run

/-!
# The program

The command line over the files of the machine.
-/

namespace ContentModel

/-- What stands at a path of the machine. -/
def lookAt (path : String) : IO CommandLine.Stored := do
  try
    return .file (← IO.FS.readBinFile path)
  catch
    | .noFileOrDirectory .. => return .missing
    | .inappropriateType .. => return .directory
    | error => throw error

/-- Writes a file of the machine. -/
def writeAt (path : String) (content : ByteArray) : IO (Except CommandLine.WriteError Unit) := do
  try
    IO.FS.writeBinFile path content
    return .ok ()
  catch
    | .noFileOrDirectory .. => return .error .noDirectory
    | .inappropriateType .. => return .error .isADirectory
    | _ => return .error .refused

/-- The files of the machine. -/
def machineFiles : CommandLine.Files IO := ⟨lookAt, writeAt⟩

end ContentModel

open ContentModel in
def main (words : List String) : IO UInt32 := do
  let outcome ← CommandLine.run machineFiles words
  (← IO.getStdout).putStr outcome.output
  let errors ← IO.getStderr
  for line in outcome.log do
    errors.putStrLn line
  if let some message := outcome.ending.message? then
    errors.putStrLn message
  return outcome.ending.exitCode.toUInt32
