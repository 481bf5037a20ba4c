import DeviceStatus.Tool.CommandLine

/-!
# The program

Reads the file that a command asks for and prints the outcome of the command.
-/

namespace DeviceStatus.Tool

/-- Reads a file, or finds why it cannot be read. -/
def readFile (path : String) : IO (Except String (List UInt8)) := do
  try
    let octets ← IO.FS.readBinFile path
    pure (.ok octets.toList)
  catch error =>
    match error with
    | .noFileOrDirectory .. => pure (.error noSuchFile)
    | error => pure (.error (toString error))

/-- Prints an outcome and gives its exit code. -/
def Outcome.print (o : Outcome) : IO UInt32 := do
  IO.print o.output
  IO.eprint o.errors
  pure (UInt32.ofNat o.exitCode)

end DeviceStatus.Tool

open DeviceStatus.Tool
/-- Does what the command line asks for. -/
def main (arguments : List String) : IO UInt32 := do
  match Command.parse arguments with
  | none => Outcome.print ⟨usageExitCode, "", usage⟩
  | some command =>
    let content ← match command.path? with
      | some path => readFile path
      | none => pure (.ok [])
    Outcome.print (command.outcome content)
