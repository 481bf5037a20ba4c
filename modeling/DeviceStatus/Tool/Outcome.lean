import DeviceStatus.Failure
import DeviceStatus.Text.Quoted

/-!
# The outcome of a command

What a command prints on its two outputs, and its exit code. A command that fails prints the report
of its failure and nothing else.
-/

namespace DeviceStatus.Tool

/-- What a command leaves behind. -/
structure Outcome where
  /-- 0 for success. -/
  exitCode : Nat
  /-- The text on standard output. -/
  output : String
  /-- The text on standard error. -/
  errors : String
deriving DecidableEq, Repr

/-- The outcome of a command that succeeds with a text or fails. -/
def Outcome.ofResult : Except Failure String → Outcome
  | .ok output => ⟨0, output, ""⟩
  | .error failure => ⟨1, "", Text.line failure.report⟩

/-- A named file as a command finds it. -/
structure File where
  /-- The path by which the file was asked for. -/
  path : String
  /-- The octets of the file, or why it cannot be read. -/
  content : Except String (List UInt8)

/-- Why a file that does not exist cannot be read. -/
def noSuchFile : String := "No such file or directory (os error 2)"

end DeviceStatus.Tool
