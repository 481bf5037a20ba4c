import DeviceStatus.Appearance
import DeviceStatus.Settings.Load

/-!
# Printing the appearance

The command that prints the appearance of the lock screen for a snapshot of settings, on a device
without a configuration of its own. Without a snapshot every setting has its default.
-/

namespace DeviceStatus.Tool

/-- The user whose settings are read, unless another is asked for. -/
def standardUser : Int32 := 0

/-- The locale of the clock patterns, unless another is asked for. -/
def standardLocale : String := "en_US"

/-- What the command is asked for. -/
structure StylesRequest where
  /-- The file with the snapshot. -/
  settings : Option File := none
  /-- The user whose settings are read. -/
  user : Int32 := standardUser
  /-- The locale of the clock patterns. -/
  locale : String := standardLocale

/-- What stands behind an error, in words. -/
def loadCause : Settings.LoadError → String
  | .unopened cause => cause
  | .unreadable .malformed => "not a JSON text"
  | .unreadable .cutShort => "the text ends too early"
  | .unreadable .mismatched => "a value of another type was expected"

/-- The snapshot in a file. -/
def loadSnapshot (file : File) : Except Failure Settings.Snapshot :=
  match Settings.Snapshot.load file.content with
  | .ok snapshot => .ok snapshot
  | .error error => .error ⟨error.headline file.path, [loadCause error]⟩

/-- The snapshot that the command reads, which is empty if no file is given. -/
def StylesRequest.snapshot (request : StylesRequest) : Except Failure Settings.Snapshot :=
  match request.settings with
  | some file => loadSnapshot file
  | none => .ok {}

/-- The generator of patterns that the command works with. -/
def generator (_ skeleton : String) : String := Clock.skeletonPattern skeleton

/-- The text that the command prints for a store of settings. -/
def stylesText (settings : Settings.Provider) (user : Int32) (locale : String) : String :=
  (Appearance.of settings user .fixed generator locale).describe

/-- The text that the command prints. -/
def describeStyles (request : StylesRequest) : Except Failure String :=
  request.snapshot.map fun snapshot => stylesText snapshot.provider request.user request.locale

/-- The command that prints the appearance of the lock screen. -/
def styles (request : StylesRequest) : Outcome := .ofResult (describeStyles request)

end DeviceStatus.Tool
