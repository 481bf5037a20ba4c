import DeviceStatus.Rollback.Records
import DeviceStatus.Tool.Outcome

/-!
# Listing a rollback record

The text that describes a rollback: its id, then one line for each of its properties, its packages
and its causes. `command` decodes a file and prints it; a file above `greatestFileSize` is refused.
-/

namespace DeviceStatus.Rollback

/-- The line for a package that is rolled back. -/
def PackageRollback.describe (p : PackageRollback) : String :=
  "  package " ++ p.name ++ ": " ++ toString p.source.version.toInt ++ " -> " ++
    toString p.target.version.toInt ++ " (" ++ p.dataPolicy.name ++ ")"

/-- The line for a package that caused the rollback. -/
def VersionedPackage.describe (p : VersionedPackage) : String :=
  "  caused by " ++ p.name ++ " " ++ toString p.version.toInt

/-- The lines that describe a rollback. -/
def describe (r : Rollback) : List String :=
  ["rollback " ++ toString r.id.toInt,
   "  staged: " ++ Text.truth r.isStaged,
   "  committed session: " ++ toString r.session.toInt] ++
  r.packages.map (·.describe) ++ r.causes.map (·.describe)

/-- The text that describes a rollback. -/
def listing (r : Rollback) : String := String.join (r.describe.map Text.line)

/-- The size of the largest file that is read, 1 MiB. -/
def greatestFileSize : Nat := 1024 * 1024

/-- The causes of a fault, nearest first: a text that is not UTF-8 has a cause of its own. -/
def faultCauses (fault : Parcel.Fault) : List String :=
  match fault with
  | .illFormedText text => [fault.message, text.cause.message]
  | _ => [fault.message]

/-- Decodes the rollback record in a file and describes it. -/
def describeFile (file : Tool.File) : Except Failure String :=
  let path := Text.quoted file.path
  match file.content with
  | .error cause => .error ⟨"Failed to read " ++ path, [cause]⟩
  | .ok octets =>
    if octets.length > greatestFileSize then
      .error ⟨"Failed to read " ++ path, ["File is too big"]⟩
    else
      match Parcel.decode .standard octets with
      | .ok (r : Rollback) => .ok r.listing
      | .error fault =>
        .error ⟨"Failed to decode rollback record from " ++ path, faultCauses fault⟩

/-- The command that lists the rollback record in a file. -/
def command (file : Tool.File) : Tool.Outcome := .ofResult (describeFile file)

end DeviceStatus.Rollback
