import DeviceStatus.Parcel.Writer

/-!
# Rollback records

A rollback takes a set of packages back to earlier versions, together. Its record says which
packages, what is still to be done for each, whether the rollback needs a restart, and which
packages caused it. The fields of a record are written one after another in the order of its
declaration here, except that the truth value `staged` stands between the two lists.
-/

namespace DeviceStatus

open Parcel

namespace Rollback

/-- A package at one of its versions. -/
structure VersionedPackage where
  /-- The name of the package. -/
  name : String
  /-- The version code. -/
  version : Int64
deriving DecidableEq, Repr

/-- Data of an application that is still to be restored for a user. -/
structure Restore where
  /-- The user. -/
  user : Int32
  /-- The application's id. -/
  app : Int32
  /-- The security label for the restored data. -/
  label : String
deriving DecidableEq, Repr

/-- What becomes of the user data of a package that is rolled back. -/
inductive DataPolicy where
  /-- The data saved when the rollback was prepared is brought back. -/
  | restore
  /-- The data is erased. -/
  | wipe
  /-- The data stays as it is. -/
  | retain
deriving DecidableEq, Repr

/-- The number of a policy. -/
def DataPolicy.code : DataPolicy → Int32
  | restore => 0
  | wipe => 1
  | retain => 2

/-- The name of a policy. -/
def DataPolicy.name : DataPolicy → String
  | restore => "Restore"
  | wipe => "Wipe"
  | retain => "Retain"

/-- The policy with a number. -/
def DataPolicy.ofCode? (code : Int32) : Option DataPolicy :=
  if code = 0 then some restore
  else if code = 1 then some wipe
  else if code = 2 then some retain
  else none

/-- One package of a rollback. -/
structure PackageRollback where
  /-- The version that is left. -/
  source : VersionedPackage
  /-- The version that is returned to. -/
  target : VersionedPackage
  /-- The users whose data is still to be saved. -/
  pendingBackups : List Int32 := []
  /-- The data still to be restored. -/
  pendingRestores : List Restore := []
  /-- Whether the package is a system module. -/
  isApex : Bool := false
  /-- Whether the package is an application inside a system module. -/
  isApkInApex : Bool := false
  /-- The users whose data has been saved. -/
  snapshottedUsers : List Int32 := []
  /-- What becomes of the user data. -/
  dataPolicy : DataPolicy := .restore
deriving DecidableEq, Repr

/-- The name of the package that is rolled back. -/
def PackageRollback.name (p : PackageRollback) : String := p.source.name

/-- The session of a rollback for which none has been committed. -/
def noSession : Int32 := -1

instance : Record VersionedPackage where
  octets p := textOctets p.name ++ int64Octets p.version
  read check := do
    let name ← readText check
    let version ← readInt64
    pure { name, version }

instance : Record Restore where
  octets r := int32Octets r.user ++ int32Octets r.app ++ textOctets r.label
  read check := do
    let user ← readInt32
    let app ← readInt32
    let label ← readText check
    pure { user, app, label }

/-- Reads a policy by its number. -/
def readDataPolicy : Read DataPolicy := do
  let code ← readInt32
  match DataPolicy.ofCode? code with
  | some policy => pure policy
  | none => throw (.unknownValue .dataPolicy code)

instance : Record PackageRollback where
  octets p :=
    objectOctets p.source ++ objectOctets p.target ++ intsOctets p.pendingBackups ++
      listOctets p.pendingRestores ++ boolOctets p.isApex ++ boolOctets p.isApkInApex ++
      intsOctets p.snapshottedUsers ++ int32Octets p.dataPolicy.code
  read check := do
    let source ← readObject (Record.read check)
    let target ← readObject (Record.read check)
    let pendingBackups ← readInts check
    let pendingRestores ← readList check (Record.read check)
    let isApex ← readBool
    let isApkInApex ← readBool
    let snapshottedUsers ← readInts check
    let dataPolicy ← readDataPolicy
    pure { source, target, pendingBackups, pendingRestores, isApex, isApkInApex,
           snapshottedUsers, dataPolicy }

end Rollback

/-- A rollback. -/
structure Rollback where
  /-- The id of the rollback. -/
  id : Int32
  /-- The packages that are rolled back. -/
  packages : List Rollback.PackageRollback
  /-- The packages that caused the rollback. -/
  causes : List Rollback.VersionedPackage := []
  /-- Whether a restart is needed for the rollback to take effect. -/
  isStaged : Bool
  /-- The session that committed the rollback. -/
  session : Int32 := Rollback.noSession
deriving DecidableEq, Repr

instance : Record Rollback where
  octets r :=
    int32Octets r.id ++ listOctets r.packages ++ boolOctets r.isStaged ++ listOctets r.causes ++
      int32Octets r.session
  read check := do
    let id ← readInt32
    let packages ← readList check (Record.read check)
    let isStaged ← readBool
    let causes ← readList check (Record.read check)
    let session ← readInt32
    pure { id, packages, causes, isStaged, session }

end DeviceStatus
