import DeviceStatus.Rollback.Records

/-!
# Streams of fields

A parcel may hold any sequence of fields, which its reader must know. `Field` names the kinds of
field that can be read, each with the type of what is read; `Item` is a field to be written, with
its value. An item that is written and then read as its own field gives its value back.
-/

namespace DeviceStatus.Rollback

open Parcel

/-- The four types of record. -/
inductive RecordType where
  /-- `VersionedPackage`. -/
  | versionedPackage
  /-- `Restore`. -/
  | restore
  /-- `PackageRollback`. -/
  | packageRollback
  /-- `Rollback`. -/
  | rollback
deriving DecidableEq, Repr

/-- The values of a type of record. -/
abbrev RecordType.Value : RecordType → Type
  | versionedPackage => VersionedPackage
  | restore => Restore
  | packageRollback => PackageRollback
  | rollback => Rollback

instance (t : RecordType) : Record t.Value :=
  match t with
  | .versionedPackage => inferInstanceAs (Record VersionedPackage)
  | .restore => inferInstanceAs (Record Restore)
  | .packageRollback => inferInstanceAs (Record PackageRollback)
  | .rollback => inferInstanceAs (Record Rollback)

instance (t : RecordType) : DecidableEq t.Value :=
  match t with
  | .versionedPackage => inferInstanceAs (DecidableEq VersionedPackage)
  | .restore => inferInstanceAs (DecidableEq Restore)
  | .packageRollback => inferInstanceAs (DecidableEq PackageRollback)
  | .rollback => inferInstanceAs (DecidableEq Rollback)

/-- A kind of field that can be read. -/
inductive Field where
  /-- A signed 32-bit word. -/
  | int32
  /-- A signed 64-bit word. -/
  | int64
  /-- A truth value. -/
  | bool
  /-- A text that may be missing. -/
  | text
  /-- A text that must be present. -/
  | requiredText
  /-- A list of signed 32-bit words. -/
  | ints
  /-- A record. -/
  | plain (t : RecordType)
  /-- A record behind a marker that says whether it is present. -/
  | object (t : RecordType)
  /-- A list of records that are all present. -/
  | list (t : RecordType)
deriving DecidableEq, Repr

/-- What reading a field gives. -/
abbrev Field.Value : Field → Type
  | int32 => Int32
  | int64 => Int64
  | bool => Bool
  | text => Option String
  | requiredText => String
  | ints => List Int32
  | plain t => t.Value
  | object t => Option t.Value
  | list t => List t.Value

/-- Reads a field. -/
def Field.read (check : SizeCheck) : (f : Field) → Read f.Value
  | int32 => readInt32
  | int64 => readInt64
  | bool => readBool
  | text => readText? check
  | requiredText => readText check
  | ints => readInts check
  | plain _ => Record.read check
  | object _ => readObject? (Record.read check)
  | list _ => readList check (Record.read check)

/-- A field with the value to be written. -/
inductive Item where
  /-- A signed 32-bit word. -/
  | int32 (v : Int32)
  /-- A signed 64-bit word. -/
  | int64 (v : Int64)
  /-- A truth value. -/
  | bool (v : Bool)
  /-- A text that may be missing. -/
  | text (v : Option String)
  /-- A list of signed 32-bit words. -/
  | ints (v : List Int32)
  /-- A record. -/
  | plain (t : RecordType) (v : t.Value)
  /-- A record that is marked as present. -/
  | object (t : RecordType) (v : t.Value)
  /-- A list of records. -/
  | list (t : RecordType) (v : List t.Value)

/-- The octets of an item. -/
def Item.octets : Item → List UInt8
  | int32 v => int32Octets v
  | int64 v => int64Octets v
  | bool v => boolOctets v
  | text v => optionalTextOctets v
  | ints v => intsOctets v
  | plain _ v => Parcel.octets v
  | object _ v => objectOctets v
  | list _ v => listOctets v

/-- The kind of field that an item is written as. -/
def Item.field : Item → Field
  | int32 _ => .int32
  | int64 _ => .int64
  | bool _ => .bool
  | text _ => .text
  | ints _ => .ints
  | plain t _ => .plain t
  | object t _ => .object t
  | list t _ => .list t

/-- What reading an item back should give. -/
def Item.value : (i : Item) → i.field.Value
  | int32 v => v
  | int64 v => v
  | bool v => v
  | text v => v
  | ints v => v
  | plain _ v => v
  | object _ v => some v
  | list _ v => v

/-- Writes an item at the end of a parcel. -/
def Item.write (i : Item) (b : Buffer) : Buffer := b.append i.octets

end DeviceStatus.Rollback
