import DeviceStatus.Text.Utf8
import DeviceStatus.Text.Wording

/-!
# Faults of a parcel

Everything that can be wrong with the octets of a parcel, as causes with their data, and the one
function that words them.
-/

namespace DeviceStatus.Parcel

/-- The enumerated fields of a parcel, whose values are a few small numbers. -/
inductive Enumerated where
  /-- The marker in front of an object that may be missing. -/
  | presenceMarker
  /-- What becomes of the data of a package that is rolled back. -/
  | dataPolicy
deriving DecidableEq, Repr

/-- The name of an enumerated field. -/
def Enumerated.name : Enumerated → String
  | presenceMarker => "presence marker"
  | dataPolicy => "rollback data policy"

/-- Why a parcel cannot be read. -/
inductive Fault where
  /-- The field at `offset` needs more octets than `remaining`. For a length prefix `needed` counts
  what it announces and `remaining` what follows the prefix. -/
  | truncated (offset needed remaining : Nat)
  /-- A length is negative and is not the mark of a missing value. -/
  | invalidLength (length : Int32)
  /-- The octet of a truth value is neither 0 nor 1. -/
  | invalidBool (octet : UInt8)
  /-- An element of a list is missing. -/
  | nullElement (index : Nat)
  /-- The required object whose marker is at `offset` is missing. -/
  | nullObject (offset : Nat)
  /-- A required text is missing. -/
  | nullText
  /-- The octets of a text are not UTF-8. -/
  | illFormedText (text : Utf8.Rejected)
  /-- An enumerated field holds a number without a meaning. -/
  | unknownValue (field : Enumerated) (value : Int32)
  /-- `count` octets follow the value that the parcel should hold alone. -/
  | trailingData (count : Nat)
deriving DecidableEq, Repr

/-- The fault in words. -/
def Fault.message : Fault → String
  | truncated offset needed remaining =>
    s!"Parcel truncated at offset {offset}: needed {needed} bytes, {remaining} remaining"
  | invalidLength length => s!"Invalid length {length.toInt}"
  | invalidBool octet => "Invalid boolean value 0x" ++ Text.paddedHex 2 octet.toNat
  | nullElement index => s!"Null element at index {index}"
  | nullObject offset => s!"Null object at offset {offset}"
  | nullText => "Unexpected null string"
  | illFormedText text => s!"Invalid UTF-8 string: {text.cause.message}"
  | unknownValue field value => s!"Unknown {field.name} value {value.toInt}"
  | trailingData count => s!"{count} trailing bytes after parcelable"

end DeviceStatus.Parcel
