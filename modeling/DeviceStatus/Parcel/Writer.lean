import DeviceStatus.Parcel.Reader

/-!
# Writing a parcel

The octets of each kind of field. What a field is written as depends on its value alone, so a parcel
is a concatenation, and `Parcel.append` is the only way in which one grows.

A `Record` is a type of values with a written form and a reader for it.
-/

namespace DeviceStatus.Parcel

/-- The octets written so far. -/
structure Buffer where
  /-- The octets, first one first. -/
  octets : List UInt8 := []
deriving DecidableEq, Repr

/-- The number of octets written so far. -/
def Buffer.size (b : Buffer) : Nat := b.octets.length

/-- Whether nothing has been written. -/
def Buffer.isEmpty (b : Buffer) : Bool := b.octets.isEmpty

/-- Writes further octets at the end. -/
def Buffer.append (b : Buffer) (octets : List UInt8) : Buffer := ⟨b.octets ++ octets⟩

/-- The largest length that a prefix can announce. -/
def greatestLength : Nat := 0x7fffffff

/-- The prefix for a length; one that is too large is written as the largest. -/
def lengthOctets (length : Nat) : List UInt8 :=
  int32Octets (Int32.ofNat (min length greatestLength))

/-- A truth value is one octet. -/
def boolOctets (b : Bool) : List UInt8 := [if b then 1 else 0]

/-- A text is its length in octets and the octets. -/
def textOctets (text : String) : List UInt8 :=
  let octets := Utf8.encode text
  lengthOctets octets.length ++ octets

/-- A text that may be missing. -/
def optionalTextOctets : Option String → List UInt8
  | none => int32Octets nullLength
  | some text => textOctets text

/-- A list of signed 32-bit words is their number and the words. -/
def intsOctets (values : List Int32) : List UInt8 :=
  lengthOctets values.length ++ values.flatMap int32Octets

/-- A type of values that can be written into a parcel and read back. -/
class Record (α : Type) where
  /-- The octets of a value. -/
  octets : α → List UInt8
  /-- Reads a value whose octets are next. -/
  read : SizeCheck → Read α

export Record (octets)

variable {α : Type} [Record α]

/-- An object is a marker and the record. -/
def objectOctets (value : α) : List UInt8 := int32Octets 1 ++ octets value

/-- A list of objects is their number and the objects. -/
def listOctets (values : List α) : List UInt8 :=
  lengthOctets values.length ++ values.flatMap objectOctets

/-- The record that the octets hold, and nothing else. -/
def decode (check : SizeCheck) (input : List UInt8) : Except Fault α :=
  (Read.at (do let value ← Record.read check; readEnd; pure value) ⟨0, input⟩).1

end DeviceStatus.Parcel
