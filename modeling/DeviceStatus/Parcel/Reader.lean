import DeviceStatus.Words
import DeviceStatus.Parcel.Fault

/-!
# Reading a parcel

A parcel is read from left to right by a cursor, which knows how far it has come and what is left.
A read that fails also leaves a cursor behind, so reading can go on after a fault.

A length prefix announces how many octets or elements follow. Normally it is compared with what is
left of the parcel before anything is read for it, so that an absurd length is refused at once; this
is the `SizeCheck`. The check is a parameter of every reader, and the readers without it are the
reference that it is measured against.
-/

namespace DeviceStatus.Parcel

/-- A place in a parcel. -/
structure Cursor where
  /-- The number of octets already read. -/
  position : Nat
  /-- The octets not yet read. -/
  rest : List UInt8
deriving DecidableEq, Repr

/-- The number of octets not yet read. -/
def Cursor.remaining (c : Cursor) : Nat := c.rest.length

/-- A reading: a value or a fault, and the place reached in either case. -/
abbrev Read (α : Type) := ExceptT Fault (StateM Cursor) α

/-- Performs a reading at a place. -/
def Read.at (r : Read α) (c : Cursor) : Except Fault α × Cursor := r c

/-- When a length prefix is compared with what is left of the parcel. -/
inductive SizeCheck where
  /-- As soon as it is read. The announced size is computed in words of `addressBits` bits and
  stops at the largest of them. -/
  | upFront (addressBits : Nat)
  /-- Never; what it announces is read until a read fails. -/
  | none
deriving DecidableEq, Repr

/-- The check of a machine with 64-bit addresses. -/
def SizeCheck.standard : SizeCheck := .upFront 64

/-- The octets announced by a count of elements that have `size` octets each, in words of
`addressBits` bits. -/
def announcedSize (addressBits count size : Nat) : Nat :=
  min (count * size) (Nat.pow 2 addressBits - 1)

/-- Whether a list has at least `n` elements; it looks at no more than `n` of them. -/
def holds (n : Nat) (octets : List UInt8) : Bool :=
  match n with
  | 0 => true
  | n + 1 => !(octets.drop n).isEmpty

theorem holds_iff (n : Nat) (octets : List UInt8) : holds n octets = true ↔ n ≤ octets.length := by
  cases n with
  | zero => simp [holds]
  | succ n =>
    have hdrop : (octets.drop n).isEmpty = true ↔ octets.length ≤ n := by
      rw [List.isEmpty_iff, List.drop_eq_nil_iff]
    rw [holds, Bool.not_eq_true', ← Bool.not_eq_true, hdrop]
    omega

/-- Takes the next `n` octets, or none of them. -/
def take (n : Nat) : Read (List UInt8) := fun c =>
  if holds n c.rest then (.ok (c.rest.take n), ⟨c.position + n, c.rest.drop n⟩)
  else (.error (.truncated c.position n c.remaining), c)

/-- The place reached. -/
def place : Read Cursor := fun c => (.ok c, c)

/-- Reads a signed 32-bit word. -/
def readInt32 : Read Int32 := int32OfOctets <$> take 4

/-- Reads a signed 64-bit word. -/
def readInt64 : Read Int64 := int64OfOctets <$> take 8

/-- Reads a truth value, which is one octet. -/
def readBool : Read Bool := do
  match ← take 1 with
  | [0] => pure false
  | [1] => pure true
  | octets => throw (.invalidBool (octets.headD 0))

/-- The length written for a missing text or list. -/
def nullLength : Int32 := -1

/-- Reads a length prefix; `none` is a missing value. `size` is the least number of octets of each
announced element. -/
def readLength (check : SizeCheck) (size : Nat) : Read (Option Nat) := do
  let start ← place
  let length ← readInt32
  if length = nullLength then
    pure none
  else if length < 0 then
    throw (.invalidLength length)
  else
    let count := length.toNatClampNeg
    match check with
    | .none => pure (some count)
    | .upFront addressBits =>
      let needed := announcedSize addressBits count size
      let after ← place
      if holds needed after.rest then pure (some count)
      else throw (.truncated start.position needed after.remaining)

/-- Reads a text that may be missing. -/
def readText? (check : SizeCheck) : Read (Option String) := do
  match ← readLength check 1 with
  | none => pure none
  | some length =>
    let octets ← take length
    match Utf8.decode octets with
    | .ok text => pure (some text)
    | .error cause => throw (.illFormedText ⟨octets, cause⟩)

/-- Reads a text that must be present. -/
def readText (check : SizeCheck) : Read String := do
  match ← readText? check with
  | some text => pure text
  | none => throw .nullText

/-- Reads `count` items, numbered from `index` on, behind the items `done`, which are in reverse. -/
def readItems (item : Nat → Read α) : Nat → Nat → List α → Cursor → Except Fault (List α) × Cursor
  | 0, _, done, c => (.ok done.reverse, c)
  | count + 1, index, done, c =>
    match (item index).at c with
    | (.ok a, c) => readItems item count (index + 1) (a :: done) c
    | (.error fault, c) => (.error fault, c)

/-- Reads `count` items; `item` is told the number of each. -/
def readMany (count : Nat) (item : Nat → Read α) : Read (List α) := readItems item count 0 []

/-- Reads a list of signed 32-bit words; a missing list is empty. -/
def readInts (check : SizeCheck) : Read (List Int32) := do
  let count ← readLength check 4
  readMany (count.getD 0) fun _ => readInt32

/-- Reads an object that may be missing: a marker, then the object if the marker is 1. -/
def readObject? (object : Read α) : Read (Option α) := do
  let marker ← readInt32
  if marker = 1 then some <$> object
  else if marker = 0 then pure none
  else throw (.unknownValue .presenceMarker marker)

/-- Reads an object that must be present behind its marker. -/
def readObject (object : Read α) : Read α := do
  let start ← place
  match ← readObject? object with
  | some value => pure value
  | none => throw (.nullObject start.position)

/-- Reads a list of objects, all of which must be present; a missing list is empty. -/
def readList (check : SizeCheck) (object : Read α) : Read (List α) := do
  let count ← readLength check 4
  readMany (count.getD 0) fun index => do
    match ← readObject? object with
    | some value => pure value
    | none => throw (.nullElement index)

/-- Succeeds only at the end of the parcel. -/
def readEnd : Read Unit := do
  let c ← place
  match c.rest with
  | [] => pure ()
  | _ => throw (.trailingData c.remaining)

end DeviceStatus.Parcel
