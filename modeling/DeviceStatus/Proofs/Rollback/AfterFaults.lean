import DeviceStatus.Proofs.Parcel.Stops
import DeviceStatus.Proofs.Rollback.Stream

/-!
# Reading on after faults

A reader may go on after a fault, and then it begins wherever the last reading stopped, in the
middle of a record if need be. All readings are safe, so the cursor is at a place of the parcel at
all times (`isIn_readStream`): it never goes back, what has been read and what is left make up the
parcel, and a fault has the reader stop where it is.
-/

namespace DeviceStatus.Rollback

open Parcel Parcel.Read

/-! ## Fields are safe -/

theorem isSafe_versionedPackage : (Record.read .standard : Read VersionedPackage).IsSafe :=
  isSafe_readText.bind fun _ => isSafe_readInt64.bind fun _ => .pure _

theorem isSafe_restore : (Record.read .standard : Read Restore).IsSafe :=
  isSafe_readInt32.bind fun _ => isSafe_readInt32.bind fun _ =>
    isSafe_readText.bind fun _ => .pure _

theorem isSafe_readDataPolicy : readDataPolicy.IsSafe := by
  intro parcel c hc
  refine (isSafe_readInt32 parcel c hc).bind hc fun code c' hread _ => ?_
  obtain ⟨hword, hposition⟩ := wordAt_of_readInt32 hc hread
  split
  · exact .pure parcel _ c'
  · exact .throw (hposition ▸ .unknownValue hword)

theorem isSafe_packageRollback : (Record.read .standard : Read PackageRollback).IsSafe :=
  (isSafe_readObject isSafe_versionedPackage).bind fun _ =>
    (isSafe_readObject isSafe_versionedPackage).bind fun _ =>
    isSafe_readInts.bind fun _ => (isSafe_readList isSafe_restore).bind fun _ =>
    isSafe_readBool.bind fun _ => isSafe_readBool.bind fun _ =>
    isSafe_readInts.bind fun _ => isSafe_readDataPolicy.bind fun _ => .pure _

theorem isSafe_rollback : (Record.read .standard : Read Rollback).IsSafe :=
  isSafe_readInt32.bind fun _ => (isSafe_readList isSafe_packageRollback).bind fun _ =>
    isSafe_readBool.bind fun _ => (isSafe_readList isSafe_versionedPackage).bind fun _ =>
    isSafe_readInt32.bind fun _ => .pure _

theorem isSafe_record (t : RecordType) : (Record.read .standard : Read t.Value).IsSafe := by
  cases t with
  | versionedPackage => exact isSafe_versionedPackage
  | restore => exact isSafe_restore
  | packageRollback => exact isSafe_packageRollback
  | rollback => exact isSafe_rollback

theorem Field.isSafe_read (f : Field) : (f.read .standard).IsSafe := by
  cases f with
  | int32 => exact isSafe_readInt32
  | int64 => exact isSafe_readInt64
  | bool => exact isSafe_readBool
  | text => exact isSafe_readText?
  | requiredText => exact isSafe_readText
  | ints => exact isSafe_readInts
  | plain t => exact isSafe_record t
  | object t => exact isSafe_readObject? (isSafe_record t)
  | list t => exact isSafe_readList (isSafe_record t)

/-! ## Fields that begin with a length -/

/-- The least octets of what the length in front of a field counts; the other fields have none. -/
def Field.countedSize? : Field → Option Nat
  | .text | .requiredText => some 1
  | .ints | .list _ => some 4
  | .int32 | .int64 | .bool | .plain _ | .object _ => none

theorem Field.read_eq_bind {f : Field} {size : Nat} (h : f.countedSize? = some size) :
    ∃ next, f.read .standard = readLength .standard size >>= next := by
  cases f with
  | int32 | int64 | bool | plain _ | object _ => simp [countedSize?] at h
  | text =>
    obtain rfl := Option.some.inj h
    exact ⟨_, rfl⟩
  | requiredText =>
    obtain rfl := Option.some.inj h
    exact ⟨_, bind_assoc (readLength .standard 1) _ _⟩
  | ints =>
    obtain rfl := Option.some.inj h
    exact ⟨_, rfl⟩
  | list t =>
    obtain rfl := Option.some.inj h
    exact ⟨_, rfl⟩

theorem Field.size_of_countedSize? {f : Field} {size : Nat} (h : f.countedSize? = some size) :
    size = 1 ∨ size = 4 := by
  cases f <;> simp_all [countedSize?]

/-- A field fails with its length. -/
theorem Field.at_of_readLength {f : Field} {size : Nat} (h : f.countedSize? = some size)
    {c c' : Cursor} {fault : Fault}
    (hlength : (readLength .standard size).at c = (.error fault, c')) :
    (f.read .standard).at c = (.error fault, c') := by
  obtain ⟨next, hread⟩ := read_eq_bind h
  rw [hread, at_bind, hlength]

/-! ## Streams -/

theorem readStream_concat (check : SizeCheck) (fields : List Field) (f : Field) (c : Cursor) :
    let (readings, last) := readStream check fields c
    let (result, next) := (f.read check).at last
    readStream check (fields ++ [f]) c = (readings ++ [⟨f, result, next⟩], next) := by
  induction fields generalizing c with
  | nil => rfl
  | cons g fields ih =>
    have hrest := ih ((g.read check).at c).2
    simp only [readStream, List.cons_append] at hrest ⊢
    rw [hrest]

/-- What a reading of a field comes to and where it stops, wherever in a parcel it begins. -/
structure SafeReading (b : List UInt8) (c : Cursor) (f : Field) (result : Except Fault f.Value)
    (c' : Cursor) : Prop where
  /-- Wherever it looks and where it stops, it is in the parcel and has not gone back. -/
  inside : ∃ visited, (f.read .standard).Visits c visited ∧
    ∀ seen ∈ visited ++ [c'], c.position ≤ seen.position ∧ seen.IsIn b
  /-- After a fault it stands where the fault is. -/
  stopped : ∀ {fault}, result = .error fault → Stopped b c'.position fault
  /-- Less is left than is needed if the parcel is reported as cut. -/
  short : ∀ {offset needed remaining}, result = .error (.truncated offset needed remaining) →
    remaining = c'.remaining ∧ remaining < needed
  /-- A word is taken as a whole or not at all. -/
  word : f = .int32 ∨ f = .int64 → ∀ {fault}, result = .error fault → c' = c
  /-- A truth value that is cut is left, and one that is at fault has been taken. -/
  bool : f = .bool → ∀ {fault}, result = .error fault →
    (c' = c ∧ fault = .truncated c.position 1 c.remaining) ∨
      ∃ octet, fault = .invalidBool octet ∧ b[c.position]? = some octet ∧
        c'.position = c.position + 1
  /-- A prefix that is no length is taken alone. -/
  noLength : ∀ {size v}, f.countedSize? = some size → WordAt b c.position v → v < 0 →
    v ≠ nullLength → result = .error (.invalidLength v) ∧ c'.position = c.position + 4
  /-- A prefix that announces more than is left is taken alone. -/
  longLength : ∀ {size v}, f.countedSize? = some size → WordAt b c.position v → ¬ v < 0 →
    b.length < c.position + 4 + v.toNatClampNeg * size →
    result = .error (.truncated c.position (v.toNatClampNeg * size)
      (b.length - (c.position + 4))) ∧ c'.position = c.position + 4

theorem Field.safeReading (f : Field) {b : List UInt8} {c : Cursor} (hc : c.IsIn b) :
    SafeReading b c f ((f.read .standard).at c).1 ((f.read .standard).at c).2 := by
  have hsafe := f.isSafe_read b c hc
  obtain ⟨visited, hvisits⟩ := hsafe.visits
  obtain ⟨hinside, hle, hlast⟩ := hvisits.inside hc
  obtain ⟨⟨result, c'⟩, hread⟩ : ∃ reading, (f.read .standard).at c = reading := ⟨_, rfl⟩
  rw [hread] at hle hlast ⊢
  have hstopped : ∀ {fault}, result = .error fault → Stopped b c'.position fault := by
    rintro fault rfl
    exact hsafe.stopped hread
  constructor
  · refine ⟨visited, hvisits, fun seen hseen => ?_⟩
    rcases List.mem_append.1 hseen with hbefore | hend
    · exact hinside seen hbefore
    · rw [List.mem_singleton.1 hend]
      exact ⟨hle, hlast⟩
  · exact hstopped
  · intro offset needed remaining hcut
    rw [hlast.remaining_eq]
    exact (hstopped hcut).remaining_lt
  · rintro (rfl | rfl) fault rfl
    · exact (at_map_take_eq_error hread).1
    · exact (at_map_take_eq_error hread).1
  · rintro rfl fault rfl
    exact at_readBool_eq_error hc hread
  · intro size v hsize hword hnegative hnull
    have hfault := Field.at_of_readLength hsize
      (at_readLength_of_negative size hc hword hnegative hnull)
    rw [hread] at hfault
    obtain ⟨rfl, rfl⟩ := Prod.mk.inj hfault
    exact ⟨rfl, rfl⟩
  · intro size v hsize hword hlength hshort
    have hfault := Field.at_of_readLength hsize
      (at_readLength_of_short (Field.size_of_countedSize? hsize) hc hword hlength hshort)
    rw [hread] at hfault
    obtain ⟨rfl, rfl⟩ := Prod.mk.inj hfault
    exact ⟨rfl, rfl⟩

/-- After any fields, whether they could be read or not, the reader is at a place of the parcel. -/
theorem isIn_readStream (b : List UInt8) (fields : List Field) {c : Cursor} (hc : c.IsIn b) :
    (readStream .standard fields c).2.IsIn b := by
  induction fields generalizing c with
  | nil => exact hc
  | cons f fields ih =>
    obtain ⟨visited, hvisits⟩ := (f.isSafe_read b c hc).visits
    exact ih (hvisits.inside hc).2.2

theorem at_readEnd {b : List UInt8} {c : Cursor} (hc : c.IsIn b) :
    (readEnd.at c).1 =
      if c.position = b.length then .ok () else .error (.trailingData (b.length - c.position)) := by
  have hinside := hc.le
  by_cases hend : c.position = b.length
  · have hrest : c.rest = [] := by rw [hc.rest_eq, hend, List.drop_length]
    rw [if_pos hend, (at_readEnd_eq_ok_iff (u := ())).2 ⟨hrest, rfl⟩]
  · have hrest : c.rest ≠ [] := by
      rw [hc.rest_eq, Ne, List.drop_eq_nil_iff]
      omega
    rw [if_neg hend, ← hc.remaining_eq]
    simp [readEnd, at_bind]

/-- Whatever fields have been read, and whether or not they could be read, the reader is at a place
of the parcel: what it has read and what is left make up the parcel, and the parcel is at its end
exactly if nothing is left. The next field is then read safely from there. -/
theorem read_on_after_faults (b : List UInt8) (fields : List Field) (f : Field) :
    let (readings, c) := readStream .standard fields (.over b 0)
    let (result, c') := (f.read .standard).at c
    c.IsIn b ∧ c.position + c.remaining = b.length ∧
      ((readEnd.at c).1 = if c.position = b.length then .ok ()
        else .error (.trailingData c.remaining)) ∧
      readStream .standard (fields ++ [f]) (.over b 0) = (readings ++ [⟨f, result, c'⟩], c') ∧
      SafeReading b c f result c' := by
  have hc := isIn_readStream b fields (Cursor.isIn_over (Nat.zero_le b.length))
  have hinside := hc.le
  refine ⟨hc, ?_, ?_, readStream_concat .standard fields f _, f.safeReading hc⟩
  · rw [hc.remaining_eq]
    omega
  · rw [hc.remaining_eq]
    exact at_readEnd hc

/-- A text that announces too much is left behind its prefix, a word that is cut in front of it. -/
example :
    (readStream .standard [.requiredText, .bool, .int64] (.over [2, 0, 0, 0, 1] 0)).1.map
      (fun reading => reading.place.position) = [4, 5, 5] := rfl

end DeviceStatus.Rollback
