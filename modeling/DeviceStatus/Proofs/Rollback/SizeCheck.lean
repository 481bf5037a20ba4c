import DeviceStatus.Proofs.Parcel.SizeCheck
import DeviceStatus.Proofs.Rollback.Records

/-!
# No record is refused for its size

The four types of record are read with the size check as without it. Each list is checked against
the least size of its elements, whatever they are: objects have their marker, of four octets, and
no text is shorter than its octets.
-/

namespace DeviceStatus

open Parcel Parcel.Read

namespace Rollback

variable (addressBits : Nat)

theorem isCheckOf_versionedPackage :
    IsCheckOf (Record.read (.upFront addressBits) : Read VersionedPackage) (Record.read .none) :=
  (isCheckOf_readText addressBits).bind fun _ => isCheckOf_readInt64.bind fun _ => .pure _

theorem isCheckOf_restore :
    IsCheckOf (Record.read (.upFront addressBits) : Read Restore) (Record.read .none) :=
  isCheckOf_readInt32.bind fun _ => isCheckOf_readInt32.bind fun _ =>
    (isCheckOf_readText addressBits).bind fun _ => .pure _

theorem isCheckOf_readDataPolicy : IsCheckOf readDataPolicy readDataPolicy := by
  refine isCheckOf_readInt32.bind fun code => ?_
  split
  · exact .pure _
  · exact .throw (by simp)

/-- Lists of records that are read with the check as without it. -/
theorem isCheckOf_records {α : Type} [Record α] [Spelled α] [LawfulRecord α]
    (h : IsCheckOf (Record.read (.upFront addressBits) : Read α) (Record.read .none)) :
    IsCheckOf (readList (.upFront addressBits) (Record.read (.upFront addressBits) : Read α))
      (readList .none (Record.read .none)) :=
  isCheckOf_readList addressBits h (LawfulRecord.recognizes .none)

theorem isCheckOf_packageRollback :
    IsCheckOf (Record.read (.upFront addressBits) : Read PackageRollback) (Record.read .none) :=
  (isCheckOf_readObject (isCheckOf_versionedPackage addressBits)).bind fun _ =>
    (isCheckOf_readObject (isCheckOf_versionedPackage addressBits)).bind fun _ =>
    (isCheckOf_readInts addressBits).bind fun _ =>
    (isCheckOf_records addressBits (isCheckOf_restore addressBits)).bind fun _ =>
    isCheckOf_readBool.bind fun _ => isCheckOf_readBool.bind fun _ =>
    (isCheckOf_readInts addressBits).bind fun _ => isCheckOf_readDataPolicy.bind fun _ => .pure _

theorem isCheckOf_rollback :
    IsCheckOf (Record.read (.upFront addressBits) : Read Rollback) (Record.read .none) :=
  isCheckOf_readInt32.bind fun _ =>
    (isCheckOf_records addressBits (isCheckOf_packageRollback addressBits)).bind fun _ =>
    isCheckOf_readBool.bind fun _ =>
    (isCheckOf_records addressBits (isCheckOf_versionedPackage addressBits)).bind fun _ =>
    isCheckOf_readInt32.bind fun _ => .pure _

theorem isCheckOf_record (t : RecordType) :
    IsCheckOf (Record.read (.upFront addressBits) : Read t.Value) (Record.read .none) := by
  cases t with
  | versionedPackage => exact isCheckOf_versionedPackage addressBits
  | restore => exact isCheckOf_restore addressBits
  | packageRollback => exact isCheckOf_packageRollback addressBits
  | rollback => exact isCheckOf_rollback addressBits

/-- A record is read with the size check exactly where it is read without it, to the same place. A
reading that fails fails without the check as well, and with the same fault at the same place unless
the check has refused a length. -/
theorem size_check_transparent (t : RecordType) (b : List UInt8) (start : Nat) :
    let checked := (Record.read (.upFront addressBits) : Read t.Value).at (.over b start)
    let plain := (Record.read .none : Read t.Value).at (.over b start)
    (∀ v c, checked = (.ok v, c) ↔ plain = (.ok v, c)) ∧
      ∀ fault c, checked = (.error fault, c) →
        RefusesLength checked ∧ (∃ fault' c', plain = (.error fault', c')) ∨
          ¬ RefusesLength checked ∧ plain = (.error fault, c) := by
  intro checked plain
  have hchecks : Checks (Record.read (.upFront addressBits) : Read t.Value) (Record.read .none)
      (.over b start) := isCheckOf_record addressBits t _
  refine ⟨fun v c => hchecks.at_eq_ok_iff, fun fault c hfault => ?_⟩
  by_cases hrefuses : RefusesLength checked
  · exact .inl ⟨hrefuses, hchecks.refused hrefuses⟩
  · rw [← hfault]
    exact .inr ⟨hrefuses, hchecks.passed hrefuses⟩

/-- Where two packages are announced in four octets, the readers report different faults. -/
example :
    let b : List UInt8 := [7, 0, 0, 0, 2, 0, 0, 0, 0, 0, 0, 0]
    (Record.read .standard : Read Rollback).at (.over b 0) =
        (.error (.truncated 4 8 4), .over b 8) ∧
      (Record.read .none : Read Rollback).at (.over b 0) = (.error (.nullElement 0), .over b 12) :=
  ⟨rfl, rfl⟩

end Rollback

end DeviceStatus
