import DeviceStatus.Proofs.Parcel.LeftToRight
import DeviceStatus.Proofs.Rollback.Records

/-!
# Where the octets of a record end

The readers of all four types of record go from left to right. So a record that was cut is reported
as cut and as nothing else, with what is missing where; octets behind a record are counted; and what
stands behind the octets that have been read decides nothing.
-/

namespace DeviceStatus

open Parcel Parcel.Read

namespace Rollback

theorem leftToRight_versionedPackage :
    (Record.read .standard : Read VersionedPackage).IsLeftToRight :=
  leftToRight_readText.bind fun _ => leftToRight_readInt64.bind fun _ => .pure _

theorem leftToRight_restore : (Record.read .standard : Read Restore).IsLeftToRight :=
  leftToRight_readInt32.bind fun _ => leftToRight_readInt32.bind fun _ =>
    leftToRight_readText.bind fun _ => .pure _

theorem leftToRight_readDataPolicy : readDataPolicy.IsLeftToRight := by
  refine leftToRight_readInt32.bind fun code => ?_
  split
  · exact .pure _
  · exact .throw rfl

theorem leftToRight_packageRollback :
    (Record.read .standard : Read PackageRollback).IsLeftToRight :=
  (leftToRight_readObject leftToRight_versionedPackage).bind fun _ =>
    (leftToRight_readObject leftToRight_versionedPackage).bind fun _ =>
    leftToRight_readInts.bind fun _ =>
    (leftToRight_readList leftToRight_restore).bind fun _ =>
    leftToRight_readBool.bind fun _ => leftToRight_readBool.bind fun _ =>
    leftToRight_readInts.bind fun _ => leftToRight_readDataPolicy.bind fun _ => .pure _

theorem leftToRight_rollback : (Record.read .standard : Read Rollback).IsLeftToRight :=
  leftToRight_readInt32.bind fun _ =>
    (leftToRight_readList leftToRight_packageRollback).bind fun _ =>
    leftToRight_readBool.bind fun _ =>
    (leftToRight_readList leftToRight_versionedPackage).bind fun _ =>
    leftToRight_readInt32.bind fun _ => .pure _

theorem leftToRight_record (t : RecordType) :
    (Record.read .standard : Read t.Value).IsLeftToRight := by
  cases t with
  | versionedPackage => exact leftToRight_versionedPackage
  | restore => exact leftToRight_restore
  | packageRollback => exact leftToRight_packageRollback
  | rollback => exact leftToRight_rollback

/-- Every record has octets. -/
theorem decode_nil (t : RecordType) :
    (decode .standard [] : Except Fault t.Value) = .error (.truncated 0 4 0) := by
  cases t <;> rfl

/-- A record that was cut somewhere is reported as cut: either inside a field of one, four or eight
octets, or in what a length prefix announces. The report counts what is left there and what is
needed, and never asks for more than the whole record has. -/
theorem decode_take_eq_truncated (t : RecordType) {b : List UInt8} {v : t.Value} {n : Nat}
    (hb : decode .standard b = .ok v) (hn : n < b.length) :
    ∃ offset needed remaining,
      (decode .standard (b.take n) : Except Fault t.Value) =
        .error (.truncated offset needed remaining) ∧
      remaining < needed ∧
      ((needed = 1 ∨ needed = 4 ∨ needed = 8) ∧
          offset + remaining = n ∧ offset + needed ≤ b.length ∨
        (∃ count, (b.drop offset).take 4 = lengthOctets count ∧
            (needed = count ∨ needed = count * 4)) ∧
          offset + 4 + remaining = n ∧ offset + 4 + needed ≤ b.length) := by
  obtain ⟨place, offset, needed, remaining, hcut, hmissing, hend, hneeded, hroom⟩ :=
    decode_take_of_decode (leftToRight_record t) hb hn
  refine ⟨offset, needed, remaining, hcut, hneeded, ?_⟩
  cases hmissing with
  | field hwidth => exact .inl ⟨hwidth, hend, hroom⟩
  | announced hplace hwritten hcount =>
    subst hplace
    have hinside : offset + 4 ≤ n := Nat.le.intro hend
    rw [← (alike_take b hinside).take_drop] at hwritten
    exact .inr ⟨⟨_, hwritten, hcount⟩, hend, hroom⟩

/-- A rollback that is cut inside a package, where a list of two words has only seven octets. -/
theorem decode_take_eq_truncated_nested :
    let package : PackageRollback :=
      { source := ⟨"é", -2⟩, target := ⟨"", 1⟩, pendingBackups := [-1, 0] }
    let v : Rollback := { id := -7, packages := [package], isStaged := true }
    decode .standard (octets v) = .ok v ∧ 57 < (octets v).length ∧
      ∃ offset needed remaining,
        (decode .standard ((octets v).take 57) : Except Fault Rollback) =
          .error (.truncated offset needed remaining) ∧
        remaining < needed ∧
        ((needed = 1 ∨ needed = 4 ∨ needed = 8) ∧
            offset + remaining = 57 ∧ offset + needed ≤ (octets v).length ∨
          (∃ count, ((octets v).drop offset).take 4 = lengthOctets count ∧
              (needed = count ∨ needed = count * 4)) ∧
            offset + 4 + remaining = 57 ∧ offset + 4 + needed ≤ (octets v).length) := by
  intro package v
  have hpackage : WithinLimits package :=
    ⟨show FitsText "é" by decide, show FitsText "" by decide, by decide,
      ⟨by decide, by simp [package]⟩, by decide⟩
  have hv : WithinLimits v := ⟨⟨by decide, by simpa [v] using hpackage⟩, by decide, by simp [v]⟩
  have hb := decode_octets .standard hv
  have hn : 57 < (octets v).length := by decide +kernel
  exact ⟨hb, hn, decode_take_eq_truncated .rollback hb hn⟩

/-- A reading of a record depends on nothing behind the octets that it has read: in a parcel that is
no shorter and begins with the same octets it comes to the same result, be it a value or a fault
other than a cut, and stops at the same place. So octets are left behind a record exactly if the
octets in front of them are one. -/
theorem read_from_left_to_right (t : RecordType) :
    (∀ (b b' : List UInt8) (start : Nat) (result : Except Fault t.Value) (c : Cursor),
      start ≤ b.length → b.length ≤ b'.length →
      (Record.read .standard).at (.over b start) = (result, c) →
      (∀ offset needed remaining, result ≠ .error (.truncated offset needed remaining)) →
      b.take c.position = b'.take c.position →
      (Record.read .standard).at (.over b' start) = (result, .over b' c.position)) ∧
    ∀ (b : List UInt8) (n : Nat),
      (decode .standard b : Except Fault t.Value) = .error (.trailingData n) ↔
        0 < n ∧ ∃ v : t.Value, decode .standard (b.take (b.length - n)) = .ok v := by
  constructor
  · intro b b' start result c hstart hlength hread hresult hsame
    obtain ⟨result', stop, hreach⟩ := leftToRight_record t b start hstart
    rw [hreach.at_eq] at hread
    obtain ⟨rfl, rfl⟩ := Prod.mk.inj hread
    exact hreach.again hresult b' ⟨hlength, hsame.symm⟩
  · intro b n
    refine decode_eq_trailing_iff (leftToRight_record t) fun v => ?_
    rw [decode_nil]
    simp

/-- A text that is not UTF-8 is refused alike whatever follows it, and nothing behind it is read. -/
theorem read_from_left_to_right_ill_formed :
    let b : List UInt8 := [7, 1, 0, 0, 0, 0xff, 0, 0]
    let b' : List UInt8 := [7, 1, 0, 0, 0, 0xff, 9, 8, 7]
    let fault : Fault := .illFormedText ⟨[0xff], ⟨0, some 1⟩⟩
    (1 ≤ b.length ∧ b.length ≤ b'.length ∧
      (Record.read .standard : Read VersionedPackage).at (.over b 1) = (.error fault, .over b 6) ∧
      (∀ offset needed remaining, fault ≠ .truncated offset needed remaining) ∧
      b.take 6 = b'.take 6) ∧
    (Record.read .standard : Read VersionedPackage).at (.over b' 1) =
      (.error fault, .over b' 6) := by
  intro b b' fault
  have hread : (Record.read .standard : Read VersionedPackage).at (.over b 1) =
      (.error fault, .over b 6) := by rfl
  refine ⟨⟨by decide, by decide, hread, by simp [fault], by decide⟩, ?_⟩
  exact (read_from_left_to_right .versionedPackage).1 b b' 1 (.error fault) (.over b 6)
    (by decide) (by decide) hread (by simp [fault]) (by decide)

end Rollback

end DeviceStatus
