import DeviceStatus.Rollback.Stream
import DeviceStatus.Proofs.Parcel.Record

/-!
# The octets of rollback records

The four types of record are lawful: the reader of each takes the spellings of its values, field by
field in the order of writing. So each value within the limits is read back from its octets wherever
they stand, and the octets that decode to it are its octets up to empty lists that are written as
missing.
-/

namespace DeviceStatus

open Parcel

namespace Rollback

/-! ## The four types of record -/

instance : Spelled VersionedPackage where
  WithinLimits p := FitsText p.name
  spelling p := .exactly (textOctets p.name) ++ .exactly (int64Octets p.version)

instance : Spelled Restore where
  WithinLimits r := FitsText r.label
  spelling r :=
    .exactly (int32Octets r.user) ++ .exactly (int32Octets r.app) ++ .exactly (textOctets r.label)

instance : Spelled PackageRollback where
  WithinLimits p :=
    WithinLimits p.source ∧ WithinLimits p.target ∧ FitsList p.pendingBackups ∧
      (FitsList p.pendingRestores ∧ ∀ r ∈ p.pendingRestores, WithinLimits r) ∧
      FitsList p.snapshottedUsers
  spelling p :=
    (spelling p.source).object ++ (spelling p.target).object ++ .ints p.pendingBackups ++
      .list spelling p.pendingRestores ++ .exactly (boolOctets p.isApex) ++
      .exactly (boolOctets p.isApkInApex) ++ .ints p.snapshottedUsers ++
      .exactly (int32Octets p.dataPolicy.code)

instance : LawfulRecord VersionedPackage where
  recognizes check := by
    refine .record (.field VersionedPackage.name (recognizes_readText check) fun name =>
      .field VersionedPackage.version recognizes_readInt64 fun version => .done ?_) ?_ ?_
    · rintro ⟨⟩
      simp
    · simp [WithinLimits]
    · simp [spelling]
  around _ := (Spelling.around_exactly _).append (Spelling.around_exactly _)

instance : LawfulRecord Restore where
  recognizes check := by
    refine .record (.field Restore.user recognizes_readInt32 fun user =>
      .field Restore.app recognizes_readInt32 fun app =>
      .field Restore.label (recognizes_readText check) fun label => .done ?_) ?_ ?_
    · rintro ⟨⟩
      simp [and_assoc]
    · simp [WithinLimits]
    · simp [spelling, Spelling.append_assoc]
  around _ :=
    ((Spelling.around_exactly _).append (Spelling.around_exactly _)).append
      (Spelling.around_exactly _)

theorem ofCode?_code (policy : DataPolicy) : DataPolicy.ofCode? policy.code = some policy := by
  cases policy <;> rfl

theorem code_of_ofCode? {code : Int32} {policy : DataPolicy}
    (h : DataPolicy.ofCode? code = some policy) : policy.code = code := by
  unfold DataPolicy.ofCode? at h
  by_cases hrestore : code = 0
  · obtain rfl : DataPolicy.restore = policy := by simpa [hrestore] using h
    exact hrestore.symm
  by_cases hwipe : code = 1
  · obtain rfl : DataPolicy.wipe = policy := by simpa [hwipe] using h
    exact hwipe.symm
  by_cases hretain : code = 2
  · obtain rfl : DataPolicy.retain = policy := by simpa [hretain] using h
    exact hretain.symm
  · simp [hrestore, hwipe, hretain] at h

/-- A policy is spelled as its number, and no other number is a policy. -/
theorem recognizes_readDataPolicy :
    readDataPolicy.Recognizes (fun _ => True) fun policy => .exactly (int32Octets policy.code) where
  complete := by
    rintro policy _ _ - ⟨rfl, -⟩ position rest
    have hword := recognizes_readInt32.complete (a := policy.code) trivial ⟨rfl, rfl⟩ position rest
    rw [readDataPolicy, Read.at_bind, hword]
    simp [ofCode?_code]
  sound := by
    intro policy c c' h
    obtain ⟨code, c₁, hword, h₂⟩ := Read.at_bind_eq_ok_iff.1 h
    split at h₂
    · next policy' hcode =>
      obtain ⟨rfl, rfl⟩ : policy' = policy ∧ c₁ = c' := by simpa using h₂
      rw [code_of_ofCode? hcode]
      exact recognizes_readInt32.sound hword
    · simp at h₂

instance : LawfulRecord PackageRollback where
  recognizes check := by
    have hversion := recognizes_readObject (LawfulRecord.recognizes (α := VersionedPackage) check)
    have hrestores := recognizes_readList check (LawfulRecord.recognizes (α := Restore) check)
    refine .record (.field PackageRollback.source hversion fun source =>
      .field PackageRollback.target hversion fun target =>
      .field PackageRollback.pendingBackups (recognizes_readInts check) fun pendingBackups =>
      .field PackageRollback.pendingRestores hrestores fun pendingRestores =>
      .field PackageRollback.isApex recognizes_readBool fun isApex =>
      .field PackageRollback.isApkInApex recognizes_readBool fun isApkInApex =>
      .field PackageRollback.snapshottedUsers (recognizes_readInts check) fun snapshottedUsers =>
      .field PackageRollback.dataPolicy recognizes_readDataPolicy fun dataPolicy => .done ?_) ?_ ?_
    · rintro ⟨⟩
      simp [and_assoc]
    · simp [WithinLimits]
    · simp [spelling, Spelling.append_assoc]
  around p :=
    (((((((LawfulRecord.around p.source).object.append
      (LawfulRecord.around p.target).object).append
      (Spelling.around_ints _)).append
      (Spelling.around_list LawfulRecord.around _)).append
      (Spelling.around_exactly _)).append
      (Spelling.around_exactly _)).append
      (Spelling.around_ints _)).append
      (Spelling.around_exactly _)

end Rollback

instance : Spelled Rollback where
  WithinLimits r :=
    (FitsList r.packages ∧ ∀ p ∈ r.packages, WithinLimits p) ∧
      FitsList r.causes ∧ ∀ p ∈ r.causes, WithinLimits p
  spelling r :=
    .exactly (int32Octets r.id) ++ .list spelling r.packages ++ .exactly (boolOctets r.isStaged) ++
      .list spelling r.causes ++ .exactly (int32Octets r.session)

instance : LawfulRecord Rollback where
  recognizes check := by
    have hpackages := recognizes_readList check
      (LawfulRecord.recognizes (α := Rollback.PackageRollback) check)
    have hcauses := recognizes_readList check
      (LawfulRecord.recognizes (α := Rollback.VersionedPackage) check)
    refine .record (.field Rollback.id recognizes_readInt32 fun id =>
      .field Rollback.packages hpackages fun packages =>
      .field Rollback.isStaged recognizes_readBool fun isStaged =>
      .field Rollback.causes hcauses fun causes =>
      .field Rollback.session recognizes_readInt32 fun session => .done ?_) ?_ ?_
    · rintro ⟨⟩
      simp [and_assoc, and_left_comm]
    · simp [WithinLimits]
    · simp [spelling, Spelling.append_assoc]
  around _ :=
    ((((Spelling.around_exactly _).append
      (Spelling.around_list LawfulRecord.around _)).append
      (Spelling.around_exactly _)).append
      (Spelling.around_list LawfulRecord.around _)).append
      (Spelling.around_exactly _)

namespace Rollback

/-! ## All types of record -/

instance (t : RecordType) : Spelled t.Value :=
  match t with
  | .versionedPackage => inferInstanceAs (Spelled VersionedPackage)
  | .restore => inferInstanceAs (Spelled Restore)
  | .packageRollback => inferInstanceAs (Spelled PackageRollback)
  | .rollback => inferInstanceAs (Spelled Rollback)

instance (t : RecordType) : LawfulRecord t.Value :=
  match t with
  | .versionedPackage => inferInstanceAs (LawfulRecord VersionedPackage)
  | .restore => inferInstanceAs (LawfulRecord Restore)
  | .packageRollback => inferInstanceAs (LawfulRecord PackageRollback)
  | .rollback => inferInstanceAs (LawfulRecord Rollback)

/-- A record is read back from its octets, wherever they stand in a parcel, and the reader stops
right behind them. In particular a parcel of these octets alone decodes to the record. -/
theorem at_octets_eq_ok (t : RecordType) (check : SizeCheck) (v : t.Value) (hv : WithinLimits v) :
    (∀ pre post, (Record.read check).at (.over (pre ++ octets v ++ post) pre.length) =
        (.ok v, .over (pre ++ octets v ++ post) (pre.length + (octets v).length))) ∧
      decode check (octets v) = .ok v :=
  ⟨at_octets check hv, decode_octets check hv⟩

/-- A nested record with both kinds of list, absent data and negative words is read back. -/
theorem at_octets_eq_ok_nested :
    let package : PackageRollback :=
      { source := ⟨"é", -2⟩, target := ⟨"", 1⟩, pendingBackups := [-1, 0],
        pendingRestores := [⟨10, -1, "s0"⟩], isApex := true, dataPolicy := .retain }
    let v : RecordType.rollback.Value :=
      { id := -7, packages := [package, package], causes := [⟨"a", 0⟩], isStaged := true }
    WithinLimits v ∧
      (∀ pre post, (Record.read .standard).at (.over (pre ++ octets v ++ post) pre.length) =
        (.ok v, .over (pre ++ octets v ++ post) (pre.length + (octets v).length))) ∧
      decode .standard (octets v) = .ok v := by
  intro package v
  have hrestore : ∀ r ∈ package.pendingRestores, WithinLimits r := by
    intro r hr
    rw [List.mem_singleton.1 hr]
    show FitsText "s0"
    decide
  have hpackage : WithinLimits package :=
    ⟨show FitsText "é" by decide, show FitsText "" by decide, by decide, ⟨by decide, hrestore⟩,
      by decide⟩
  have hcause : WithinLimits (⟨"a", 0⟩ : VersionedPackage) := show FitsText "a" by decide
  have hv : WithinLimits v :=
    ⟨⟨by decide, by simpa [v] using hpackage⟩, by decide, by simpa [v] using hcause⟩
  exact ⟨hv, at_octets_eq_ok .rollback .standard v hv⟩

/-- The octets that decode to a record are its octets, in which counts of empty lists may be
replaced by the mark of a missing list. So writing the record again gives as many octets, which
decode to the same record and are the same ones unless a list was missing. -/
theorem decode_eq_ok_iff_spelling (t : RecordType) (check : SizeCheck) (b : List UInt8)
    (v : t.Value) :
    (decode check b = .ok v ↔ WithinLimits v ∧ ∃ missing, spelling v b missing) ∧
      (decode check b = .ok v → (octets v).length = b.length ∧ decode check (octets v) = .ok v ∧
        ∃ missing, spelling v b missing ∧ (octets v = b ↔ missing = 0)) := by
  refine ⟨decode_eq_ok_iff check, fun h => ?_⟩
  obtain ⟨hv, missing, hspelled⟩ := (decode_eq_ok_iff check).1 h
  have haround := LawfulRecord.around v
  exact ⟨(haround.length hspelled).symm, decode_octets check hv, missing, hspelled,
    by rw [eq_comm, haround.eq_iff hspelled]⟩

end Rollback

end DeviceStatus
