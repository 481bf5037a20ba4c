import DeviceStatus.Words

/-!
# Words survive being written and read

A signed word is given back by its octets, and octets of the right number by the word that they
spell. The two directions together say that a field of a fixed width has exactly one spelling.
-/

namespace DeviceStatus

@[simp] theorem length_int32Octets (v : Int32) : (int32Octets v).length = 4 :=
  length_littleEndian 4 _

@[simp] theorem length_int64Octets (v : Int64) : (int64Octets v).length = 8 :=
  length_littleEndian 8 _

/-- The number that octets spell is below the bound of their field. -/
theorem ofLittleEndian_lt (octets : List UInt8) :
    ofLittleEndian octets < Nat.pow 256 octets.length := by
  induction octets with
  | nil => exact Nat.one_pos
  | cons b bs ih =>
    have hb := b.toNat_lt
    have hpow : Nat.pow 256 (b :: bs).length = Nat.pow 256 bs.length * 256 := rfl
    rw [ofLittleEndian, hpow]
    omega

/-! ## 32 bits -/

theorem int32OfOctets_int32Octets (v : Int32) : int32OfOctets (int32Octets v) = v := by
  have hfield : ofLittleEndian (int32Octets v) = v.toUInt32.toNat := by
    rw [int32Octets, ofLittleEndian_littleEndian]
    exact Nat.mod_eq_of_lt v.toUInt32.toNat_lt
  rw [int32OfOctets, hfield]
  exact Int32.ofNat_bitVecToNat v.toBitVec

theorem int32Octets_int32OfOctets {octets : List UInt8} (h : octets.length = 4) :
    int32Octets (int32OfOctets octets) = octets := by
  have hlt := ofLittleEndian_lt octets
  rw [h] at hlt
  have hword : (int32OfOctets octets).toUInt32.toNat = ofLittleEndian octets := by
    rw [int32OfOctets, Int32.toUInt32_ofNat', UInt32.toNat_ofNat']
    exact Nat.mod_eq_of_lt hlt
  rw [int32Octets, hword, ← h, littleEndian_ofLittleEndian]

/-! ## 64 bits -/

theorem int64OfOctets_int64Octets (v : Int64) : int64OfOctets (int64Octets v) = v := by
  have hfield : ofLittleEndian (int64Octets v) = v.toUInt64.toNat := by
    rw [int64Octets, ofLittleEndian_littleEndian]
    exact Nat.mod_eq_of_lt v.toUInt64.toNat_lt
  rw [int64OfOctets, hfield]
  exact Int64.ofNat_bitVecToNat v.toBitVec

theorem int64Octets_int64OfOctets {octets : List UInt8} (h : octets.length = 8) :
    int64Octets (int64OfOctets octets) = octets := by
  have hlt := ofLittleEndian_lt octets
  rw [h] at hlt
  have hword : (int64OfOctets octets).toUInt64.toNat = ofLittleEndian octets := by
    rw [int64OfOctets, Int64.toUInt64_ofNat', UInt64.toNat_ofNat']
    exact Nat.mod_eq_of_lt hlt
  rw [int64Octets, hword, ← h, littleEndian_ofLittleEndian]

end DeviceStatus
