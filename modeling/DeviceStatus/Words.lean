/-!
# Little-endian words

A word is stored as its base-256 digits, least significant first. `littleEndian` writes a natural
number into a field of a given width and `ofLittleEndian` reads one back; signed words travel as
the unsigned word with the same bits, so both signs need only this pair.
-/

namespace DeviceStatus

/-- The `width` lowest base-256 digits of a number, least significant first. -/
def littleEndian : Nat → Nat → List UInt8
  | 0, _ => []
  | width + 1, n => UInt8.ofNat n :: littleEndian width (n / 256)

/-- The number whose base-256 digits are given, least significant first. -/
def ofLittleEndian : List UInt8 → Nat
  | [] => 0
  | b :: bs => b.toNat + 256 * ofLittleEndian bs

/-- The four octets of a signed 32-bit word. -/
def int32Octets (v : Int32) : List UInt8 := littleEndian 4 v.toUInt32.toNat

/-- The signed 32-bit word with the given octets. -/
def int32OfOctets (octets : List UInt8) : Int32 := Int32.ofNat (ofLittleEndian octets)

/-- The eight octets of a signed 64-bit word. -/
def int64Octets (v : Int64) : List UInt8 := littleEndian 8 v.toUInt64.toNat

/-- The signed 64-bit word with the given octets. -/
def int64OfOctets (octets : List UInt8) : Int64 := Int64.ofNat (ofLittleEndian octets)

@[simp] theorem length_littleEndian (width n : Nat) : (littleEndian width n).length = width := by
  induction width generalizing n with
  | zero => rfl
  | succ width ih => simp [littleEndian, ih]

/-- A field keeps a number modulo what it can hold. -/
theorem ofLittleEndian_littleEndian (width n : Nat) :
    ofLittleEndian (littleEndian width n) = n % Nat.pow 256 width := by
  induction width generalizing n with
  | zero => simp [littleEndian, ofLittleEndian, Nat.mod_one]
  | succ width ih =>
    have hsplit : n % Nat.pow 256 (width + 1) = n % 256 + 256 * (n / 256 % Nat.pow 256 width) := by
      rw [← Nat.mod_mul, Nat.mul_comm]
      rfl
    rw [hsplit, littleEndian, ofLittleEndian, ih, UInt8.toNat_ofNat']

/-- Every list of octets is the field of the number it spells. -/
theorem littleEndian_ofLittleEndian (octets : List UInt8) :
    littleEndian octets.length (ofLittleEndian octets) = octets := by
  induction octets with
  | nil => rfl
  | cons b bs ih =>
    have hb := b.toNat_lt
    have hlow : UInt8.ofNat (b.toNat + 256 * ofLittleEndian bs) = b := by
      apply UInt8.toNat_inj.1
      simp
    have hhigh : (b.toNat + 256 * ofLittleEndian bs) / 256 = ofLittleEndian bs := by omega
    simp [littleEndian, ofLittleEndian, hlow, hhigh, ih]

end DeviceStatus
