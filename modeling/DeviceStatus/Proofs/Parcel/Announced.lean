import DeviceStatus.Proofs.Parcel.Prefixed

/-!
# What has been announced is there

A length that is accepted has room for what it announces, so nothing that is read for it can be cut
off. The room is counted in words of the machine, but no parcel is as long as the largest word: a
size that is cut down to the largest word is too large already, so the check decides as if it
counted exactly (`announcedSize_le_iff`).
-/

namespace DeviceStatus.Parcel

open Read

variable {α : Type} {addressBits : Nat}

/-- The length of the longest parcel that a machine with addresses of `addressBits` bits can hold:
the distance between two of its octets is a signed word. -/
def longestParcel (addressBits : Nat) : Nat := Nat.pow 2 (addressBits - 1) - 1

theorem longestParcel_lt (hbits : addressBits ≠ 0) :
    longestParcel addressBits < Nat.pow 2 addressBits - 1 := by
  obtain ⟨bits, rfl⟩ := Nat.exists_eq_succ_of_ne_zero hbits
  have hpos := Nat.two_pow_pos bits
  show 2 ^ bits - 1 < 2 ^ (bits + 1) - 1
  rw [Nat.pow_succ]
  omega

/-- A size that does not fit into a word has no room in any parcel. -/
theorem announcedSize_le_iff {count size room : Nat} (hbits : addressBits ≠ 0)
    (hroom : room ≤ longestParcel addressBits) :
    announcedSize addressBits count size ≤ room ↔ count * size ≤ room := by
  have hlimit := longestParcel_lt hbits
  unfold announcedSize
  omega

/-- The place `n` octets further on. -/
def Cursor.skip (c : Cursor) (n : Nat) : Cursor := ⟨c.position + n, c.rest.drop n⟩

theorem Cursor.remaining_skip (c : Cursor) (n : Nat) : (c.skip n).remaining = c.remaining - n := by
  simp [skip, remaining]

theorem Cursor.skip_skip (c : Cursor) (m n : Nat) : (c.skip m).skip n = c.skip (m + n) := by
  simp [skip, Nat.add_assoc]

/-- A place is where it is reached from: so many octets behind an earlier one. -/
theorem Cursor.eq_skip {c c' : Cursor} {octets : List UInt8} (hrest : c.rest = octets ++ c'.rest)
    (hposition : c'.position = c.position + octets.length) : c' = c.skip octets.length := by
  rw [skip, hrest, List.drop_left, ← hposition]

theorem at_readInt32_skip {c : Cursor} (h : 4 ≤ c.remaining) :
    readInt32.at c = (.ok (int32OfOctets (c.rest.take 4)), c.skip 4) := by
  rw [readInt32, at_map, at_take_of_le h]
  rfl

/-! ## Lengths -/

/-- A length is accepted exactly if it is there, is no mark and no negative number, and if what is
left behind it has room for what it announces. -/
theorem at_readLength_eq_some_iff {size n : Nat} {c c' : Cursor} (hbits : addressBits ≠ 0)
    (hparcel : c.remaining ≤ longestParcel addressBits) :
    (readLength (.upFront addressBits) size).at c = (.ok (some n), c') ↔
      ∃ v : Int32, c.rest = int32Octets v ++ c'.rest ∧ v.toInt = n ∧ c' = c.skip 4 ∧
        n * size ≤ c'.remaining := by
  constructor
  · intro h
    rw [readLength, at_bind, at_place] at h
    simp only at h
    obtain ⟨v, c₁, hv, h⟩ := at_bind_eq_ok_iff.1 h
    obtain ⟨-, _, _, ⟨rfl, -⟩, hrest, hposition⟩ := recognizes_readInt32.sound hv
    have hskip := Cursor.eq_skip hrest hposition
    rw [length_int32Octets] at hskip
    by_cases hnull : v = nullLength
    · simp [hnull] at h
    by_cases hnegative : v < 0
    · simp [hnull, hnegative] at h
    simp only [hnull, hnegative, if_false, at_bind, at_place] at h
    split at h
    · next hholds =>
      obtain ⟨rfl, rfl⟩ : v.toNatClampNeg = n ∧ c₁ = c' := by simpa using h
      have hroom : c₁.remaining ≤ longestParcel addressBits := by
        rw [hskip, Cursor.remaining_skip]
        omega
      refine ⟨v, hrest, ?_, hskip, (announcedSize_le_iff hbits hroom).1 ((holds_iff _ _).1 hholds)⟩
      rw [Int32.toNatClampNeg, Int.toNat_of_nonneg]
      exact Int32.le_iff_toInt_le.1 (Int32.not_lt.1 hnegative)
    · simp at h
  · rintro ⟨v, hrest, hv, rfl, hroom⟩
    have hnegative : ¬ v < 0 := by
      rw [Int32.lt_iff_toInt_lt, hv, Int32.toInt_zero]
      omega
    obtain ⟨hle, hwritten⟩ := lengthOctets_toNatClampNeg hnegative
    have hcount : v.toNatClampNeg = n := by rw [Int32.toNatClampNeg, hv, Int.toNat_natCast]
    rw [hcount] at hle hwritten
    rw [← hwritten] at hrest
    have hread := at_readLength_plain (.upFront addressBits) c.position hle hroom
    rw [← hrest] at hread
    have hplace : c.skip 4 = ⟨c.position + 4, (c.skip 4).rest⟩ := rfl
    rw [hplace]
    exact hread

/-! ## What stands behind a length -/

/-- The text behind an accepted length is there; it may still be no text. -/
theorem at_readText?_of_length {check : SizeCheck} {n : Nat} {c c' : Cursor}
    (h : (readLength check 1).at c = (.ok (some n), c')) (hroom : n ≤ c'.remaining) :
    (readText? check).at c =
      (match Utf8.decode (c'.rest.take n) with
        | .ok text => .ok (some text)
        | .error cause => .error (.illFormedText ⟨c'.rest.take n, cause⟩), c'.skip n) := by
  rw [readText?, at_bind, h]
  simp only
  rw [at_bind, at_take_of_le hroom]
  simp only
  cases Utf8.decode (c'.rest.take n) <;> rfl

/-- Words for which there is room are read one after another. -/
theorem at_readMany_readInt32 (n : Nat) {c : Cursor} (h : n * 4 ≤ c.remaining) :
    ∃ values, (readMany n fun _ => readInt32).at c = (.ok values, c.skip (4 * n)) ∧
      values.length = n ∧
      ∀ i, (hi : i < values.length) →
        readInt32.at (c.skip (4 * i)) = (.ok values[i], c.skip (4 * (i + 1))) := by
  suffices hitems : ∀ index, ∃ values,
      Read.at (readItems (fun _ => readInt32) n index []) c = (.ok values, c.skip (4 * n)) ∧
        values.length = n ∧ ∀ i, (hi : i < values.length) →
          readInt32.at (c.skip (4 * i)) = (.ok values[i], c.skip (4 * (i + 1))) from hitems 0
  intro index
  induction n generalizing c index with
  | zero => exact ⟨[], by simp [Read.at, readItems, Cursor.skip], rfl, by simp⟩
  | succ n ih =>
    have hfirst := at_readInt32_skip (c := c) (by omega)
    have hroom : n * 4 ≤ (c.skip 4).remaining := by
      rw [Cursor.remaining_skip]
      omega
    obtain ⟨values, hread, hlength, hvalues⟩ := ih hroom (index + 1)
    refine ⟨int32OfOctets (c.rest.take 4) :: values, ?_, by simp [hlength], ?_⟩
    · rw [readItems_succ, at_bind, hfirst]
      simp only
      rw [at_bind, hread]
      simp only [at_pure, Cursor.skip_skip, Prod.mk.injEq, true_and]
      congr 1
      omega
    · rintro (_ | i) hi
      · simpa [Cursor.skip] using hfirst
      · have hnext := hvalues i (by simpa using hi)
        rw [Cursor.skip_skip, Cursor.skip_skip] at hnext
        simpa [Nat.mul_add, Nat.add_comm] using hnext

/-- The number of elements for which the reader of a list makes room, before it reads the first. -/
def readCapacity (check : SizeCheck) : Read Nat := (·.getD 0) <$> readLength check 4

/-- Reads an element of a list, which must be present. -/
def readElement (object : Read α) (index : Nat) : Read α := do
  match ← readObject? object with
  | some value => pure value
  | none => throw (.nullElement index)

/-- A list is read element by element into the room that has been made for it. -/
theorem readList_eq_bind_readCapacity (check : SizeCheck) (object : Read α) :
    readList check object =
      readCapacity check >>= fun capacity => readMany capacity (readElement object) := by
  rw [readCapacity, bind_map_left]
  rfl

/-- No room is made for a missing list, and for a list no more than what is left can need. -/
theorem readCapacity_le {c c' : Cursor} {capacity : Nat} (hbits : addressBits ≠ 0)
    (hparcel : c.remaining ≤ longestParcel addressBits)
    (h : (readCapacity (.upFront addressBits)).at c = (.ok capacity, c')) :
    4 * capacity ≤ c'.remaining := by
  rw [readCapacity, map_eq_pure_bind] at h
  obtain ⟨length, c₁, hlength, hcapacity⟩ := at_bind_eq_ok_iff.1 h
  obtain ⟨rfl, rfl⟩ : length.getD 0 = capacity ∧ c₁ = c' := by simpa using hcapacity
  cases length with
  | none => exact Nat.zero_le _
  | some n =>
    obtain ⟨_, -, -, -, hroom⟩ := (at_readLength_eq_some_iff hbits hparcel).1 hlength
    rw [Nat.mul_comm]
    exact hroom

/-- On a machine with addresses of 32 or 64 bits, wherever in a parcel a length stands: it is
accepted exactly if it is there, is not negative and has room for what it announces, counted
exactly. Then the octets of a text are there, each word of a list is read, behind the one before it,
and the room made for the elements of a list is at most a quarter of what is left. -/
theorem announced_is_there (hbits : addressBits = 32 ∨ addressBits = 64) (c : Cursor)
    (hparcel : c.position + c.remaining ≤ longestParcel addressBits) :
    let check := SizeCheck.upFront addressBits
    (∀ size, size = 1 ∨ size = 4 → ∀ n c',
      (announcedSize addressBits n size ≤ (c.skip 4).remaining ↔
        n * size ≤ (c.skip 4).remaining) ∧
      ((readLength check size).at c = (.ok (some n), c') ↔
        ∃ v : Int32, c.rest = int32Octets v ++ c'.rest ∧ v.toInt = n ∧ c' = c.skip 4 ∧
          n * size ≤ c'.remaining)) ∧
    (∀ n c', (readLength check 1).at c = (.ok (some n), c') →
      (take n).at c' = (.ok (c'.rest.take n), c'.skip n) ∧
      (readText? check).at c =
        (match Utf8.decode (c'.rest.take n) with
          | .ok text => .ok (some text)
          | .error cause => .error (.illFormedText ⟨c'.rest.take n, cause⟩), c'.skip n)) ∧
    (∀ n c', (readLength check 4).at c = (.ok (some n), c') →
      ∃ values, (readInts check).at c = (.ok values, c.skip (4 + 4 * n)) ∧ values.length = n ∧
        ∀ i, (hi : i < values.length) →
          readInt32.at (c'.skip (4 * i)) = (.ok values[i], c'.skip (4 * (i + 1)))) ∧
    (∀ (object : Read α) capacity c', (readCapacity check).at c = (.ok capacity, c') →
      4 * capacity ≤ c'.remaining ∧
      (readList check object).at c = (readMany capacity (readElement object)).at c') := by
  have hpositive : addressBits ≠ 0 := by omega
  have hroom : c.remaining ≤ longestParcel addressBits := by omega
  have hsome := fun size n c' =>
    @at_readLength_eq_some_iff addressBits size n c c' hpositive hroom
  refine ⟨fun size hsize n c' => ⟨?_, hsome size n c'⟩, fun n c' h => ?_, fun n c' h => ?_,
    fun object capacity c' h => ⟨readCapacity_le hpositive hroom h, ?_⟩⟩
  · refine announcedSize_le_iff hpositive ?_
    rw [Cursor.remaining_skip]
    omega
  · obtain ⟨_, -, -, -, htext⟩ := (hsome 1 n c').1 h
    rw [Nat.mul_one] at htext
    exact ⟨at_take_of_le htext, at_readText?_of_length h htext⟩
  · obtain ⟨_, -, -, hplace, hwords⟩ := (hsome 4 n c').1 h
    obtain ⟨values, hread, hlength, hvalues⟩ := at_readMany_readInt32 n hwords
    refine ⟨values, ?_, hlength, hvalues⟩
    rw [readInts, at_bind, h, ← Cursor.skip_skip, ← hplace]
    exact hread
  · rw [readList_eq_bind_readCapacity, at_bind, h]

/-- Two words and an octet behind them, where addresses have 32 bits. -/
theorem announced_is_there_two_words :
    let c : Cursor := ⟨3, [2, 0, 0, 0, 7, 0, 0, 0, 255, 255, 255, 255, 9]⟩
    c.position + c.remaining ≤ longestParcel 32 ∧
      (readLength (.upFront 32) 4).at c = (.ok (some 2), c.skip 4) ∧
      ∃ values, (readInts (.upFront 32)).at c = (.ok values, c.skip (4 + 4 * 2)) ∧
        values.length = 2 ∧ ∀ i, (hi : i < values.length) →
          readInt32.at ((c.skip 4).skip (4 * i)) =
            (.ok values[i], (c.skip 4).skip (4 * (i + 1))) := by
  intro c
  have hparcel : c.position + c.remaining ≤ longestParcel 32 := by decide
  obtain ⟨hlength, -, hwords, -⟩ := announced_is_there (α := Unit) (.inl rfl) c hparcel
  have haccepted := (hlength 4 (.inr rfl) 2 (c.skip 4)).2.2 ⟨2, rfl, rfl, rfl, by decide⟩
  exact ⟨hparcel, haccepted, hwords 2 _ haccepted⟩

end DeviceStatus.Parcel
