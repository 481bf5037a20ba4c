import DeviceStatus.Proofs.Parcel.Record

/-!
# Reading from left to right

Two parcels that begin alike tell a reader the same story for a while. `Read.Reaches` says what
comes of a reading at a place, and that the reader knows nothing of what is behind the place it
reaches: in every parcel that is no shorter and begins alike it comes to the same end there. The
length of the parcel does matter, since a length prefix is compared with what is left; this is why
the other parcel may not be shorter, and why faults that report the end of the parcel are set apart.
Of these `Reaches.cut` says what they report, and that a longer parcel, which reads well, has the
octets that were missing.

A reading made of such readings is one (`Read.LeftToRight.bind`), so the readers of records are put
together as they are written.
-/

namespace DeviceStatus.Parcel

variable {α β : Type}

/-- Whether the fault is about where the parcel ends, not about the octets in it. -/
def Fault.isAboutEnd : Fault → Bool
  | truncated .. => true
  | trailingData _ => true
  | _ => false

/-- The other parcel is no shorter and begins with the same `n` octets. -/
structure Alike (n : Nat) (parcel other : List UInt8) : Prop where
  /-- It is no shorter. -/
  length_le : parcel.length ≤ other.length
  /-- It begins alike. -/
  take_eq : other.take n = parcel.take n

theorem Alike.mono {m n : Nat} {parcel other : List UInt8} (h : Alike n parcel other)
    (hmn : m ≤ n) : Alike m parcel other := by
  refine ⟨h.length_le, ?_⟩
  have htake := congrArg (List.take m) h.take_eq
  rw [List.take_take, List.take_take, Nat.min_eq_left hmn] at htake
  exact htake

/-- The beginning of a parcel is like the parcel as far as it goes. -/
theorem alike_take (parcel : List UInt8) {m n : Nat} (hmn : m ≤ n) :
    Alike m (parcel.take n) parcel := by
  refine ⟨List.length_take_le' n parcel, ?_⟩
  rw [List.take_take, Nat.min_eq_left hmn]

/-- Octets of a parcel are octets of the others that begin alike. -/
theorem Alike.take_drop {start n : Nat} {parcel other : List UInt8}
    (h : Alike (start + n) parcel other) :
    (other.drop start).take n = (parcel.drop start).take n := by
  have hdrop := congrArg (List.drop start) h.take_eq
  rw [List.drop_take, List.drop_take, Nat.add_sub_cancel_left] at hdrop
  exact hdrop

/-- What is missing at a place, and the offset that it is reported with. -/
inductive Missing (parcel : List UInt8) (place needed : Nat) : Nat → Prop
  /-- A field of a fixed width stands at the place. -/
  | field (h : needed = 1 ∨ needed = 4 ∨ needed = 8) : Missing parcel place needed place
  /-- The length prefix in front of the place announces as many octets, or elements of four. -/
  | announced {offset count : Nat} (hplace : place = offset + 4)
    (hwritten : (parcel.drop offset).take 4 = lengthOctets count)
    (hneeded : needed = count ∨ needed = count * 4) : Missing parcel place needed offset

namespace Read

/-- What a reading at a place of a parcel comes to, and where it stops; this does not depend on
anything behind that place. -/
structure Reaches (r : Read α) (parcel : List UInt8) (start : Nat) (result : Except Fault α)
    (stop : Nat) : Prop where
  /-- The reading comes to this. -/
  at_eq : r.at (.over parcel start) = (result, .over parcel stop)
  /-- It only goes on. -/
  le : start ≤ stop
  /-- It stays in the parcel. -/
  inside : stop ≤ parcel.length
  /-- It comes to the same wherever what has been read is the same, unless the parcel was cut. -/
  again : (∀ offset needed remaining, result ≠ .error (.truncated offset needed remaining)) →
    ∀ other, Alike stop parcel other → r.at (.over other start) = (result, .over other stop)
  /-- If the parcel was cut, the report says what is missing, and no more than another parcel has
  in which the reading succeeds. -/
  cut : ∀ {offset needed remaining}, result = .error (.truncated offset needed remaining) →
    ∃ place, Missing parcel place needed offset ∧ place + remaining = parcel.length ∧
      remaining < needed ∧ ∀ {other a c}, Alike stop parcel other →
        r.at (.over other start) = (.ok a, c) → place + needed ≤ other.length
  /-- It does not ask for the parcel to end. -/
  unending : ∀ count, result ≠ .error (.trailingData count)

/-- The reading at a place of a parcel depends on nothing behind the place that it reaches. -/
def LeftToRight (r : Read α) (parcel : List UInt8) (start : Nat) : Prop :=
  ∃ result stop, r.Reaches parcel start result stop

section Combine

variable {r : Read α} {f : α → Read β} {parcel : List UInt8} {start : Nat}

theorem Reaches.congr {r' : Read α} {result : Except Fault α} {stop : Nat}
    (h : r.Reaches parcel start result stop)
    (hr : ∀ other, r'.at (.over other start) = r.at (.over other start)) :
    r'.Reaches parcel start result stop where
  at_eq := by rw [hr, h.at_eq]
  le := h.le
  inside := h.inside
  again hresult other hother := by rw [hr, h.again hresult other hother]
  cut hresult := by
    obtain ⟨place, hmissing, hend, hneeded, hother⟩ := h.cut hresult
    refine ⟨place, hmissing, hend, hneeded, ?_⟩
    intro other a c halike hread
    rw [hr] at hread
    exact hother halike hread
  unending := h.unending

/-- A reading that is not stopped by the end of the parcel. -/
theorem Reaches.of_again {result : Except Fault α} {stop : Nat} (hle : start ≤ stop)
    (hinside : stop ≤ parcel.length)
    (hresult : ∀ fault, result = .error fault → fault.isAboutEnd = false)
    (h : ∀ other, Alike stop parcel other →
      r.at (.over other start) = (result, .over other stop)) :
    r.Reaches parcel start result stop where
  at_eq := h parcel ⟨Nat.le_refl _, rfl⟩
  le := hle
  inside := hinside
  again _ := h
  cut hcut := absurd (hresult _ hcut) (by simp [Fault.isAboutEnd])
  unending count htrailing := absurd (hresult _ htrailing) (by simp [Fault.isAboutEnd])

/-- A sequence goes on where its first part stops. -/
theorem Reaches.bind_ok {a : α} {middle stop : Nat} {result : Except Fault β}
    (h : r.Reaches parcel start (.ok a) middle) (hf : (f a).Reaches parcel middle result stop) :
    (r >>= f).Reaches parcel start result stop := by
  have hfirst : ∀ other, Alike stop parcel other →
      Read.at (r >>= f) (.over other start) = (f a).at (.over other middle) := by
    intro other hother
    rw [at_bind, h.again (by simp) other (hother.mono hf.le)]
  constructor
  · rw [hfirst parcel ⟨Nat.le_refl _, rfl⟩, hf.at_eq]
  · exact Nat.le_trans h.le hf.le
  · exact hf.inside
  · intro hresult other hother
    rw [hfirst other hother, hf.again hresult other hother]
  · intro offset needed remaining hresult
    obtain ⟨place, hmissing, hend, hneeded, hother⟩ := hf.cut hresult
    refine ⟨place, hmissing, hend, hneeded, ?_⟩
    intro other b c halike hread
    rw [hfirst other halike] at hread
    exact hother halike hread
  · exact hf.unending

/-- A sequence stops where its first part fails. -/
theorem Reaches.bind_error {fault : Fault} {stop : Nat}
    (h : r.Reaches parcel start (.error fault) stop) :
    (r >>= f).Reaches parcel start (.error fault) stop where
  at_eq := by rw [at_bind, h.at_eq]
  le := h.le
  inside := h.inside
  again hresult other hother := by
    have hfirst : ∀ offset needed remaining,
        (.error fault : Except Fault α) ≠ .error (.truncated offset needed remaining) := by
      intro offset needed remaining heq
      exact hresult offset needed remaining (by rw [Except.error.inj heq])
    rw [at_bind, h.again hfirst other hother]
  cut hresult := by
    obtain ⟨place, hmissing, hend, hneeded, hother⟩ := h.cut (by rw [Except.error.inj hresult])
    refine ⟨place, hmissing, hend, hneeded, ?_⟩
    intro other b c halike hread
    obtain ⟨a, c₁, hfirst, -⟩ := at_bind_eq_ok_iff.1 hread
    exact hother halike hfirst
  unending count heq := h.unending count (by rw [Except.error.inj heq])

theorem LeftToRight.bind (h : r.LeftToRight parcel start)
    (hf : ∀ a middle, r.Reaches parcel start (.ok a) middle →
      (f a).LeftToRight parcel middle) :
    (r >>= f).LeftToRight parcel start := by
  obtain ⟨_ | a, middle, hreach⟩ := h
  · exact ⟨_, _, hreach.bind_error⟩
  · obtain ⟨result, stop, hrest⟩ := hf a middle hreach
    exact ⟨result, stop, hreach.bind_ok hrest⟩

theorem LeftToRight.pure (hstart : start ≤ parcel.length) (a : α) :
    LeftToRight (Pure.pure a) parcel start :=
  ⟨.ok a, start, .of_again (Nat.le_refl _) hstart (by simp) fun _ _ => rfl⟩

theorem LeftToRight.throw (hstart : start ≤ parcel.length) {fault : Fault}
    (hfault : fault.isAboutEnd = false) :
    LeftToRight (throw fault : Read α) parcel start := by
  refine ⟨.error fault, start, .of_again (Nat.le_refl _) hstart ?_ fun _ _ => rfl⟩
  intro fault' heq
  rw [← Except.error.inj heq, hfault]

end Combine

/-- The reading depends on nothing behind the place that it reaches, wherever it begins. -/
def IsLeftToRight (r : Read α) : Prop :=
  ∀ parcel start, start ≤ parcel.length → r.LeftToRight parcel start

namespace IsLeftToRight

theorem bind {r : Read α} {f : α → Read β} (h : r.IsLeftToRight)
    (hf : ∀ a, (f a).IsLeftToRight) : (r >>= f).IsLeftToRight :=
  fun parcel start hstart => (h parcel start hstart).bind fun a middle hreach =>
    hf a parcel middle hreach.inside

theorem pure (a : α) : IsLeftToRight (Pure.pure a) := fun _ _ hstart => .pure hstart a

theorem throw {fault : Fault} (h : fault.isAboutEnd = false) :
    IsLeftToRight (throw fault : Read α) := fun _ _ hstart => .throw hstart h

theorem map {r : Read α} (h : r.IsLeftToRight) (f : α → β) : (f <$> r).IsLeftToRight := by
  rw [map_eq_pure_bind]
  exact h.bind fun a => pure (f a)

/-- A reading may remember where it began. -/
theorem place {f : Cursor → Read α} (hf : ∀ c c', c.position = c'.position → f c = f c')
    (h : ∀ c, (f c).IsLeftToRight) : (place >>= f).IsLeftToRight := by
  intro parcel start hstart
  obtain ⟨result, stop, hreach⟩ := h (.over parcel start) parcel start hstart
  refine ⟨result, stop, hreach.congr fun other => ?_⟩
  rw [at_bind, at_place]
  simp only [hf (.over other start) (.over parcel start) rfl]

end IsLeftToRight

end Read

open Read

/-! ## Words -/

theorem holds_drop_iff {parcel : List UInt8} {start n : Nat} (hstart : start ≤ parcel.length) :
    holds n (parcel.drop start) = true ↔ start + n ≤ parcel.length := by
  rw [holds_iff, List.length_drop]
  omega

theorem reaches_take {parcel : List UInt8} {start n : Nat} (h : start + n ≤ parcel.length) :
    (take n).Reaches parcel start (.ok ((parcel.drop start).take n)) (start + n) := by
  refine .of_again (Nat.le_add_right ..) h (by simp) ?_
  intro other hother
  have hroom : start + n ≤ other.length := Nat.le_trans h hother.length_le
  have hholds : holds n (other.drop start) = true := (holds_drop_iff (by omega)).2 hroom
  simp [Read.at, take, Cursor.over, hholds, hother.take_drop]

theorem leftToRight_take {n : Nat} (hn : n = 1 ∨ n = 4 ∨ n = 8) : (take n).IsLeftToRight := by
  intro parcel start hstart
  by_cases hroom : start + n ≤ parcel.length
  · exact ⟨_, _, reaches_take hroom⟩
  have hholds : holds n (parcel.drop start) = false := by
    rw [← Bool.not_eq_true, holds_drop_iff hstart]
    exact hroom
  have hat : (take n).at (.over parcel start) =
      (.error (.truncated start n (parcel.length - start)), .over parcel start) := by
    simp [Read.at, take, Cursor.over, Cursor.remaining, hholds]
  refine ⟨_, start, hat, Nat.le_refl _, hstart, ?_, ?_, by simp⟩
  · intro hresult
    exact absurd rfl (hresult _ _ _)
  · rintro offset needed remaining ⟨⟩
    refine ⟨start, .field hn, by omega, by omega, ?_⟩
    intro other octets c _ hread
    obtain ⟨hlength, hrest, -⟩ := at_take_eq_ok hread
    have hlong := congrArg List.length hrest
    simp only [Cursor.over, List.length_drop, List.length_append, hlength] at hlong
    omega

theorem leftToRight_readInt32 : readInt32.IsLeftToRight := (leftToRight_take (by simp)).map _

theorem leftToRight_readInt64 : readInt64.IsLeftToRight := (leftToRight_take (by simp)).map _

theorem leftToRight_readBool : readBool.IsLeftToRight := by
  refine (leftToRight_take (by simp)).bind fun octets => ?_
  split
  · exact .pure false
  · exact .pure true
  · exact .throw rfl

/-! ## What stands behind a prefix -/

theorem announcedSize_standard {count size : Nat} (hcount : count ≤ greatestLength)
    (hsize : size = 1 ∨ size = 4) : announcedSize 64 count size = count * size := by
  have hle : count * size ≤ greatestLength * 4 := by
    apply Nat.mul_le_mul hcount
    omega
  have hpow : greatestLength * 4 ≤ Nat.pow 2 64 - 1 := by decide
  exact Nat.min_eq_left (Nat.le_trans hle hpow)

/-- The octets of an announced size are there, or reported as missing behind the prefix. -/
theorem leftToRight_room {parcel : List UInt8} {offset count size : Nat}
    (hinside : offset + 4 ≤ parcel.length) (hcount : count ≤ greatestLength)
    (hsize : size = 1 ∨ size = 4)
    (hwritten : (parcel.drop offset).take 4 = lengthOctets count) :
    LeftToRight (do
      let after ← place
      if holds (announcedSize 64 count size) after.rest then pure (some count)
      else throw (.truncated offset (announcedSize 64 count size) after.remaining) :
        Read (Option Nat)) parcel (offset + 4) := by
  rw [announcedSize_standard hcount hsize]
  have hneeded : count * size = count ∨ count * size = count * 4 := by
    rcases hsize with rfl | rfl <;> simp
  by_cases hroom : offset + 4 + count * size ≤ parcel.length
  · refine ⟨.ok (some count), offset + 4, .of_again (Nat.le_refl _) hinside (by simp) ?_⟩
    intro other hother
    have hlong := hother.length_le
    have hholds : holds (count * size) (other.drop (offset + 4)) = true :=
      (holds_drop_iff (by omega)).2 (by omega)
    rw [at_bind, at_place]
    simp [Cursor.over, hholds]
  · have hholds : holds (count * size) (parcel.drop (offset + 4)) = false := by
      rw [← Bool.not_eq_true, holds_drop_iff hinside]
      exact hroom
    refine ⟨.error (.truncated offset (count * size) (parcel.length - (offset + 4))), offset + 4,
      ?_, Nat.le_refl _, hinside, ?_, ?_, by simp⟩
    · rw [at_bind, at_place]
      simp [Cursor.over, Cursor.remaining, hholds]
    · intro hresult
      exact absurd rfl (hresult _ _ _)
    · rintro _ _ _ ⟨⟩
      refine ⟨offset + 4, .announced rfl hwritten hneeded, by omega, by omega, ?_⟩
      intro other length c hother hread
      have hlong := hother.length_le
      rw [at_bind, at_place] at hread
      by_cases hother : holds (count * size) (other.drop (offset + 4)) = true
      · exact (holds_drop_iff (by omega)).1 hother
      · simp [Cursor.over, hother] at hread

/-- A word that was read stands in the parcel. -/
theorem Read.Reaches.int32 {parcel : List UInt8} {start stop : Nat} {v : Int32}
    (h : readInt32.Reaches parcel start (.ok v) stop) :
    stop = start + 4 ∧ (parcel.drop start).take 4 = int32Octets v := by
  obtain ⟨-, octets, missing, ⟨rfl, -⟩, hrest, hposition⟩ := recognizes_readInt32.sound h.at_eq
  rw [length_int32Octets] at hposition
  refine ⟨hposition, ?_⟩
  have hdrop : parcel.drop start = int32Octets v ++ parcel.drop stop := hrest
  rw [hdrop, List.take_left' (length_int32Octets v)]

theorem leftToRight_readLength {size : Nat} (hsize : size = 1 ∨ size = 4) :
    (readLength .standard size).IsLeftToRight := by
  intro parcel start hstart
  have hbody : LeftToRight (do
      let length ← readInt32
      if length = nullLength then pure none
      else if length < 0 then throw (.invalidLength length)
      else
        let count := length.toNatClampNeg
        let needed := announcedSize 64 count size
        let after ← Parcel.place
        if holds needed after.rest then pure (some count)
        else throw (.truncated start needed after.remaining) : Read (Option Nat))
      parcel start := by
    refine (leftToRight_readInt32 parcel start hstart).bind fun length middle hreach => ?_
    obtain ⟨rfl, hoctets⟩ := hreach.int32
    by_cases hnull : length = nullLength
    · rw [if_pos hnull]
      exact .pure hreach.inside none
    by_cases hnegative : length < 0
    · rw [if_neg hnull, if_pos hnegative]
      exact .throw hreach.inside rfl
    · obtain ⟨hcount, hwritten⟩ := lengthOctets_toNatClampNeg hnegative
      rw [if_neg hnull, if_neg hnegative]
      exact leftToRight_room hreach.inside hcount hsize (hoctets.trans hwritten.symm)
  obtain ⟨result, stop, hreach⟩ := hbody
  exact ⟨result, stop, hreach.congr fun _ => rfl⟩

/-- What has been announced is there. -/
theorem room_of_at_readLength {size n : Nat} {c c' : Cursor} (hsize : size = 1 ∨ size = 4)
    (h : (readLength .standard size).at c = (.ok (some n), c')) :
    n * size ≤ c'.rest.length := by
  rw [readLength, at_bind, at_place] at h
  simp only at h
  obtain ⟨v, c₁, -, h⟩ := at_bind_eq_ok_iff.1 h
  by_cases hnull : v = nullLength
  · simp [hnull] at h
  by_cases hnegative : v < 0
  · simp [hnull, hnegative] at h
  obtain ⟨hcount, -⟩ := lengthOctets_toNatClampNeg hnegative
  simp only [hnull, hnegative, if_false, SizeCheck.standard] at h
  rw [at_bind, at_place, announcedSize_standard hcount hsize] at h
  simp only at h
  split at h
  · next hholds =>
    obtain ⟨rfl, rfl⟩ : v.toNatClampNeg = n ∧ c₁ = c' := by simpa using h
    exact (holds_iff _ _).1 hholds
  · simp at h

/-- A text that was announced is there. -/
theorem leftToRight_readText? : (readText? .standard).IsLeftToRight := by
  intro parcel start hstart
  refine (leftToRight_readLength (.inl rfl) parcel start hstart).bind ?_
  rintro (_ | length) middle hreach
  · exact .pure hreach.inside none
  have hroom : middle + length ≤ parcel.length := by
    have hrest := room_of_at_readLength (.inl rfl) hreach.at_eq
    have hinside := hreach.inside
    simp only [Cursor.over, List.length_drop, Nat.mul_one] at hrest
    omega
  refine LeftToRight.bind ⟨_, _, reaches_take hroom⟩ fun octets stop htake => ?_
  split
  · exact .pure htake.inside _
  · exact .throw htake.inside rfl

theorem leftToRight_readText : (readText .standard).IsLeftToRight := by
  refine leftToRight_readText?.bind ?_
  rintro (_ | text)
  · exact .throw rfl
  · exact .pure text

section Objects

variable {object : Read α}

theorem leftToRight_readObject? (h : object.IsLeftToRight) :
    (readObject? object).IsLeftToRight := by
  refine leftToRight_readInt32.bind fun marker => ?_
  split
  · exact h.map some
  split
  · exact .pure none
  · exact .throw rfl

theorem leftToRight_readObject (h : object.IsLeftToRight) : (readObject object).IsLeftToRight := by
  refine .place (fun c c' hposition => by simp only [hposition]) fun start => ?_
  refine (leftToRight_readObject? h).bind ?_
  rintro (_ | value)
  · exact .throw rfl
  · exact .pure value

theorem leftToRight_readItems {item : Nat → Read α} (h : ∀ index, (item index).IsLeftToRight)
    (count index : Nat) : IsLeftToRight (readItems item count index []) := by
  induction count generalizing index with
  | zero => exact .pure []
  | succ count ih =>
    rw [readItems_succ]
    exact (h index).bind fun a => (ih (index + 1)).bind fun others => .pure (a :: others)

theorem leftToRight_readInts : (readInts .standard).IsLeftToRight :=
  (leftToRight_readLength (.inr rfl)).bind fun count =>
    leftToRight_readItems (fun _ => leftToRight_readInt32) (count.getD 0) 0

theorem leftToRight_readList (h : object.IsLeftToRight) :
    (readList .standard object).IsLeftToRight := by
  refine (leftToRight_readLength (.inr rfl)).bind fun count =>
    leftToRight_readItems (fun index => ?_) (count.getD 0) 0
  refine (leftToRight_readObject? h).bind ?_
  rintro (_ | value)
  · exact .throw rfl
  · exact .pure value

end Objects

/-! ## Parcels that hold one record -/

section Record

variable [Record α] {b : List UInt8}

theorem decode_of_at_error {check : SizeCheck} {fault : Fault} {c : Cursor}
    (h : (Record.read check : Read α).at (.over b 0) = (.error fault, c)) :
    (decode check b : Except Fault α) = .error fault := by
  have hat : (Record.read check : Read α).at ⟨0, b⟩ = (.error fault, c) := h
  rw [decode, at_bind, hat]

/-- What is left behind a record is reported. -/
theorem decode_of_at_ok {check : SizeCheck} {v : α} {stop : Nat}
    (h : (Record.read check).at (.over b 0) = (.ok v, .over b stop)) (hstop : stop < b.length) :
    (decode check b : Except Fault α) = .error (.trailingData (b.length - stop)) := by
  have hat : (Record.read check).at ⟨0, b⟩ = (.ok v, .over b stop) := h
  have hrest : (b.drop stop).length = b.length - stop := List.length_drop
  rw [decode, at_bind, hat]
  simp only
  rw [at_bind, readEnd, at_bind, at_place]
  obtain ⟨octet, octets, hdrop⟩ : ∃ octet octets, b.drop stop = octet :: octets := by
    apply List.exists_cons_of_length_pos
    omega
  rw [hdrop] at hrest
  simp [Cursor.over, Cursor.remaining, hdrop, ← hrest]

/-- Where the reading of a record ends if nothing is left behind it. -/
theorem at_of_decode {check : SizeCheck} {v : α} (h : decode check b = .ok v) :
    ∃ c, (Record.read check).at (.over b 0) = (.ok v, c) ∧ c.rest = [] := by
  obtain ⟨position, hat⟩ := (decode_eq_ok_iff_at check).1 h
  exact ⟨_, hat, rfl⟩

/-- A record that was cut is reported as cut, and no octets are missed that were not cut off. -/
theorem decode_take_of_decode (hread : (Record.read .standard : Read α).IsLeftToRight) {v : α}
    (hb : decode .standard b = .ok v) {n : Nat} (hn : n < b.length) :
    ∃ place offset needed remaining,
      (decode .standard (b.take n) : Except Fault α) =
        .error (.truncated offset needed remaining) ∧
      Missing (b.take n) place needed offset ∧ place + remaining = n ∧ remaining < needed ∧
      place + needed ≤ b.length := by
  obtain ⟨c, hwhole, hrest⟩ := at_of_decode hb
  have hlength : (b.take n).length = n := List.length_take_of_le (Nat.le_of_lt hn)
  obtain ⟨result, stop, hreach⟩ := hread (b.take n) 0 (Nat.zero_le _)
  have hstop : stop ≤ n := hlength ▸ hreach.inside
  have halike := alike_take b hstop
  by_cases hcut : ∃ offset needed remaining, result = .error (.truncated offset needed remaining)
  · obtain ⟨offset, needed, remaining, rfl⟩ := hcut
    obtain ⟨place, hmissing, hend, hneeded, hother⟩ := hreach.cut rfl
    rw [hlength] at hend
    exact ⟨place, offset, needed, remaining, decode_of_at_error hreach.at_eq, hmissing, hend,
      hneeded, hother halike hwhole⟩
  · -- otherwise the whole record would end where it was cut
    have hsame := hreach.again (fun offset needed remaining heq => hcut ⟨_, _, _, heq⟩) b halike
    rw [hwhole] at hsame
    have hnil : b.drop stop = [] := (congrArg (·.2.rest) hsame).symm.trans hrest
    have hshort := List.drop_eq_nil_iff.1 hnil
    omega

/-- Octets are left exactly if those in front of them are a record. -/
theorem decode_eq_trailing_iff [Spelled α] [LawfulRecord α]
    (hread : (Record.read .standard : Read α).IsLeftToRight)
    (hempty : ∀ v : α, decode .standard [] ≠ .ok v) {n : Nat} :
    (decode .standard b : Except Fault α) = .error (.trailingData n) ↔
      0 < n ∧ ∃ v : α, decode .standard (b.take (b.length - n)) = .ok v := by
  have hrecognizes := LawfulRecord.recognizes (α := α) .standard
  constructor
  · intro hb
    obtain ⟨fault | v, stop, hreach⟩ := hread b 0 (Nat.zero_le _)
    · have hfault := decode_of_at_error hreach.at_eq
      rw [hfault] at hb
      exact absurd (congrArg Except.error (Except.error.inj hb)) (hreach.unending n)
    · obtain ⟨hv, spelled, missing, hspelled, hrest, hposition⟩ := hrecognizes.sound hreach.at_eq
      have hsplit : b = spelled ++ b.drop stop := hrest
      have hlength : stop = spelled.length := by simpa [Cursor.over] using hposition
      have hwhole : decode .standard spelled = .ok v :=
        (decode_eq_ok_iff .standard).2 ⟨hv, missing, hspelled⟩
      have hbefore : b.take stop = spelled := by
        rw [hsplit, hlength, List.take_left]
      rcases Nat.lt_or_eq_of_le hreach.inside with hlt | heq
      · have htrailing := decode_of_at_ok hreach.at_eq hlt
        rw [htrailing] at hb
        obtain rfl : b.length - stop = n := by simpa using hb
        refine ⟨by omega, v, ?_⟩
        rw [Nat.sub_sub_self hreach.inside, hbefore, hwhole]
      · rw [heq, List.take_length] at hbefore
        rw [hbefore, hwhole] at hb
        simp at hb
  · rintro ⟨hn, v, hv⟩
    have hlt : n < b.length := by
      refine Nat.lt_of_not_le fun hle => hempty v ?_
      rw [Nat.sub_eq_zero_of_le hle, List.take_zero] at hv
      exact hv
    obtain ⟨hfits, missing, hspelled⟩ := (decode_eq_ok_iff .standard).1 hv
    have hat := hrecognizes.complete hfits hspelled 0 (b.drop (b.length - n))
    rw [List.take_append_drop, List.length_take_of_le (Nat.sub_le ..), Nat.zero_add] at hat
    have htrailing := decode_of_at_ok hat (by omega)
    rw [htrailing, Nat.sub_sub_self (Nat.le_of_lt hlt)]

end Record

end DeviceStatus.Parcel
