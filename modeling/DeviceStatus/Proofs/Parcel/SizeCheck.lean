import DeviceStatus.Proofs.Parcel.Prefixed

/-!
# The size check is transparent

A length prefix is compared with what is left of the parcel before anything is read for it. The
readers without this check read on until a read fails, and they are what the check is measured
against. `Read.Checks` says that the check makes no difference but this: a reading comes to the same
end as the plain one unless it refuses a length, and then the plain one fails as well, if perhaps
with another fault and further on.

What is refused has no room in the parcel, and elements that have been read have taken at least the
room that their number announced; so the plain reader cannot come through (`isCheckOf_counted`). A
reading made of such readings is one (`Read.IsCheckOf.bind`), so the readers of records are put
together as they are written.
-/

namespace DeviceStatus.Parcel

variable {α β : Type}

/-- A reading has refused a length: it reports the octets that the prefix in front of the place
announces, which are more than are left. A field of a fixed width that is cut is reported from its
own place instead. -/
def RefusesLength (reading : Except Fault α × Cursor) : Prop :=
  ∃ offset needed, reading.1 = .error (.truncated offset needed reading.2.remaining) ∧
    reading.2.position = offset + 4 ∧ reading.2.remaining < needed

/-- What has been refused does not depend on what was to be read. -/
theorem refusesLength_error_iff {fault : Fault} {c : Cursor} :
    RefusesLength ((.error fault, c) : Except Fault α × Cursor) ↔
      RefusesLength ((.error fault, c) : Except Fault β × Cursor) := by
  simp [RefusesLength]

theorem not_refusesLength_ok (a : α) (c : Cursor) :
    ¬ RefusesLength ((.ok a, c) : Except Fault α × Cursor) := by
  simp [RefusesLength]

/-- A sequence refuses what its first part refuses. -/
theorem RefusesLength.bind {r : Read α} {c : Cursor} (h : RefusesLength (r.at c))
    (f : α → Read β) : RefusesLength (Read.at (r >>= f) c) := by
  rw [Read.at_bind]
  generalize r.at c = reading at h
  obtain ⟨fault | a, c'⟩ := reading
  · exact refusesLength_error_iff.1 h
  · exact absurd h (not_refusesLength_ok a c')

namespace Read

/-- At a place, a reading with the check comes to the same end as the plain one unless it refuses a
length. -/
structure Checks (checked plain : Read α) (c : Cursor) : Prop where
  /-- Where a length is refused, the plain reading fails. -/
  refused : RefusesLength (checked.at c) → ∃ fault c', plain.at c = (.error fault, c')
  /-- Where none is refused, there is no difference. -/
  passed : ¬ RefusesLength (checked.at c) → plain.at c = checked.at c

namespace Checks

variable {checked plain : Read α} {next next' : α → Read β} {c : Cursor}

/-- What is read with the check is what is read without it. -/
theorem at_eq_ok_iff (h : checked.Checks plain c) {a : α} {c' : Cursor} :
    checked.at c = (.ok a, c') ↔ plain.at c = (.ok a, c') := by
  constructor
  · intro hread
    rw [h.passed (hread ▸ not_refusesLength_ok a c'), hread]
  · intro hread
    by_cases hrefuses : RefusesLength (checked.at c)
    · obtain ⟨fault, c₁, hfault⟩ := h.refused hrefuses
      rw [hread] at hfault
      simp at hfault
    · rw [← h.passed hrefuses, hread]

/-- A reading that refuses no length is its own plain reading. -/
theorem refl {r : Read α} (h : ¬ RefusesLength (r.at c)) : r.Checks r c where
  refused hrefuses := absurd hrefuses h
  passed _ := rfl

/-- Readings that succeed alike. -/
theorem of_ok {a : α} {c₁ : Cursor} (hchecked : checked.at c = (.ok a, c₁))
    (hplain : plain.at c = (.ok a, c₁)) : checked.Checks plain c where
  refused hrefuses := absurd (hchecked ▸ hrefuses) (not_refusesLength_ok a c₁)
  passed _ := by rw [hchecked, hplain]

/-- A sequence refuses a length in its first part or behind it. -/
theorem bind (h : checked.Checks plain c)
    (hnext : ∀ a c₁, checked.at c = (.ok a, c₁) → (next a).Checks (next' a) c₁) :
    (checked >>= next).Checks (plain >>= next') c := by
  obtain ⟨⟨fault | a, c₁⟩, hread⟩ : ∃ reading, checked.at c = reading := ⟨_, rfl⟩
  · have hsequence : Read.at (checked >>= next) c = (.error fault, c₁) := by rw [at_bind, hread]
    constructor
    · intro hrefuses
      rw [hsequence, refusesLength_error_iff (β := α), ← hread] at hrefuses
      obtain ⟨fault', c', hfault⟩ := h.refused hrefuses
      exact ⟨fault', c', by rw [at_bind, hfault]⟩
    · intro hpasses
      rw [hsequence, refusesLength_error_iff (β := α), ← hread] at hpasses
      rw [hsequence, at_bind, h.passed hpasses, hread]
  · have hplain := h.at_eq_ok_iff.1 hread
    have hrest := hnext a c₁ hread
    constructor
    · intro hrefuses
      rw [at_bind, hread] at hrefuses
      obtain ⟨fault, c', hfault⟩ := hrest.refused hrefuses
      exact ⟨fault, c', by rw [at_bind, hplain]; exact hfault⟩
    · intro hpasses
      rw [at_bind, hread] at hpasses
      rw [at_bind, at_bind, hplain, hread]
      exact hrest.passed hpasses

end Checks

/-- Wherever it begins, a reading with the check comes to the same end as the plain one unless it
refuses a length. -/
def IsCheckOf (checked plain : Read α) : Prop := ∀ c, checked.Checks plain c

namespace IsCheckOf

variable {checked plain : Read α} {next next' : α → Read β}

theorem bind (h : checked.IsCheckOf plain) (hnext : ∀ a, (next a).IsCheckOf (next' a)) :
    (checked >>= next).IsCheckOf (plain >>= next') := fun c =>
  (h c).bind fun a c₁ _ => hnext a c₁

theorem pure (a : α) : IsCheckOf (Pure.pure a) (Pure.pure a) := fun c =>
  .refl (not_refusesLength_ok a c)

/-- The other faults refuse no length. -/
theorem throw {fault : Fault} (h : ∀ offset needed remaining,
    fault ≠ .truncated offset needed remaining) :
    IsCheckOf (throw fault : Read α) (throw fault) := by
  refine fun c => .refl ?_
  rintro ⟨offset, needed, hresult, -⟩
  exact h _ _ _ (Except.error.inj hresult)

theorem map (h : checked.IsCheckOf plain) (f : α → β) :
    (f <$> checked).IsCheckOf (f <$> plain) := by
  rw [map_eq_pure_bind, map_eq_pure_bind]
  exact h.bind fun a => pure (f a)

end IsCheckOf

end Read

open Read

/-! ## Fields of a fixed width -/

theorem isCheckOf_place : IsCheckOf place place := fun c => .refl (not_refusesLength_ok c c)

/-- A field that is cut is reported from its own place. -/
theorem isCheckOf_take (n : Nat) : IsCheckOf (take n) (take n) := by
  refine fun c => .refl ?_
  rcases Nat.lt_or_ge c.remaining n with hcut | hroom
  · rw [at_take_of_lt hcut]
    rintro ⟨offset, needed, hresult, hposition, -⟩
    obtain ⟨rfl, -⟩ : c.position = offset ∧ n = needed := by simpa using hresult
    simp at hposition
  · rw [at_take_of_le hroom]
    exact not_refusesLength_ok _ _

theorem isCheckOf_readInt32 : IsCheckOf readInt32 readInt32 := (isCheckOf_take 4).map _

theorem isCheckOf_readInt64 : IsCheckOf readInt64 readInt64 := (isCheckOf_take 8).map _

theorem isCheckOf_readBool : IsCheckOf readBool readBool := by
  refine (isCheckOf_take 1).bind fun octets => ?_
  split
  · exact .pure false
  · exact .pure true
  · exact .throw (by simp)

/-! ## What stands behind a prefix -/

variable (addressBits : Nat)

/-- The check of a length either makes no difference or refuses a number of elements for which there
is no room. -/
theorem checks_readLength_or (size : Nat) (c : Cursor) :
    (readLength (.upFront addressBits) size).Checks (readLength .none size) c ∨
      ∃ n c₁, (readLength .none size).at c = (.ok (some n), c₁) ∧ c₁.remaining < n * size ∧
        RefusesLength ((readLength (.upFront addressBits) size).at c) := by
  by_cases hrefuses : ∃ v c₁, readInt32.at c = (.ok v, c₁) ∧ v ≠ nullLength ∧ ¬ v < 0 ∧
      c₁.remaining < announcedSize addressBits v.toNatClampNeg size
  · obtain ⟨v, c₁, hword, hnull, hnegative, hroom⟩ := hrefuses
    refine .inr ⟨v.toNatClampNeg, c₁, ?_, Nat.lt_of_lt_of_le hroom (Nat.min_le_left _ _), ?_⟩
    · simp [readLength, at_bind, at_place, hword, hnull, hnegative]
    · have hholds : holds (announcedSize addressBits v.toNatClampNeg size) c₁.rest = false :=
        Bool.eq_false_iff.2 fun h => Nat.not_le_of_lt hroom ((holds_iff _ _).1 h)
      obtain ⟨-, _, _, ⟨rfl, -⟩, -, hposition⟩ := recognizes_readInt32.sound hword
      rw [length_int32Octets] at hposition
      refine ⟨c.position, announcedSize addressBits v.toNatClampNeg size, ?_⟩
      simp [readLength, at_bind, at_place, hword, hnull, hnegative, hholds, hposition, hroom]
  · refine .inl ((isCheckOf_place c).bind ?_)
    rintro _ _ ⟨⟩
    refine (isCheckOf_readInt32 c).bind fun v c₁ hword => ?_
    by_cases hnull : v = nullLength
    · rw [if_pos hnull, if_pos hnull]
      exact IsCheckOf.pure none c₁
    by_cases hnegative : v < 0
    · rw [if_neg hnull, if_neg hnull, if_pos hnegative, if_pos hnegative]
      exact IsCheckOf.throw (by simp) c₁
    have hholds : holds (announcedSize addressBits v.toNatClampNeg size) c₁.rest = true :=
      (holds_iff _ _).2 (Nat.le_of_not_lt fun h => hrefuses ⟨v, c₁, hword, hnull, hnegative, h⟩)
    rw [if_neg hnull, if_neg hnull, if_neg hnegative, if_neg hnegative]
    exact .of_ok (by rw [at_bind, at_place]; simp [hholds]) rfl

/-- What stands behind a length is read with the check as without it if it needs the room that the
length announces. -/
theorem isCheckOf_counted (size : Nat) {body body' : Option Nat → Read β}
    (hbody : ∀ count, (body count).IsCheckOf (body' count))
    (hroom : ∀ n c, c.remaining < n * size →
      ∃ fault c', (body' (some n)).at c = (.error fault, c')) :
    (readLength (.upFront addressBits) size >>= body).IsCheckOf
      (readLength .none size >>= body') := by
  intro c
  obtain hsame | ⟨n, c₁, hplain, hcut, hrefuses⟩ := checks_readLength_or addressBits size c
  · exact hsame.bind fun count c₁ _ => hbody count c₁
  refine ⟨fun _ => ?_, fun hpasses => absurd (hrefuses.bind body) hpasses⟩
  obtain ⟨fault, c', hfault⟩ := hroom n c₁ hcut
  exact ⟨fault, c', at_bind_eq_error_iff.2 (.inr ⟨_, _, hplain, hfault⟩)⟩

/-- There are no items to be read where there is no room for their least spellings. -/
theorem Read.Recognizes.fails {r : Read α} {Fits : α → Prop} {spelling : α → Spelling}
    (h : r.Recognizes Fits spelling) {size : Nat}
    (hsize : ∀ {a spelled missing}, Fits a → spelling a spelled missing → size ≤ spelled.length)
    {c : Cursor} (hroom : c.remaining < size) : ∃ fault c', r.at c = (.error fault, c') := by
  obtain ⟨⟨fault | a, c'⟩, hread⟩ : ∃ reading, r.at c = reading := ⟨_, rfl⟩
  · exact ⟨fault, c', hread⟩
  obtain ⟨hfits, spelled, missing, hspelled, hrest, -⟩ := h.sound hread
  have hlong : c.remaining = spelled.length + c'.remaining := by
    rw [Cursor.remaining, hrest, List.length_append, Cursor.remaining]
  have hleast := hsize hfits hspelled
  omega

theorem isCheckOf_readText? :
    (readText? (.upFront addressBits)).IsCheckOf (readText? .none) := by
  refine isCheckOf_counted addressBits 1 ?_ ?_
  · rintro (_ | length)
    · exact .pure none
    · refine (isCheckOf_take length).bind fun octets => ?_
      split
      · exact .pure _
      · exact .throw (by simp)
  · intro n c hroom
    rw [Nat.mul_one] at hroom
    exact ⟨_, c, at_bind_eq_error_iff.2 (.inl (at_take_of_lt hroom))⟩

theorem isCheckOf_readText :
    (readText (.upFront addressBits)).IsCheckOf (readText .none) := by
  refine (isCheckOf_readText? addressBits).bind ?_
  rintro (_ | text)
  · exact .throw (by simp)
  · exact .pure text

section Objects

variable {object object' : Read α}

theorem isCheckOf_readObject? (h : object.IsCheckOf object') :
    (readObject? object).IsCheckOf (readObject? object') := by
  refine isCheckOf_readInt32.bind fun marker => ?_
  split
  · exact h.map some
  split
  · exact .pure none
  · exact .throw (by simp)

theorem isCheckOf_readObject (h : object.IsCheckOf object') :
    (readObject object).IsCheckOf (readObject object') := by
  refine isCheckOf_place.bind fun start => (isCheckOf_readObject? h).bind ?_
  rintro (_ | value)
  · exact .throw (by simp)
  · exact .pure value

theorem isCheckOf_readItems {item item' : Nat → Read α}
    (h : ∀ index, (item index).IsCheckOf (item' index)) (count index : Nat) :
    IsCheckOf (readItems item count index []) (readItems item' count index []) := by
  induction count generalizing index with
  | zero => exact .pure []
  | succ count ih =>
    rw [readItems_succ, readItems_succ]
    exact (h index).bind fun a => (ih (index + 1)).bind fun others => .pure (a :: others)

/-- Lists of elements that need their announced room. -/
theorem isCheckOf_list {item item' : Nat → Read α} {Fits : α → Prop} {spelling : α → Spelling}
    {size : Nat} (h : ∀ index, (item index).IsCheckOf (item' index))
    (hrecognizes : ∀ index, (item' index).Recognizes Fits spelling)
    (hsize : ∀ {a spelled missing}, spelling a spelled missing → size ≤ spelled.length) :
    (do let count ← readLength (.upFront addressBits) size; readMany (count.getD 0) item).IsCheckOf
      (do let count ← readLength .none size; readMany (count.getD 0) item') := by
  refine isCheckOf_counted addressBits size ?_ ?_
  · exact fun count => isCheckOf_readItems h (count.getD 0) 0
  · intro n c hroom
    refine (recognizes_readItems hrecognizes n 0).fails ?_ hroom
    rintro values spelled missing ⟨rfl, -⟩ hspelled
    exact Spelling.length_sequence hsize hspelled

theorem isCheckOf_readInts :
    (readInts (.upFront addressBits)).IsCheckOf (readInts .none) := by
  refine isCheckOf_list addressBits (fun _ => isCheckOf_readInt32)
    (fun _ => recognizes_readInt32) ?_
  rintro v _ _ ⟨rfl, -⟩
  exact Nat.le_of_eq (length_int32Octets v).symm

theorem isCheckOf_readList {Fits : α → Prop} {spelling : α → Spelling}
    (h : object.IsCheckOf object') (hrecognizes : object'.Recognizes Fits spelling) :
    (readList (.upFront addressBits) object).IsCheckOf (readList .none object') := by
  refine isCheckOf_list addressBits (fun index => ?_) (fun index =>
    (recognizes_readObject? hrecognizes).required (fun _ => rfl) rfl) ?_
  · refine (isCheckOf_readObject? h).bind ?_
    rintro (_ | value)
    · exact .throw (by simp)
    · exact .pure value
  · rintro a _ _ ⟨_, _, s, n, ⟨rfl, -⟩, -, rfl, -⟩
    simp

end Objects

end DeviceStatus.Parcel
