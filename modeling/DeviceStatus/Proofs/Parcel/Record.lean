import DeviceStatus.Proofs.Parcel.Prefixed

/-!
# What the readers of records take

A type of records has limits within which a value can be written in full, since a prefix announces
at most `greatestLength`, and spellings, which are built like its written form. `LawfulRecord` says
that the reader of the type takes the spellings of the values within the limits, and that these are
variants of the written form.

What follows from it does not depend on the type: a record is read back wherever it stands
(`at_octets`), and the octets that decode to a value are its spellings (`decode_eq_ok_iff`).
-/

namespace DeviceStatus.Parcel

/-- Which values can be written in full, and how they are spelled. -/
class Spelled (α : Type) where
  /-- No text and no list in the value is longer than a prefix can announce. -/
  WithinLimits : α → Prop
  /-- The spellings of a value. -/
  spelling : α → Spelling

export Spelled (WithinLimits spelling)

/-- The reader takes the spellings of a record, which are variants of its written form. -/
class LawfulRecord (α : Type) [Record α] [Spelled α] : Prop where
  /-- The reader takes the spellings of the values within the limits. -/
  recognizes : ∀ check, (Record.read check : Read α).Recognizes WithinLimits spelling
  /-- The spellings are variants of the written form. -/
  around : ∀ a : α, (spelling a).Around (octets a)

section Record

variable {α : Type} [Record α] (check : SizeCheck)

theorem decode_eq_ok_iff_at {b : List UInt8} {v : α} :
    decode check b = .ok v ↔
      ∃ position, (Record.read check).at ⟨0, b⟩ = (.ok v, ⟨position, []⟩) := by
  rw [decode]
  constructor
  · intro h
    obtain ⟨v', c, hread, hend⟩ := Read.at_bind_eq_ok_iff.1 (Prod.ext h rfl)
    obtain ⟨_, c', hc, hpure⟩ := Read.at_bind_eq_ok_iff.1 hend
    obtain ⟨hrest, rfl⟩ := at_readEnd_eq_ok_iff.1 hc
    obtain ⟨rfl, -⟩ : v' = v ∧ _ := by simpa using hpure
    exact ⟨c'.position, by rw [hread, ← hrest]⟩
  · rintro ⟨position, hread⟩
    rw [Read.at_bind, hread]
    simp only
    rw [Read.at_bind, (at_readEnd_eq_ok_iff (u := ())).2 ⟨rfl, rfl⟩]
    rfl

variable [Spelled α] [LawfulRecord α]

/-- The place `position` octets into a parcel. -/
def Cursor.over (parcel : List UInt8) (position : Nat) : Cursor := ⟨position, parcel.drop position⟩

theorem Cursor.over_append (pre post : List UInt8) :
    Cursor.over (pre ++ post) pre.length = ⟨pre.length, post⟩ := by
  simp [Cursor.over]

theorem at_octets {v : α} (hv : WithinLimits v) (pre post : List UInt8) :
    (Record.read check).at (.over (pre ++ octets v ++ post) pre.length) =
      (.ok v, .over (pre ++ octets v ++ post) (pre.length + (octets v).length)) := by
  have hread := (LawfulRecord.recognizes check).complete hv (LawfulRecord.around v).plain
    pre.length post
  have hend := Cursor.over_append (pre ++ octets v) post
  rw [List.length_append] at hend
  rw [hend, List.append_assoc, Cursor.over_append, hread]

/-- The octets that decode to a value are its spellings. -/
theorem decode_eq_ok_iff {b : List UInt8} {v : α} :
    decode check b = .ok v ↔ WithinLimits v ∧ ∃ missing, spelling v b missing := by
  have hrecognizes := LawfulRecord.recognizes (α := α) check
  rw [decode_eq_ok_iff_at]
  constructor
  · rintro ⟨position, hread⟩
    obtain ⟨hv, spelled, missing, hspelled, hrest, -⟩ := hrecognizes.sound hread
    obtain rfl : b = spelled := by simpa using hrest
    exact ⟨hv, missing, hspelled⟩
  · rintro ⟨hv, missing, hspelled⟩
    have hread := hrecognizes.complete hv hspelled 0 []
    rw [List.append_nil] at hread
    exact ⟨_, hread⟩

theorem decode_octets {v : α} (hv : WithinLimits v) : decode check (octets v) = .ok v :=
  (decode_eq_ok_iff check).2 ⟨hv, 0, (LawfulRecord.around v).plain⟩

end Record

end DeviceStatus.Parcel
