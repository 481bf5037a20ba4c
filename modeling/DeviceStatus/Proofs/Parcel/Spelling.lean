import DeviceStatus.Parcel.Writer
import DeviceStatus.Proofs.Words

/-!
# Spellings

A value has one written form, but a reader takes a little more: an empty list may also be written
as a missing one. A `Spelling` says which octets are taken for a value, and counts in how many
places an empty list is written as missing. The spelling of a field that holds no list is its
written form alone; that of a record is put together from its fields in the order of writing.

`Spelling.Around` is what all spellings have in common: without missing lists they are the written
form, and every spelling has the length of the written form, since both ways to write an empty list
are four octets.
-/

namespace DeviceStatus.Parcel

variable {α : Type}

/-- Which octets spell a value, with how many of its empty lists written as missing. -/
def Spelling := List UInt8 → Nat → Prop

namespace Spelling

/-- These octets alone. -/
def exactly (octets : List UInt8) : Spelling := fun spelled missing =>
  spelled = octets ∧ missing = 0

/-- One field behind another. -/
instance : Append Spelling where
  append p q := fun spelled missing => ∃ first firstMissing second secondMissing,
    p first firstMissing ∧ q second secondMissing ∧
      spelled = first ++ second ∧ missing = firstMissing + secondMissing

/-- The number of elements of a list: a number, or for an empty list the mark of a missing one. -/
inductive Count : Nat → Spelling
  /-- The number. -/
  | plain (count : Nat) : Count count (lengthOctets count) 0
  /-- The mark of a missing list. -/
  | missing : Count 0 (int32Octets nullLength) 1

/-- An object is its marker and the record. -/
def object (p : Spelling) : Spelling := exactly (int32Octets 1) ++ p

/-- The elements of a list, one behind another. -/
def sequence (element : α → Spelling) : List α → Spelling
  | [] => exactly []
  | a :: as => element a ++ sequence element as

/-- A list of objects. -/
def list (element : α → Spelling) (values : List α) : Spelling :=
  Count values.length ++ sequence (fun a => (element a).object) values

/-- A list of signed 32-bit words. -/
def ints (values : List Int32) : Spelling :=
  Count values.length ++ sequence (fun v => exactly (int32Octets v)) values

theorem append_assoc (p q r : Spelling) : p ++ q ++ r = p ++ (q ++ r) := by
  funext spelled missing
  apply propext
  constructor
  · rintro ⟨_, _, o₃, n₃, ⟨o₁, n₁, o₂, n₂, h₁, h₂, rfl, rfl⟩, h₃, rfl, rfl⟩
    exact ⟨o₁, n₁, _, _, h₁, ⟨o₂, n₂, o₃, n₃, h₂, h₃, rfl, rfl⟩, List.append_assoc .., by omega⟩
  · rintro ⟨o₁, n₁, _, _, h₁, ⟨o₂, n₂, o₃, n₃, h₂, h₃, rfl, rfl⟩, rfl, rfl⟩
    exact ⟨_, _, o₃, n₃, ⟨o₁, n₁, o₂, n₂, h₁, h₂, rfl, rfl⟩, h₃, (List.append_assoc ..).symm,
      by omega⟩

@[simp] theorem append_nil (p : Spelling) : p ++ exactly [] = p := by
  funext spelled missing
  apply propext
  constructor
  · rintro ⟨o, n, _, _, h, ⟨rfl, rfl⟩, rfl, rfl⟩
    simpa using h
  · intro h
    exact ⟨spelled, missing, [], 0, h, ⟨rfl, rfl⟩, by simp, rfl⟩

/-- The octets are the written form that the spellings are variants of. -/
structure Around (p : Spelling) (octets : List UInt8) : Prop where
  /-- Without missing lists there is only the written form. -/
  plain : p octets 0
  /-- All spellings are as long as the written form. -/
  length : ∀ {spelled missing}, p spelled missing → spelled.length = octets.length
  /-- Only the written form has no missing lists. -/
  eq_iff : ∀ {spelled missing}, p spelled missing → (spelled = octets ↔ missing = 0)

theorem around_exactly (octets : List UInt8) : (exactly octets).Around octets where
  plain := ⟨rfl, rfl⟩
  length := fun h => by rw [h.1]
  eq_iff := fun h => ⟨fun _ => h.2, fun _ => h.1⟩

theorem Around.append {p q : Spelling} {o₁ o₂ : List UInt8} (hp : p.Around o₁) (hq : q.Around o₂) :
    (p ++ q).Around (o₁ ++ o₂) where
  plain := ⟨o₁, 0, o₂, 0, hp.plain, hq.plain, rfl, rfl⟩
  length := by
    rintro _ _ ⟨s₁, n₁, s₂, n₂, h₁, h₂, rfl, rfl⟩
    rw [List.length_append, List.length_append, hp.length h₁, hq.length h₂]
  eq_iff := by
    rintro _ _ ⟨s₁, n₁, s₂, n₂, h₁, h₂, rfl, rfl⟩
    have hsplit : s₁ ++ s₂ = o₁ ++ o₂ ↔ s₁ = o₁ ∧ s₂ = o₂ :=
      ⟨fun h => List.append_inj h (hp.length h₁), fun h => by rw [h.1, h.2]⟩
    rw [hsplit, hp.eq_iff h₁, hq.eq_iff h₂]
    omega

theorem around_count (count : Nat) : (Count count).Around (lengthOctets count) where
  plain := .plain count
  length := by
    rintro _ _ (_ | _) <;> simp [lengthOctets]
  eq_iff := by
    rintro _ _ (_ | _)
    · simp
    · have hne : int32Octets nullLength ≠ lengthOctets 0 := by decide
      simp [hne]

theorem Around.object {p : Spelling} {octets : List UInt8} (h : p.Around octets) :
    p.object.Around (int32Octets 1 ++ octets) :=
  (around_exactly _).append h

theorem around_sequence {element : α → Spelling} {octets : α → List UInt8}
    (h : ∀ a, (element a).Around (octets a)) (values : List α) :
    (sequence element values).Around (values.flatMap octets) := by
  induction values with
  | nil => exact around_exactly []
  | cons a as ih => exact (h a).append ih

theorem around_list {element : α → Spelling} {octets : α → List UInt8}
    (h : ∀ a, (element a).Around (octets a)) (values : List α) :
    (list element values).Around
      (lengthOctets values.length ++ values.flatMap fun a => int32Octets 1 ++ octets a) :=
  (around_count _).append (around_sequence (fun a => (h a).object) values)

theorem around_ints (values : List Int32) : (ints values).Around (intsOctets values) :=
  (around_count _).append (around_sequence (fun _ => around_exactly _) values)

/-- A list is as long as its elements together. -/
theorem length_sequence {element : α → Spelling} {size : Nat}
    (h : ∀ {a spelled missing}, element a spelled missing → size ≤ spelled.length)
    {values : List α} {spelled : List UInt8} {missing : Nat}
    (hspelled : sequence element values spelled missing) :
    values.length * size ≤ spelled.length := by
  induction values generalizing spelled missing with
  | nil => simp
  | cons a as ih =>
    obtain ⟨s₁, n₁, s₂, n₂, hhead, htail, rfl, rfl⟩ := hspelled
    have hfirst := h hhead
    have hrest := ih htail
    rw [List.length_cons, List.length_append, Nat.succ_mul]
    omega

end Spelling

end DeviceStatus.Parcel
