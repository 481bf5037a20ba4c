import DeviceStatus.Proofs.Parcel.Spelling
import DeviceStatus.Proofs.Text.Utf8

/-!
# What readers take

A reader recognizes values with a property and their spellings if it takes exactly the spellings of
such values, wherever they stand and whatever follows, and stops right behind them. Readers that
recognize something compose: a record is read field by field, and each further field narrows down
the values that are still possible.

Fields of a fixed width look no further than they read, so they are recognized on their own.
-/

namespace DeviceStatus.Parcel

variable {α β : Type}

namespace Read

@[simp] theorem at_pure (a : α) (c : Cursor) : Read.at (pure a) c = (.ok a, c) := rfl

@[simp] theorem at_throw (fault : Fault) (c : Cursor) :
    Read.at (throw fault : Read α) c = (.error fault, c) := rfl

/-- A sequence goes on only after success. -/
theorem at_bind (r : Read α) (f : α → Read β) (c : Cursor) :
    Read.at (r >>= f) c =
      match r.at c with
      | (.ok a, c') => (f a).at c'
      | (.error fault, c') => (.error fault, c') := by
  show (match r c with
    | (e, c') => ExceptT.bindCont f e c') = _
  unfold Read.at
  obtain ⟨_ | a, c'⟩ := r c <;> rfl

theorem at_bind_eq_ok_iff {r : Read α} {f : α → Read β} {c c' : Cursor} {b : β} :
    Read.at (r >>= f) c = (.ok b, c') ↔
      ∃ a c₁, r.at c = (.ok a, c₁) ∧ (f a).at c₁ = (.ok b, c') := by
  rw [at_bind]
  obtain ⟨_ | a, c₁⟩ := r.at c
  · simp
  · constructor
    · intro h
      exact ⟨a, c₁, rfl, h⟩
    · rintro ⟨_, _, ⟨⟩, h⟩
      exact h

theorem at_bind_eq_error_iff {r : Read α} {f : α → Read β} {c c' : Cursor} {fault : Fault} :
    Read.at (r >>= f) c = (.error fault, c') ↔
      r.at c = (.error fault, c') ∨
        ∃ a c₁, r.at c = (.ok a, c₁) ∧ (f a).at c₁ = (.error fault, c') := by
  rw [at_bind]
  obtain ⟨_ | a, c₁⟩ := r.at c
  · simp
  · constructor
    · intro h
      exact .inr ⟨a, c₁, rfl, h⟩
    · rintro (h | ⟨_, _, ⟨⟩, h⟩)
      · simp at h
      · exact h

theorem at_map (r : Read α) (f : α → β) (c : Cursor) :
    Read.at (f <$> r) c = ((r.at c).1.map f, (r.at c).2) := by
  rw [map_eq_pure_bind, at_bind]
  obtain ⟨_ | a, c'⟩ := r.at c <;> rfl

/-- The reader takes exactly the spellings of the values with a property. -/
structure Recognizes (r : Read α) (Fits : α → Prop) (spelling : α → Spelling) : Prop where
  /-- Every spelling is read, whatever follows it. -/
  complete : ∀ {a spelled missing}, Fits a → spelling a spelled missing → ∀ position rest,
    r.at ⟨position, spelled ++ rest⟩ = (.ok a, ⟨position + spelled.length, rest⟩)
  /-- Only a spelling is read, and nothing behind it. -/
  sound : ∀ {a c c'}, r.at c = (.ok a, c') → Fits a ∧ ∃ spelled missing,
    spelling a spelled missing ∧ c.rest = spelled ++ c'.rest ∧
      c'.position = c.position + spelled.length

namespace Recognizes

variable {r : Read α} {Fits : α → Prop} {spelling : α → Spelling}

theorem congr {Fits' : α → Prop} {spelling' : α → Spelling} (h : r.Recognizes Fits spelling)
    (hfits : ∀ a, Fits' a ↔ Fits a) (hspelling : ∀ a, Fits a → spelling' a = spelling a) :
    r.Recognizes Fits' spelling' where
  complete := fun {a _ _} ha hspelled =>
    h.complete ((hfits a).1 ha) (hspelling a ((hfits a).1 ha) ▸ hspelled)
  sound := fun {a _ _} hread => by
    obtain ⟨ha, hspelled⟩ := h.sound hread
    rw [← hspelling a ha] at hspelled
    exact ⟨(hfits a).2 ha, hspelled⟩

theorem pure (a : α) : Read.Recognizes (pure a) (· = a) fun _ => .exactly [] where
  complete := by
    rintro _ _ _ rfl ⟨rfl, -⟩ position rest
    rfl
  sound := by
    rintro _ _ _ ⟨⟩
    exact ⟨rfl, [], 0, ⟨rfl, rfl⟩, rfl, rfl⟩

/-- The end of a record: what is known of its fields determines it. -/
theorem done {Known : α → Prop} {a : α} (h : ∀ b, Known b ↔ b = a) :
    Read.Recognizes (Pure.pure a) (fun b => Known b ∧ True) fun _ => .exactly [] :=
  (pure a).congr (fun b => by rw [and_true, h b]) fun _ _ => rfl

/-- A field of a record, and what comes behind it once the field is known. -/
theorem field {f : α → Read β} {Known Others : β → Prop} {others : β → Spelling} (part : β → α)
    (h : r.Recognizes Fits spelling)
    (hothers : ∀ a, (f a).Recognizes (fun b => (Known b ∧ part b = a) ∧ Others b) others) :
    (r >>= f).Recognizes (fun b => Known b ∧ Fits (part b) ∧ Others b)
      (fun b => spelling (part b) ++ others b) where
  complete := by
    rintro b _ _ ⟨hknown, hfits, hother⟩ ⟨s₁, n₁, s₂, n₂, h₁, h₂, rfl, rfl⟩ position rest
    rw [at_bind, List.append_assoc, h.complete hfits h₁]
    simp only
    rw [(hothers (part b)).complete ⟨⟨hknown, rfl⟩, hother⟩ h₂, List.length_append, Nat.add_assoc]
  sound := by
    intro b c c' hread
    obtain ⟨a, c₁, h₁, h₂⟩ := at_bind_eq_ok_iff.1 hread
    obtain ⟨hfits, s₁, n₁, hs₁, hrest₁, hposition₁⟩ := h.sound h₁
    obtain ⟨⟨⟨hknown, rfl⟩, hother⟩, s₂, n₂, hs₂, hrest₂, hposition₂⟩ := (hothers a).sound h₂
    refine ⟨⟨hknown, hfits, hother⟩, s₁ ++ s₂, n₁ + n₂,
      ⟨s₁, n₁, s₂, n₂, hs₁, hs₂, rfl, rfl⟩, ?_, ?_⟩
    · rw [hrest₁, hrest₂, List.append_assoc]
    · rw [hposition₂, hposition₁, List.length_append, Nat.add_assoc]

/-- A record is read field by field, and nothing is known of it at first. -/
theorem record {Fits' : α → Prop} {spelling' : α → Spelling}
    (h : r.Recognizes (fun a => True ∧ Fits a) spelling) (hfits : ∀ a, Fits' a ↔ Fits a)
    (hspelling : ∀ a, spelling' a = spelling a) : r.Recognizes Fits' spelling' :=
  h.congr (fun a => by rw [hfits a, true_and]) fun a _ => hspelling a

/-- A value that must be present. -/
theorem required {r : Read (Option α)} {Fits : Option α → Prop} {spelling : Option α → Spelling}
    (h : r.Recognizes Fits spelling) {f : Option α → Read α} {fault : Fault}
    (hsome : ∀ a, f (some a) = Pure.pure a) (hnone : f none = throw fault) :
    (r >>= f).Recognizes (fun a => Fits (some a)) fun a => spelling (some a) where
  complete := by
    intro a spelled missing hfits hspelled position rest
    rw [at_bind, h.complete hfits hspelled]
    simp only [hsome, at_pure]
  sound := by
    intro a c c' hread
    obtain ⟨_ | a', c₁, h₁, h₂⟩ := at_bind_eq_ok_iff.1 hread
    · simp [hnone] at h₂
    · simp only [hsome, at_pure, Prod.mk.injEq, Except.ok.injEq] at h₂
      obtain ⟨rfl, rfl⟩ := h₂
      exact h.sound h₁

end Recognizes

end Read

@[simp] theorem at_place (c : Cursor) : Read.at place c = (.ok c, c) := rfl

theorem Read.Recognizes.place {f : Cursor → Read α} {Fits : α → Prop} {spelling : α → Spelling}
    (h : ∀ c, (f c).Recognizes Fits spelling) : (place >>= f).Recognizes Fits spelling where
  complete := fun hfits hspelled position rest => by
    rw [at_bind, at_place]
    exact (h _).complete hfits hspelled position rest
  sound := fun {a c c'} hread => by
    rw [at_bind, at_place] at hread
    exact (h c).sound hread

theorem at_readEnd_eq_ok_iff {c c' : Cursor} {u : Unit} :
    readEnd.at c = (.ok u, c') ↔ c.rest = [] ∧ c' = c := by
  obtain ⟨position, _ | ⟨octet, rest⟩⟩ := c
  · simp [readEnd, Read.at_bind, eq_comm]
  · simp [readEnd, Read.at_bind]

/-! ## Words -/

theorem at_take_append (octets rest : List UInt8) (position : Nat) :
    (take octets.length).at ⟨position, octets ++ rest⟩ =
      (.ok octets, ⟨position + octets.length, rest⟩) := by
  have hholds : holds octets.length (octets ++ rest) = true := by simp [holds_iff]
  simp [Read.at, take, hholds]

theorem at_take_eq_ok {n : Nat} {octets : List UInt8} {c c' : Cursor}
    (h : (take n).at c = (.ok octets, c')) :
    octets.length = n ∧ c.rest = octets ++ c'.rest ∧ c'.position = c.position + n := by
  unfold Read.at take at h
  split at h
  · next hholds =>
    obtain ⟨rfl, rfl⟩ : c.rest.take n = octets ∧ _ = c' := by simpa using h
    have hn := (holds_iff n c.rest).1 hholds
    exact ⟨by simp [hn], by simp, rfl⟩
  · simp at h

theorem at_take_of_le {n : Nat} {c : Cursor} (h : n ≤ c.remaining) :
    (take n).at c = (.ok (c.rest.take n), ⟨c.position + n, c.rest.drop n⟩) := by
  have hholds : holds n c.rest = true := (holds_iff n c.rest).2 h
  simp [Read.at, take, hholds]

theorem at_take_of_lt {n : Nat} {c : Cursor} (h : c.remaining < n) :
    (take n).at c = (.error (.truncated c.position n c.remaining), c) := by
  have hholds : ¬ holds n c.rest = true := fun hroom =>
    Nat.not_le_of_lt h ((holds_iff n c.rest).1 hroom)
  simp [Read.at, take, hholds]

/-- A field of a fixed width has one spelling. -/
theorem recognizes_word {width : Nat} {write : α → List UInt8} {read : List UInt8 → α}
    (hwidth : ∀ a, (write a).length = width) (hread : ∀ a, read (write a) = a)
    (hwrite : ∀ octets, octets.length = width → write (read octets) = octets) :
    (read <$> take width).Recognizes (fun _ => True) fun a => .exactly (write a) where
  complete := by
    rintro a _ _ - ⟨rfl, -⟩ position rest
    have htake := at_take_append (write a) rest position
    rw [hwidth] at htake
    rw [Read.at_map, htake]
    simp [Except.map, hread, hwidth]
  sound := by
    intro a c c' h
    rw [map_eq_pure_bind] at h
    obtain ⟨octets, c₁, h₁, h₂⟩ := Read.at_bind_eq_ok_iff.1 h
    obtain ⟨rfl, rfl⟩ : read octets = a ∧ c₁ = c' := by simpa using h₂
    obtain ⟨hlength, hrest, hposition⟩ := at_take_eq_ok h₁
    rw [← hwrite octets hlength] at hrest
    exact ⟨trivial, _, 0, ⟨rfl, rfl⟩, hrest, by rw [hposition, hwidth]⟩

theorem recognizes_readInt32 :
    readInt32.Recognizes (fun _ => True) fun v => .exactly (int32Octets v) :=
  recognizes_word length_int32Octets int32OfOctets_int32Octets fun _ => int32Octets_int32OfOctets

theorem recognizes_readInt64 :
    readInt64.Recognizes (fun _ => True) fun v => .exactly (int64Octets v) :=
  recognizes_word length_int64Octets int64OfOctets_int64Octets fun _ => int64Octets_int64OfOctets

theorem recognizes_readBool :
    readBool.Recognizes (fun _ => True) fun b => .exactly (boolOctets b) where
  complete := by
    rintro b _ _ - ⟨rfl, -⟩ position rest
    have htake : (take 1).at ⟨position, boolOctets b ++ rest⟩ = (.ok (boolOctets b), _) :=
      at_take_append (boolOctets b) rest position
    rw [readBool, Read.at_bind, htake]
    cases b <;> rfl
  sound := by
    intro b c c' h
    obtain ⟨octets, c₁, h₁, h₂⟩ := Read.at_bind_eq_ok_iff.1 h
    obtain ⟨-, hrest, hposition⟩ := at_take_eq_ok h₁
    refine ⟨trivial, boolOctets b, 0, ⟨rfl, rfl⟩, ?_⟩
    split at h₂
    · obtain ⟨rfl, rfl⟩ : false = b ∧ c₁ = c' := by simpa using h₂
      exact ⟨hrest, hposition⟩
    · obtain ⟨rfl, rfl⟩ : true = b ∧ c₁ = c' := by simpa using h₂
      exact ⟨hrest, hposition⟩
    · simp at h₂

end DeviceStatus.Parcel
