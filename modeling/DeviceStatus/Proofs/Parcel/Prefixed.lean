import DeviceStatus.Proofs.Parcel.Reader

/-!
# What stands behind a prefix

Texts and lists stand behind their length, objects behind the marker that says whether they are
present. A length is recognized together with what it announces: the reader compares it with what
is left of the parcel, so it accepts the length only if there is room for what it announces
(`recognizes_counted`). The spellings of every text and list have that room, whatever `SizeCheck`
the reader makes.
-/

namespace DeviceStatus.Parcel

variable {α β : Type} (check : SizeCheck)

/-- The octets of a text can be announced. -/
def FitsText (text : String) : Prop := (Utf8.encode text).length ≤ greatestLength

/-- The elements of a list can be announced. -/
def FitsList (values : List α) : Prop := values.length ≤ greatestLength

instance (text : String) : Decidable (FitsText text) := Nat.decLe ..

instance (values : List α) : Decidable (FitsList values) := Nat.decLe ..

/-! ## Lengths -/

theorem lengthOctets_of_le {length : Nat} (h : length ≤ greatestLength) :
    lengthOctets length = int32Octets (Int32.ofNat length) := by
  rw [lengthOctets, Nat.min_eq_left h]

/-- A length within the limit is not negative as a word. -/
theorem not_lt_zero_ofNat {length : Nat} (h : length ≤ greatestLength) :
    ¬ Int32.ofNat length < 0 := by
  have hlt : length < 2 ^ 31 := by
    unfold greatestLength at h
    omega
  rw [Int32.lt_iff_toInt_lt, Int32.toInt_ofNat_of_lt hlt, Int32.toInt_zero]
  omega

/-- A word that is not negative is a length within the limit. -/
theorem lengthOctets_toNatClampNeg {v : Int32} (h : ¬ v < 0) :
    v.toNatClampNeg ≤ greatestLength ∧ lengthOctets v.toNatClampNeg = int32Octets v := by
  have hle : v.toNatClampNeg ≤ greatestLength := by
    have hlt := v.toNatClampNeg_lt
    unfold greatestLength
    omega
  refine ⟨hle, ?_⟩
  rw [lengthOctets_of_le hle, Int32.ofNat_toNatClampNeg v (Int32.not_lt.1 h)]

theorem at_readLength_missing (size position : Nat) (rest : List UInt8) :
    (readLength check size).at ⟨position, int32Octets nullLength ++ rest⟩ =
      (.ok none, ⟨position + 4, rest⟩) := by
  have hword := recognizes_readInt32.complete (a := nullLength) trivial ⟨rfl, rfl⟩ position rest
  rw [readLength, Read.at_bind, at_place]
  simp only
  rw [Read.at_bind, hword]
  simp

theorem at_readLength_plain {length size : Nat} {rest : List UInt8} (position : Nat)
    (hlength : length ≤ greatestLength) (hroom : length * size ≤ rest.length) :
    (readLength check size).at ⟨position, lengthOctets length ++ rest⟩ =
      (.ok (some length), ⟨position + 4, rest⟩) := by
  have hword := recognizes_readInt32.complete (a := Int32.ofNat length) trivial ⟨rfl, rfl⟩
    position rest
  have hnegative := not_lt_zero_ofNat hlength
  have hnull : Int32.ofNat length ≠ nullLength := by
    intro h
    rw [h] at hnegative
    exact hnegative (by decide)
  have hcount : (Int32.ofNat length).toNatClampNeg = length := by
    apply Int32.toNatClampNeg_ofNat_of_lt
    unfold greatestLength at hlength
    omega
  rw [lengthOctets_of_le hlength, readLength, Read.at_bind, at_place]
  simp only
  rw [Read.at_bind, hword]
  simp only [hnull, hnegative, if_false, hcount, length_int32Octets]
  cases check with
  | none => rfl
  | upFront addressBits =>
    have hholds : holds (announcedSize addressBits length size) rest = true :=
      (holds_iff _ _).2 (Nat.le_trans (Nat.min_le_left _ _) hroom)
    simp [Read.at_bind, hholds]

/-- A length that is read is a number within the limit or the mark of a missing value. -/
theorem at_readLength_eq_ok {size : Nat} {length : Option Nat} {c c' : Cursor}
    (h : (readLength check size).at c = (.ok length, c')) :
    c'.position = c.position + 4 ∧
      ((length = none ∧ c.rest = int32Octets nullLength ++ c'.rest) ∨
        ∃ n, length = some n ∧ n ≤ greatestLength ∧ c.rest = lengthOctets n ++ c'.rest) := by
  rw [readLength, Read.at_bind, at_place] at h
  simp only at h
  obtain ⟨v, c₁, hv, h⟩ := Read.at_bind_eq_ok_iff.1 h
  obtain ⟨-, _, _, ⟨rfl, -⟩, hrest, hposition⟩ := recognizes_readInt32.sound hv
  rw [length_int32Octets] at hposition
  by_cases hnull : v = nullLength
  · obtain ⟨rfl, rfl⟩ : none = length ∧ c₁ = c' := by simpa [hnull] using h
    exact ⟨hposition, .inl ⟨rfl, by rw [hrest, hnull]⟩⟩
  by_cases hnegative : v < 0
  · simp [hnull, hnegative] at h
  obtain ⟨hle, hv⟩ := lengthOctets_toNatClampNeg hnegative
  simp only [hnull, hnegative, if_false] at h
  -- what the check compares does not matter once it has succeeded
  obtain ⟨rfl, rfl⟩ : some v.toNatClampNeg = length ∧ c₁ = c' := by
    cases check with
    | none => simpa using h
    | upFront addressBits =>
      rw [Read.at_bind, at_place] at h
      simp only at h
      split at h
      · simpa using h
      · simp at h
  exact ⟨hposition, .inr ⟨_, rfl, hle, by rw [hv, hrest]⟩⟩

/-- A length of a list and the list, which needs the room that the length announces. -/
theorem recognizes_counted (size : Nat) {body : Nat → Read β} {len : β → Nat} {Fits : β → Prop}
    {spelling : β → Spelling}
    (hbody : ∀ n, (body n).Recognizes (fun b => len b = n ∧ Fits b) spelling)
    (hroom : ∀ {b spelled missing}, spelling b spelled missing → len b * size ≤ spelled.length) :
    (do let count ← readLength check size; body (count.getD 0)).Recognizes
      (fun b => len b ≤ greatestLength ∧ Fits b)
      (fun b => Spelling.Count (len b) ++ spelling b) where
  complete := by
    rintro b _ _ ⟨hlen, hfits⟩ ⟨s₁, n₁, s₂, n₂, hcount, hspelled, rfl, rfl⟩ position rest
    have hrest := fun position => (hbody (len b)).complete ⟨rfl, hfits⟩ hspelled position rest
    have hprefix : ∃ count : Option Nat, count.getD 0 = len b ∧
        (readLength check size).at ⟨position, s₁ ++ (s₂ ++ rest)⟩ =
          (.ok count, ⟨position + s₁.length, s₂ ++ rest⟩) := by
      generalize hn : len b = n at hcount
      cases hcount with
      | plain =>
        refine ⟨some n, rfl, ?_⟩
        have hspace : n * size ≤ (s₂ ++ rest).length := by
          rw [← hn, List.length_append]
          exact Nat.le_trans (hroom hspelled) (Nat.le_add_right ..)
        rw [at_readLength_plain check position (hn ▸ hlen) hspace]
        simp [lengthOctets]
      | missing =>
        refine ⟨none, rfl, ?_⟩
        rw [at_readLength_missing, length_int32Octets]
    obtain ⟨count, hcount, hread⟩ := hprefix
    rw [Read.at_bind, List.append_assoc, hread]
    simp only [hcount]
    rw [hrest, List.length_append, Nat.add_assoc]
  sound := by
    intro b c c' h
    obtain ⟨count, c₁, h₁, h₂⟩ := Read.at_bind_eq_ok_iff.1 h
    obtain ⟨hposition₁, hcount⟩ := at_readLength_eq_ok check h₁
    obtain ⟨⟨hlen, hfits⟩, s₂, n₂, hspelled, hrest, hposition⟩ := (hbody _).sound h₂
    obtain ⟨rfl, hmissing⟩ | ⟨n, rfl, hn, hplain⟩ := hcount
    · refine ⟨⟨by simp [hlen], hfits⟩, _, _,
        ⟨int32Octets nullLength, 1, s₂, n₂, ?_, hspelled, rfl, rfl⟩,
        by rw [hmissing, hrest, List.append_assoc], ?_⟩
      · rw [hlen]
        exact .missing
      · rw [hposition, hposition₁, List.length_append, length_int32Octets, Nat.add_assoc]
    · refine ⟨⟨by simpa [hlen] using hn, hfits⟩, _, _,
        ⟨lengthOctets n, 0, s₂, n₂, ?_, hspelled, rfl, rfl⟩,
        by rw [hplain, hrest, List.append_assoc], ?_⟩
      · rw [hlen]
        exact .plain n
      · rw [hposition, hposition₁, List.length_append, lengthOctets, length_int32Octets,
          Nat.add_assoc]

/-! ## Texts -/

theorem recognizes_readText? :
    (readText? check).Recognizes (fun text? => ∀ text ∈ text?, FitsText text)
      fun text? => .exactly (optionalTextOctets text?) where
  complete := by
    rintro text? _ _ hfits ⟨rfl, -⟩ position rest
    rw [readText?, Read.at_bind]
    cases text? with
    | none => rw [optionalTextOctets, at_readLength_missing, length_int32Octets]; rfl
    | some text =>
      have hroom : (Utf8.encode text).length * 1 ≤ (Utf8.encode text ++ rest).length := by simp
      rw [optionalTextOctets, textOctets, List.append_assoc,
        at_readLength_plain check position (hfits text rfl) hroom]
      simp only
      rw [Read.at_bind, at_take_append]
      simp [Utf8.decode_encode, lengthOctets, Nat.add_assoc]
  sound := by
    intro text? c c' h
    obtain ⟨length, c₁, h₁, h₂⟩ := Read.at_bind_eq_ok_iff.1 h
    obtain ⟨hposition₁, ⟨rfl, hmissing⟩ | ⟨n, rfl, hn, hplain⟩⟩ := at_readLength_eq_ok check h₁
    · obtain ⟨rfl, rfl⟩ : none = text? ∧ c₁ = c' := by simpa using h₂
      exact ⟨by simp, int32Octets nullLength, 0, ⟨rfl, rfl⟩, hmissing, by simpa using hposition₁⟩
    · obtain ⟨octets, c₂, htake, h₃⟩ := Read.at_bind_eq_ok_iff.1 h₂
      obtain ⟨rfl, hrest, hposition₂⟩ := at_take_eq_ok htake
      split at h₃
      · next text hdecode =>
        obtain ⟨rfl, rfl⟩ : some text = text? ∧ c₂ = c' := by simpa using h₃
        have hoctets := (Utf8.decode_eq_ok_iff).1 hdecode
        subst hoctets
        refine ⟨by simpa [FitsText] using hn, textOctets text, 0, ⟨rfl, rfl⟩, ?_, ?_⟩
        · rw [hplain, hrest, textOctets, List.append_assoc]
        · rw [hposition₂, hposition₁, textOctets, List.length_append, lengthOctets,
            length_int32Octets, Nat.add_assoc]
      · simp at h₃

theorem recognizes_readText :
    (readText check).Recognizes FitsText fun text => .exactly (textOctets text) :=
  ((recognizes_readText? check).required (fun _ => rfl) rfl).congr (by simp) fun _ _ => rfl

/-! ## Objects -/

section Objects

variable {object : Read α} {Fits : α → Prop} {spelling : α → Spelling}

theorem recognizes_readObject? (h : object.Recognizes Fits spelling) :
    (readObject? object).Recognizes (fun a? => ∀ a ∈ a?, Fits a)
      fun a? => a?.elim (.exactly (int32Octets 0)) fun a => (spelling a).object where
  complete := by
    intro a? spelled missing hfits hspelled position rest
    rw [readObject?, Read.at_bind]
    cases a? with
    | none =>
      obtain ⟨rfl, rfl⟩ := hspelled
      rw [recognizes_readInt32.complete (a := 0) trivial ⟨rfl, rfl⟩]
      rfl
    | some a =>
      obtain ⟨_, _, s, n, ⟨rfl, rfl⟩, hs, rfl, rfl⟩ := hspelled
      rw [List.append_assoc, recognizes_readInt32.complete (a := 1) trivial ⟨rfl, rfl⟩]
      simp only [if_true]
      rw [Read.at_map, h.complete (hfits a rfl) hs, List.length_append, Nat.add_assoc]
      rfl
  sound := by
    intro a? c c' hread
    obtain ⟨marker, c₁, h₁, h₂⟩ := Read.at_bind_eq_ok_iff.1 hread
    obtain ⟨-, _, _, ⟨rfl, rfl⟩, hrest₁, hposition₁⟩ := recognizes_readInt32.sound h₁
    by_cases hpresent : marker = 1
    · simp only [hpresent, if_true, map_eq_pure_bind] at h₂
      obtain ⟨a, c₂, ha, h₃⟩ := Read.at_bind_eq_ok_iff.1 h₂
      obtain ⟨rfl, rfl⟩ : some a = a? ∧ c₂ = c' := by simpa using h₃
      obtain ⟨hfits, s, n, hs, hrest, hposition⟩ := h.sound ha
      refine ⟨by simpa using hfits, _, _, ⟨_, 0, s, n, ⟨rfl, rfl⟩, hs, rfl, rfl⟩, ?_, ?_⟩
      · rw [hrest₁, hrest, hpresent, List.append_assoc]
      · rw [hposition, hposition₁, hpresent, List.length_append, Nat.add_assoc]
    by_cases habsent : marker = 0
    · obtain ⟨rfl, rfl⟩ : none = a? ∧ c₁ = c' := by simpa [habsent] using h₂
      exact ⟨by simp, _, 0, ⟨rfl, rfl⟩, by rw [hrest₁, habsent], by rw [hposition₁, habsent]⟩
    · simp [hpresent, habsent] at h₂

theorem recognizes_readObject (h : object.Recognizes Fits spelling) :
    (readObject object).Recognizes Fits fun a => (spelling a).object :=
  .place fun _ =>
    ((recognizes_readObject? h).required (fun _ => rfl) rfl).congr (by simp) fun _ _ => rfl

end Objects

/-! ## Lists -/

section Lists

variable {Fits : α → Prop} {spelling : α → Spelling}

/-- The items already read stand in front of the others. -/
theorem readItems_done (item : Nat → Read α) (count index : Nat) (done : List α) (c : Cursor) :
    readItems item count index done c =
      ((readItems item count index [] c).1.map (done.reverse ++ ·),
        (readItems item count index [] c).2) := by
  induction count generalizing index done c with
  | zero => simp [readItems, Except.map]
  | succ count ih =>
    rw [readItems, readItems]
    obtain ⟨_ | a, c₁⟩ := (item index).at c
    · rfl
    · simp only
      rw [ih _ (a :: done), ih _ [a]]
      obtain ⟨_ | as, c₂⟩ := readItems item count (index + 1) [] c₁ <;> simp [Except.map]

/-- A list is read as its first item and the others. -/
theorem readItems_succ (item : Nat → Read α) (count index : Nat) :
    readItems item (count + 1) index [] = (do
      let a ← item index
      let others ← readItems item count (index + 1) []
      pure (a :: others) : Read (List α)) := by
  funext c
  show _ = Read.at _ c
  rw [readItems, Read.at_bind]
  obtain ⟨_ | a, c₁⟩ := (item index).at c
  · rfl
  · simp only
    rw [readItems_done, Read.at_bind, Read.at]
    obtain ⟨_ | others, c₂⟩ := readItems item count (index + 1) [] c₁ <;> rfl

theorem recognizes_readItems {item : Nat → Read α}
    (h : ∀ index, (item index).Recognizes Fits spelling) (count index : Nat) :
    Read.Recognizes (readItems item count index [])
      (fun values => values.length = count ∧ ∀ a ∈ values, Fits a) (.sequence spelling) := by
  induction count generalizing index with
  | zero =>
    refine (Read.Recognizes.pure []).congr ?_ ?_
    · intro values
      rw [List.length_eq_zero_iff]
      exact ⟨fun h => h.1, fun h => ⟨h, by simp [h]⟩⟩
    · rintro _ rfl
      rfl
  | succ count ih =>
    rw [readItems_succ]
    constructor
    · rintro (_ | ⟨a, others⟩) spelled missing ⟨hlength, hfits⟩ hspelled position rest
      · simp at hlength
      obtain ⟨s₁, n₁, s₂, n₂, hhead, htail, rfl, rfl⟩ := hspelled
      have hcount : others.length = count := by simpa using hlength
      obtain ⟨ha, hothers⟩ := List.forall_mem_cons.1 hfits
      rw [Read.at_bind, List.append_assoc, (h index).complete ha hhead]
      simp only
      rw [Read.at_bind, (ih (index + 1)).complete ⟨hcount, hothers⟩ htail]
      simp [Nat.add_assoc]
    · intro values c c' hread
      obtain ⟨a, c₁, h₁, hread⟩ := Read.at_bind_eq_ok_iff.1 hread
      obtain ⟨others, c₂, h₂, h₃⟩ := Read.at_bind_eq_ok_iff.1 hread
      obtain ⟨rfl, rfl⟩ : a :: others = values ∧ c₂ = c' := by simpa using h₃
      obtain ⟨ha, s₁, n₁, hhead, hrest₁, hposition₁⟩ := (h index).sound h₁
      obtain ⟨⟨hcount, hothers⟩, s₂, n₂, htail, hrest₂, hposition₂⟩ := (ih (index + 1)).sound h₂
      refine ⟨⟨by simp [hcount], List.forall_mem_cons.2 ⟨ha, hothers⟩⟩, s₁ ++ s₂, n₁ + n₂,
        ⟨s₁, n₁, s₂, n₂, hhead, htail, rfl, rfl⟩, ?_, ?_⟩
      · rw [hrest₁, hrest₂, List.append_assoc]
      · rw [hposition₂, hposition₁, List.length_append, Nat.add_assoc]

theorem recognizes_readInts :
    (readInts check).Recognizes FitsList .ints := by
  have hitems := recognizes_readItems fun _ => recognizes_readInt32
  refine (recognizes_counted check 4 (fun n => hitems n 0) ?_).congr ?_ fun _ _ => rfl
  · exact Spelling.length_sequence fun h => by simp [h.1]
  · simp [FitsList]

theorem recognizes_readList {object : Read α} (h : object.Recognizes Fits spelling) :
    (readList check object).Recognizes
      (fun values => FitsList values ∧ ∀ a ∈ values, Fits a) (.list spelling) := by
  refine recognizes_counted check 4 (fun n => recognizes_readItems (fun index => ?_) n 0) ?_
  · exact ((recognizes_readObject? h).required (fun _ => rfl) rfl).congr (by simp) fun _ _ => rfl
  · refine Spelling.length_sequence ?_
    rintro a _ _ ⟨_, _, s, n, ⟨rfl, -⟩, -, rfl, -⟩
    simp

end Lists

end DeviceStatus.Parcel
