import DeviceStatus.Proofs.Parcel.LeftToRight

/-!
# Where readings look and where they stop

A reading looks at a parcel where it takes octets and where it asks for its place. `Read.Visits`
collects these places along the way that a reading takes, through successes and faults; none of them
is outside the parcel and none is in front of an earlier one (`Read.Visits.inside`), so whatever is
counted or cut there is well defined.

A reading that fails stops where the fault is. `Stopped` says for each fault what stands there: in
front of a field that is cut nothing of it has been taken, and a prefix, a marker or a truth value
that is at fault has been taken alone.
-/

namespace DeviceStatus.Parcel

variable {α β : Type}

/-- The cursor is at a place of the parcel, and what is left is left of this parcel. -/
structure Cursor.IsIn (c : Cursor) (parcel : List UInt8) : Prop where
  /-- The octets behind the place are left. -/
  eq_over : c = .over parcel c.position
  /-- The place is no further than the end. -/
  le : c.position ≤ parcel.length

theorem Cursor.isIn_over {parcel : List UInt8} {position : Nat} (h : position ≤ parcel.length) :
    (Cursor.over parcel position).IsIn parcel := ⟨rfl, h⟩

theorem Cursor.IsIn.rest_eq {c : Cursor} {parcel : List UInt8} (h : c.IsIn parcel) :
    c.rest = parcel.drop c.position := congrArg Cursor.rest h.eq_over

theorem Cursor.IsIn.remaining_eq {c : Cursor} {parcel : List UInt8} (h : c.IsIn parcel) :
    c.remaining = parcel.length - c.position := by
  rw [Cursor.remaining, h.rest_eq, List.length_drop]

/-- A place further on is in the parcel as long as it is not behind the end. -/
theorem Cursor.IsIn.drop {c : Cursor} {parcel : List UInt8} {n : Nat} (h : c.IsIn parcel)
    (hroom : n ≤ c.remaining) : Cursor.IsIn ⟨c.position + n, c.rest.drop n⟩ parcel := by
  have hle := h.le
  rw [h.remaining_eq] at hroom
  refine ⟨?_, ?_⟩
  · rw [h.rest_eq, List.drop_drop, Cursor.over]
  · show c.position + n ≤ parcel.length
    omega

namespace Read

/-- The places at which a reading looks, in order. -/
inductive Visits : {α : Type} → Read α → Cursor → List Cursor → Prop
  /-- A value is given without a look. -/
  | pure {α : Type} (a : α) (c : Cursor) : Visits (Pure.pure a) c []
  /-- So is a fault. -/
  | throw {α : Type} (fault : Fault) (c : Cursor) : Visits (throw fault : Read α) c []
  /-- The place itself is asked for. -/
  | place (c : Cursor) : Visits Parcel.place c [c]
  /-- Octets are taken from the place on, or counted if there are too few. -/
  | take (n : Nat) (c : Cursor) : Visits (Parcel.take n) c [c]
  /-- A sequence goes on where its first part stops. -/
  | bind_ok {α β : Type} {r : Read α} {f : α → Read β} {c c' : Cursor} {a : α}
      {visited others : List Cursor} (h : Visits r c visited) (hread : r.at c = (.ok a, c'))
      (hrest : Visits (f a) c' others) : Visits (r >>= f) c (visited ++ others)
  /-- A sequence ends where its first part fails. -/
  | bind_error {α β : Type} {r : Read α} {f : α → Read β} {c c' : Cursor} {fault : Fault}
      {visited : List Cursor} (h : Visits r c visited) (hread : r.at c = (.error fault, c')) :
      Visits (r >>= f) c visited

/-- A reading that begins in a parcel looks nowhere else, never goes back and stops in it. -/
theorem Visits.inside {r : Read α} {c : Cursor} {visited : List Cursor} {parcel : List UInt8}
    (h : r.Visits c visited) (hc : c.IsIn parcel) :
    (∀ seen ∈ visited, c.position ≤ seen.position ∧ seen.IsIn parcel) ∧
      c.position ≤ (r.at c).2.position ∧ (r.at c).2.IsIn parcel := by
  induction h with
  | pure a c => exact ⟨by simp, Nat.le_refl _, hc⟩
  | throw fault c => exact ⟨by simp, Nat.le_refl _, hc⟩
  | place c => exact ⟨by simpa using hc, Nat.le_refl _, hc⟩
  | take n c =>
    refine ⟨by simpa using hc, ?_⟩
    rcases Nat.lt_or_ge c.remaining n with hcut | hroom
    · rw [at_take_of_lt hcut]
      exact ⟨Nat.le_refl _, hc⟩
    · rw [at_take_of_le hroom]
      exact ⟨Nat.le_add_right .., hc.drop hroom⟩
  | @bind_ok _ _ r f c c' a visited others _ hread _ ih ihrest =>
    obtain ⟨hvisited, hle, hinside⟩ := ih hc
    rw [hread] at hle hinside
    obtain ⟨hothers, hle', hinside'⟩ := ihrest hinside
    have hsequence : Read.at (r >>= f) c = (f a).at c' := by rw [at_bind, hread]
    rw [hsequence]
    refine ⟨fun seen hseen => ?_, Nat.le_trans hle hle', hinside'⟩
    rcases List.mem_append.1 hseen with hfirst | hsecond
    · exact hvisited seen hfirst
    · exact ⟨Nat.le_trans hle (hothers seen hsecond).1, (hothers seen hsecond).2⟩
  | @bind_error _ _ r f c c' fault visited _ hread ih =>
    obtain ⟨hvisited, hle, hinside⟩ := ih hc
    rw [hread] at hle hinside
    have hsequence : Read.at (r >>= f) c = (.error fault, c') := by rw [at_bind, hread]
    rw [hsequence]
    exact ⟨hvisited, hle, hinside⟩

end Read

/-! ## Where a reading stops after a fault -/

/-- The signed 32-bit word at an offset. -/
def WordAt (parcel : List UInt8) (offset : Nat) (v : Int32) : Prop :=
  (parcel.drop offset).take 4 = int32Octets v

/-- Where a reading stands after a fault, and what it has found there. -/
inductive Stopped (parcel : List UInt8) : Nat → Fault → Prop
  /-- There is less than is needed: in front of a field of a fixed width, or behind the prefix that
  announces what is needed. -/
  | truncated {place needed offset : Nat} (hmissing : Missing parcel place needed offset)
      (hshort : parcel.length - place < needed) :
      Stopped parcel place (.truncated offset needed (parcel.length - place))
  /-- A prefix that is no length has been read. -/
  | invalidLength {offset : Nat} {v : Int32} (hword : WordAt parcel offset v) (hnegative : v < 0)
      (hnull : v ≠ nullLength) : Stopped parcel (offset + 4) (.invalidLength v)
  /-- An octet that is no truth value has been read. -/
  | invalidBool {offset : Nat} {octet : UInt8} (hoctet : parcel[offset]? = some octet)
      (hfalse : octet ≠ 0) (htrue : octet ≠ 1) : Stopped parcel (offset + 1) (.invalidBool octet)
  /-- The marker of a missing element has been read. -/
  | nullElement {offset index : Nat} (hword : WordAt parcel offset 0) :
      Stopped parcel (offset + 4) (.nullElement index)
  /-- The marker of a missing object has been read. -/
  | nullObject {offset : Nat} (hword : WordAt parcel offset 0) :
      Stopped parcel (offset + 4) (.nullObject offset)
  /-- The mark of a missing text has been read. -/
  | nullText {offset : Nat} (hword : WordAt parcel offset nullLength) :
      Stopped parcel (offset + 4) .nullText
  /-- A prefix and the octets of a text have been read. -/
  | illFormedText {offset count : Nat} {octets : List UInt8} {cause : Utf8.IllFormed}
      (hannounced : (parcel.drop offset).take 4 = lengthOctets count)
      (hoctets : (parcel.drop (offset + 4)).take count = octets)
      (htext : Utf8.decode octets = .error cause) :
      Stopped parcel (offset + 4 + count) (.illFormedText ⟨octets, cause⟩)
  /-- A number without a meaning has been read. -/
  | unknownValue {offset : Nat} {field : Enumerated} {v : Int32} (hword : WordAt parcel offset v) :
      Stopped parcel (offset + 4) (.unknownValue field v)

/-- The report of a cut says what is left, which is less than what is needed. -/
theorem Stopped.remaining_lt {parcel : List UInt8} {stop offset needed remaining : Nat}
    (h : Stopped parcel stop (.truncated offset needed remaining)) :
    remaining = parcel.length - stop ∧ remaining < needed := by
  cases h with
  | truncated hmissing hshort => exact ⟨rfl, hshort⟩

namespace Read

/-- The places at which a reading looks are known, and where it fails it stops at the fault. -/
structure Safe (r : Read α) (parcel : List UInt8) (c : Cursor) : Prop where
  /-- It looks at these places. -/
  visits : ∃ visited, r.Visits c visited
  /-- It stops at the fault. -/
  stopped : ∀ {fault c'}, r.at c = (.error fault, c') → Stopped parcel c'.position fault

/-- The reading is safe wherever it begins in a parcel. -/
def IsSafe (r : Read α) : Prop := ∀ parcel c, c.IsIn parcel → r.Safe parcel c

theorem Safe.pure (parcel : List UInt8) (a : α) (c : Cursor) : Safe (Pure.pure a) parcel c where
  visits := ⟨[], .pure a c⟩
  stopped h := by simp at h

theorem Safe.throw {parcel : List UInt8} {fault : Fault} {c : Cursor}
    (h : Stopped parcel c.position fault) : Safe (throw fault : Read α) parcel c where
  visits := ⟨[], .throw fault c⟩
  stopped hread := by
    obtain ⟨rfl, rfl⟩ : fault = _ ∧ c = _ := by simpa using hread
    exact h

/-- A sequence is safe if what comes next is safe where its first part stops. -/
theorem Safe.bind {r : Read α} {f : α → Read β} {parcel : List UInt8} {c : Cursor}
    (hc : c.IsIn parcel) (h : r.Safe parcel c)
    (hf : ∀ a c', r.at c = (.ok a, c') → c'.IsIn parcel → (f a).Safe parcel c') :
    (r >>= f).Safe parcel c := by
  obtain ⟨visited, hvisits⟩ := h.visits
  obtain ⟨-, -, hinside⟩ := hvisits.inside hc
  obtain ⟨⟨fault | a, c'⟩, hread⟩ : ∃ reading, r.at c = reading := ⟨_, rfl⟩
  · refine ⟨⟨visited, hvisits.bind_error hread⟩, fun {fault' c''} hfault => ?_⟩
    rw [at_bind, hread] at hfault
    obtain ⟨rfl, rfl⟩ : fault = fault' ∧ c' = c'' := by simpa using hfault
    exact h.stopped hread
  · rw [hread] at hinside
    have hrest := hf a c' hread hinside
    obtain ⟨others, hothers⟩ := hrest.visits
    refine ⟨⟨_, hvisits.bind_ok hread hothers⟩, fun {fault c''} hfault => ?_⟩
    rw [at_bind, hread] at hfault
    exact hrest.stopped hfault

theorem IsSafe.bind {r : Read α} {f : α → Read β} (h : r.IsSafe) (hf : ∀ a, (f a).IsSafe) :
    (r >>= f).IsSafe := fun parcel c hc =>
  (h parcel c hc).bind hc fun a c' _ hc' => hf a parcel c' hc'

theorem IsSafe.pure (a : α) : IsSafe (Pure.pure a) := fun parcel c _ => .pure parcel a c

theorem IsSafe.map {r : Read α} (h : r.IsSafe) (f : α → β) : (f <$> r).IsSafe := by
  rw [map_eq_pure_bind]
  exact h.bind fun a => pure (f a)

theorem IsSafe.place : IsSafe Parcel.place := fun parcel c _ =>
  ⟨⟨[c], .place c⟩, fun h => by simp at h⟩

end Read

open Read

/-! ## Words -/

/-- A field of a fixed width that is cut is not begun. -/
theorem at_take_eq_error {n : Nat} {c c' : Cursor} {fault : Fault}
    (h : (take n).at c = (.error fault, c')) :
    c' = c ∧ fault = .truncated c.position n c.remaining := by
  rcases Nat.lt_or_ge c.remaining n with hcut | hroom
  · rw [at_take_of_lt hcut] at h
    obtain ⟨rfl, rfl⟩ : _ = fault ∧ c = c' := by simpa using h
    exact ⟨rfl, rfl⟩
  · simp [at_take_of_le hroom] at h

/-- What is made of the octets of a field that is there is no fault. -/
theorem at_map_take_eq_error {n : Nat} {g : List UInt8 → α} {c c' : Cursor} {fault : Fault}
    (h : Read.at (g <$> take n) c = (.error fault, c')) :
    c' = c ∧ fault = .truncated c.position n c.remaining := by
  rw [map_eq_pure_bind] at h
  rcases at_bind_eq_error_iff.1 h with hcut | ⟨octets, c₁, -, hvalue⟩
  · exact at_take_eq_error hcut
  · simp at hvalue

theorem isSafe_take {n : Nat} (hn : n = 1 ∨ n = 4 ∨ n = 8) : (take n).IsSafe := by
  refine fun parcel c hc => ⟨⟨[c], .take n c⟩, fun {fault c'} hread => ?_⟩
  rcases Nat.lt_or_ge c.remaining n with hcut | hroom
  · obtain ⟨rfl, rfl⟩ := at_take_eq_error hread
    rw [hc.remaining_eq] at hcut ⊢
    exact .truncated (.field hn) hcut
  · simp [at_take_of_le hroom] at hread

theorem isSafe_readInt32 : readInt32.IsSafe := (isSafe_take (by simp)).map _

theorem isSafe_readInt64 : readInt64.IsSafe := (isSafe_take (by simp)).map _

theorem isSafe_readBool : readBool.IsSafe := by
  intro parcel c hc
  refine (isSafe_take (by simp) parcel c hc).bind hc fun octets c' htake hc' => ?_
  obtain ⟨hlength, hrest, hposition⟩ := at_take_eq_ok htake
  obtain ⟨octet, rfl⟩ := List.length_eq_one_iff.1 hlength
  split
  · exact .pure parcel false c'
  · exact .pure parcel true c'
  · next hfalse htrue =>
    have hoctet : parcel[c.position]? = some octet := by
      have hhead := congrArg List.head? hrest
      rw [hc.rest_eq, List.head?_drop] at hhead
      exact hhead
    refine .throw ?_
    rw [hposition]
    exact .invalidBool hoctet (by simpa using hfalse) (by simpa using htrue)

/-- A truth value that cannot be read is cut, or its octet has been taken. -/
theorem at_readBool_eq_error {parcel : List UInt8} {c c' : Cursor} {fault : Fault}
    (hc : c.IsIn parcel) (h : readBool.at c = (.error fault, c')) :
    (c' = c ∧ fault = .truncated c.position 1 c.remaining) ∨
      ∃ octet, fault = .invalidBool octet ∧ parcel[c.position]? = some octet ∧
        c'.position = c.position + 1 := by
  have hstopped := (isSafe_readBool parcel c hc).stopped h
  rcases at_bind_eq_error_iff.1 h with hcut | ⟨octets, c₁, htake, hvalue⟩
  · exact .inl (at_take_eq_error hcut)
  obtain ⟨-, -, hposition⟩ := at_take_eq_ok htake
  split at hvalue
  · simp at hvalue
  · simp at hvalue
  · obtain ⟨rfl, rfl⟩ : Fault.invalidBool (octets.headD 0) = fault ∧ c₁ = c' := by
      simpa using hvalue
    generalize hstop : c₁.position = stop at hstopped
    cases hstopped with
    | @invalidBool offset octet hoctet _ _ =>
      obtain rfl : offset = c.position := by omega
      exact .inr ⟨_, rfl, hoctet, rfl⟩

/-- A word that was read stands in front of the place reached. -/
theorem wordAt_of_readInt32 {parcel : List UInt8} {c c' : Cursor} {v : Int32}
    (hc : c.IsIn parcel) (h : readInt32.at c = (.ok v, c')) :
    WordAt parcel c.position v ∧ c'.position = c.position + 4 := by
  obtain ⟨-, octets, missing, ⟨rfl, -⟩, hrest, hposition⟩ := recognizes_readInt32.sound h
  rw [length_int32Octets] at hposition
  refine ⟨?_, hposition⟩
  rw [WordAt, ← hc.rest_eq, hrest, List.take_left' (length_int32Octets v)]

/-! ## What stands behind a prefix -/

theorem isSafe_readLength {size : Nat} (hsize : size = 1 ∨ size = 4) :
    (readLength .standard size).IsSafe := by
  intro parcel c hc
  refine (IsSafe.place parcel c hc).bind hc ?_
  rintro _ _ ⟨⟩ -
  refine (isSafe_readInt32 parcel c hc).bind hc fun v c' hread hc' => ?_
  obtain ⟨hword, hposition⟩ := wordAt_of_readInt32 hc hread
  by_cases hnull : v = nullLength
  · rw [if_pos hnull]
    exact .pure parcel none c'
  by_cases hnegative : v < 0
  · rw [if_neg hnull, if_pos hnegative]
    exact .throw (hposition ▸ .invalidLength hword hnegative hnull)
  rw [if_neg hnull, if_neg hnegative]
  obtain ⟨hcount, hlength⟩ := lengthOctets_toNatClampNeg hnegative
  have hneeded : v.toNatClampNeg * size = v.toNatClampNeg ∨
      v.toNatClampNeg * size = v.toNatClampNeg * 4 := by
    rcases hsize with rfl | rfl <;> simp
  simp only [SizeCheck.standard, announcedSize_standard hcount hsize]
  refine (IsSafe.place parcel c' hc').bind hc' ?_
  rintro _ _ ⟨⟩ -
  by_cases hholds : holds (v.toNatClampNeg * size) c'.rest = true
  · rw [if_pos hholds]
    exact .pure parcel _ c'
  · rw [if_neg hholds]
    refine .throw ?_
    rw [holds_iff, ← Cursor.remaining, hc'.remaining_eq] at hholds
    rw [hc'.remaining_eq]
    exact .truncated (.announced hposition (hword.trans hlength.symm) hneeded) (by omega)

/-- The octets of a text have been announced, so they are there. -/
theorem isSafe_readText? : (readText? .standard).IsSafe := by
  intro parcel c hc
  refine (isSafe_readLength (.inl rfl) parcel c hc).bind hc fun length c₁ hlength hc₁ => ?_
  obtain ⟨hposition, ⟨rfl, -⟩ | ⟨n, rfl, -, hannounced⟩⟩ := at_readLength_eq_ok .standard hlength
  · exact .pure parcel none c₁
  have hroom : n ≤ c₁.remaining := by
    simpa [Cursor.remaining] using room_of_at_readLength (.inl rfl) hlength
  have htake : (take n).Safe parcel c₁ :=
    ⟨⟨[c₁], .take n c₁⟩, fun h => by simp [at_take_of_le hroom] at h⟩
  refine htake.bind hc₁ fun octets c₂ hoctets _ => ?_
  rw [at_take_of_le hroom] at hoctets
  obtain ⟨rfl, rfl⟩ : c₁.rest.take n = octets ∧ ⟨c₁.position + n, c₁.rest.drop n⟩ = c₂ := by
    simpa using hoctets
  split
  · exact .pure parcel _ _
  · next cause hcause =>
    refine .throw ?_
    rw [hc₁.rest_eq, hposition] at hcause ⊢
    rw [hc.rest_eq] at hannounced
    exact .illFormedText (by rw [hannounced, List.take_left' (by simp [lengthOctets])]) rfl hcause

theorem isSafe_readText : (readText .standard).IsSafe := by
  intro parcel c hc
  refine (isSafe_readText? parcel c hc).bind hc ?_
  rintro (_ | text) c' hread -
  · obtain ⟨-, octets, _, ⟨rfl, -⟩, hrest, hposition⟩ :=
      (recognizes_readText? .standard).sound hread
    refine .throw ?_
    rw [hposition]
    refine .nullText ?_
    rw [WordAt, ← hc.rest_eq, hrest, optionalTextOctets, List.take_left' (by simp)]
  · exact .pure parcel text c'

section Objects

variable {object : Read α}

theorem isSafe_readObject? (h : object.IsSafe) : (readObject? object).IsSafe := by
  intro parcel c hc
  refine (isSafe_readInt32 parcel c hc).bind hc fun marker c' hread hc' => ?_
  obtain ⟨hword, hposition⟩ := wordAt_of_readInt32 hc hread
  split
  · exact h.map some parcel c' hc'
  split
  · exact .pure parcel none c'
  · exact .throw (hposition ▸ .unknownValue hword)

/-- A missing object is its marker. -/
theorem wordAt_of_readObject?_none {parcel : List UInt8} {c c' : Cursor} (hc : c.IsIn parcel)
    (h : (readObject? object).at c = (.ok none, c')) :
    WordAt parcel c.position 0 ∧ c'.position = c.position + 4 := by
  obtain ⟨marker, c₁, hread, hrest⟩ := at_bind_eq_ok_iff.1 h
  obtain ⟨hword, hposition⟩ := wordAt_of_readInt32 hc hread
  split at hrest
  · rw [map_eq_pure_bind] at hrest
    obtain ⟨_, _, -, hsome⟩ := at_bind_eq_ok_iff.1 hrest
    simp at hsome
  split at hrest
  · next hmarker =>
    obtain rfl : c₁ = c' := by simpa using hrest
    exact ⟨hmarker ▸ hword, hposition⟩
  · simp at hrest

theorem isSafe_readObject (h : object.IsSafe) : (readObject object).IsSafe := by
  intro parcel c hc
  refine (IsSafe.place parcel c hc).bind hc ?_
  rintro _ _ ⟨⟩ -
  refine (isSafe_readObject? h parcel c hc).bind hc ?_
  rintro (_ | value) c' hread -
  · obtain ⟨hword, hposition⟩ := wordAt_of_readObject?_none hc hread
    exact .throw (hposition ▸ .nullObject hword)
  · exact .pure parcel value c'

theorem isSafe_readItems {item : Nat → Read α} (h : ∀ index, (item index).IsSafe)
    (count index : Nat) : IsSafe (readItems item count index []) := by
  induction count generalizing index with
  | zero => exact .pure []
  | succ count ih =>
    rw [readItems_succ]
    exact (h index).bind fun a => (ih (index + 1)).bind fun others => .pure (a :: others)

theorem isSafe_readInts : (readInts .standard).IsSafe :=
  (isSafe_readLength (.inr rfl)).bind fun count =>
    isSafe_readItems (fun _ => isSafe_readInt32) (count.getD 0) 0

theorem isSafe_readList (h : object.IsSafe) : (readList .standard object).IsSafe := by
  refine (isSafe_readLength (.inr rfl)).bind fun count =>
    isSafe_readItems (fun index parcel c hc => ?_) (count.getD 0) 0
  refine (isSafe_readObject? h parcel c hc).bind hc ?_
  rintro (_ | value) c' hread -
  · obtain ⟨hword, hposition⟩ := wordAt_of_readObject?_none hc hread
    exact .throw (hposition ▸ .nullElement hword)
  · exact .pure parcel value c'

end Objects

/-! ## Prefixes that are at fault -/

variable {parcel : List UInt8} {c : Cursor} {v : Int32}

theorem at_readInt32_of_wordAt (hc : c.IsIn parcel) (h : WordAt parcel c.position v) :
    readInt32.at c = (.ok v, .over parcel (c.position + 4)) ∧ c.position + 4 ≤ parcel.length := by
  have hsplit : c.rest = int32Octets v ++ parcel.drop (c.position + 4) := by
    rw [← h, hc.rest_eq, ← List.drop_drop, List.take_append_drop]
  have hlong := congrArg List.length hsplit
  rw [List.length_append, length_int32Octets, ← Cursor.remaining, hc.remaining_eq] at hlong
  have hinside := hc.le
  refine ⟨?_, by omega⟩
  have hread := recognizes_readInt32.complete (a := v) trivial ⟨rfl, rfl⟩ c.position
    (parcel.drop (c.position + 4))
  rw [← hsplit, length_int32Octets] at hread
  exact hread

/-- A prefix that is no length is read alone. -/
theorem at_readLength_of_negative (size : Nat) (hc : c.IsIn parcel)
    (hword : WordAt parcel c.position v) (hnegative : v < 0) (hnull : v ≠ nullLength) :
    (readLength .standard size).at c =
      (.error (.invalidLength v), .over parcel (c.position + 4)) := by
  obtain ⟨hread, -⟩ := at_readInt32_of_wordAt hc hword
  simp [readLength, at_bind, hread, hnull, hnegative]

/-- A prefix that announces more than is left is read alone. -/
theorem at_readLength_of_short {size : Nat} (hsize : size = 1 ∨ size = 4) (hc : c.IsIn parcel)
    (hword : WordAt parcel c.position v) (hlength : ¬ v < 0)
    (hshort : parcel.length < c.position + 4 + v.toNatClampNeg * size) :
    (readLength .standard size).at c =
      (.error (.truncated c.position (v.toNatClampNeg * size) (parcel.length - (c.position + 4))),
        .over parcel (c.position + 4)) := by
  obtain ⟨hread, hinside⟩ := at_readInt32_of_wordAt hc hword
  obtain ⟨hcount, -⟩ := lengthOctets_toNatClampNeg hlength
  have hnull : v ≠ nullLength := by
    rintro rfl
    exact hlength (by decide)
  have hholds : holds (v.toNatClampNeg * size) (Cursor.over parcel (c.position + 4)).rest =
      false := by
    rw [← Bool.not_eq_true, Cursor.over, holds_drop_iff hinside]
    omega
  have hremaining : parcel.length - (c.position + 4) =
      (Cursor.over parcel (c.position + 4)).remaining :=
    (Cursor.isIn_over hinside).remaining_eq.symm
  rw [hremaining]
  simp [readLength, at_bind, hread, hnull, hlength, SizeCheck.standard,
    announcedSize_standard hcount hsize, hholds]

end DeviceStatus.Parcel
