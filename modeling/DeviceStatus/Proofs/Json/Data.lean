import DeviceStatus.Proofs.Json.Grammar

/-!
# What a text comes to

Whoever takes a JSON text apart hands on what its value is made of (`Value.data`), no longer how it
is written: words, integers, other numbers, strings, sequences and maps. An integer is handed on as
one only if 64 bits hold it. A text in which a half of a character stands alone is no string; this
is held against it only where the string is asked for.
-/

namespace DeviceStatus.Json

/-- What a value comes to. -/
inductive Data where
  /-- A word. -/
  | word (w : Word)
  /-- An integer that 64 bits hold, with or without a sign. -/
  | integer (i : Int)
  /-- Any other number. Which one it is depends on how it is rounded, and nothing here asks. -/
  | real
  /-- A string, or what was meant to be one. -/
  | text (value? : Option String)
  /-- Values one after another. -/
  | sequence (elements : List Data)
  /-- Values under keys, one after another; a key may be repeated. -/
  | map (entries : List (Option String × Data))

/-- The integers that 64 bits hold, with or without a sign. -/
def Fits64 (i : Int) : Prop := -0x8000000000000000 ≤ i ∧ i ≤ 0xFFFFFFFFFFFFFFFF

instance (i : Int) : Decidable (Fits64 i) := inferInstanceAs (Decidable (_ ∧ _))

/-- What a number comes to. The negative of zero is no integer. -/
def Number.data (n : Number) : Data :=
  match n.integer? with
  | some i => if Fits64 i then .integer i else .real
  | none => .real

mutual

/-- What a value comes to. -/
def Value.data : Value → Data
  | .word w => .word w
  | .number n => n.data
  | .text t => .text t.value?
  | .array elements => .sequence (elementData elements)
  | .object members => .map (memberData members)

/-- What the elements of an array come to. -/
def elementData : List Value → List Data
  | [] => []
  | v :: rest => v.data :: elementData rest

/-- What the members of an object come to. -/
def memberData : List (Letters × Value) → List (Option String × Data)
  | [] => []
  | (name, v) :: rest => (name.value?, v.data) :: memberData rest

end

theorem elementData_eq_map (elements : List Value) :
    elementData elements = elements.map Value.data := by
  induction elements with
  | nil => rfl
  | cons v elements ih => rw [elementData, ih, List.map_cons]

theorem memberData_eq_map (members : List (Letters × Value)) :
    memberData members = members.map fun m => (m.1.value?, m.2.data) := by
  induction members with
  | nil => rfl
  | cons m members ih => rw [memberData, ih, List.map_cons]

theorem Number.data_eq_integer_iff {n : Number} {i : Int} :
    n.data = .integer i ↔ n.integer? = some i ∧ Fits64 i := by
  unfold data
  cases n.integer? with
  | none => simp
  | some j =>
    dsimp only
    rw [Option.some.injEq]
    split
    · next hfits =>
      rw [Data.integer.injEq]
      exact ⟨fun h => ⟨h, h ▸ hfits⟩, And.left⟩
    · next hfits => exact iff_of_false nofun fun h => hfits (h.1 ▸ h.2)

/-- A number comes to a number. -/
theorem Number.data_eq_real_or (n : Number) : n.data = .real ∨ ∃ i, n.data = .integer i := by
  unfold data
  cases n.integer? with
  | none => exact .inl rfl
  | some i =>
    dsimp only
    split
    · exact .inr ⟨i, rfl⟩
    · exact .inl rfl

namespace Value

theorem data_eq_integer_iff {v : Value} {i : Int} :
    v.data = .integer i ↔ v.integer? = some i ∧ Fits64 i := by
  cases v with
  | number n => exact Number.data_eq_integer_iff
  | word | text | array | object => simp [data, integer?]

theorem data_eq_map_iff {v : Value} {entries : List (Option String × Data)} :
    v.data = .map entries ↔ ∃ members, v = .object members ∧ memberData members = entries := by
  cases v with
  | number n => obtain h | ⟨i, h⟩ := n.data_eq_real_or <;> simp [data, h]
  | word | text | array | object => simp [data]

theorem data_eq_sequence_iff {v : Value} {data : List Data} :
    v.data = .sequence data ↔ ∃ elements, v = .array elements ∧ elementData elements = data := by
  cases v with
  | number n => obtain h | ⟨i, h⟩ := n.data_eq_real_or <;> simp [Value.data, h]
  | word | text | array | object => simp [Value.data]

end Value

/-- The data under a key, in the order of the entries that have it. -/
def dataUnder (key : String) (entries : List (Option String × Data)) : List Data :=
  (entries.filter fun e => e.1 = some key).map (·.2)

theorem dataUnder_memberData (key : String) (members : List (Letters × Value)) :
    dataUnder key (memberData members) = (valuesUnder key members).map Value.data := by
  rw [memberData_eq_map, dataUnder, valuesUnder, List.filter_map, List.map_map, List.map_map]
  rfl

end DeviceStatus.Json
