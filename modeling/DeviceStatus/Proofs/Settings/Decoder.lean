import DeviceStatus.Proofs.Json.Data
import DeviceStatus.Proofs.Settings.Table
import DeviceStatus.Settings.Load

/-!
# What is relied on in a reader of snapshots

A snapshot is loaded by a reader, which takes the JSON text apart, and a decoder, which makes the
snapshot of what the text comes to. Nothing is relied on but what is documented of the two: the
decoder makes words, tables and snapshots of certain data and of no others (`Decoder.Documented`),
and the reader reads JSON and leaves the rest to the decoder (`ReadsJson`). It follows of which
values of a text a word or a table is made: of those that spell an integer in range, and of objects
that list the table.
-/

namespace DeviceStatus.Settings

open Json

/-- The name of the table of a part of the store. -/
def Namespace.name : Namespace → String
  | .secure => "secure"
  | .system => "system"

/-- The place of the table of a part of the store where the tables are not named. -/
def Namespace.place : Namespace → Nat
  | .secure => 0
  | .system => 1

/-! ## Decoders -/

/-- Makes words, tables and snapshots of data, or refuses to. -/
structure Decoder where
  /-- A word. -/
  int32 : Data → Option Int32
  /-- A table. -/
  table : Data → Option Table
  /-- A snapshot. -/
  snapshot : Data → Option Snapshot

/-- The table with an entry put in place of an earlier one with its key, if a word can be made of
the entry. -/
def Table.put? (int32 : Data → Option Int32) (t : Table) (entry : Option String × Data) :
    Option Table := do
  let key ← entry.1
  let x ← int32 entry.2
  pure (t.insert key x)

namespace Decoder

variable (d : Decoder)

/-- What is given for a table of a snapshot: the table once, or nothing for an empty one. -/
def Gives (given : List Data) (t : Table) : Prop :=
  (given = [] ∧ t = .empty) ∨ ∃ data, given = [data] ∧ d.table data = some t

/-- What is documented of a decoder. -/
structure Documented : Prop where
  /-- A word is made of an integer in its range, and of nothing else. -/
  int32_eq_some_iff : ∀ data x, d.int32 data = some x ↔ data = .integer x.toInt
  /-- A table is made of a map, by putting in its entries from first to last, and of nothing
  else. -/
  table_eq_some_iff : ∀ data t, d.table data = some t ↔
    ∃ entries, data = .map entries ∧ entries.foldlM (Table.put? d.int32) .empty = some t
  /-- A snapshot is made of a map that gives its tables by their names, whatever stands under other
  keys, or of a sequence that gives them at their places, and of nothing else. -/
  snapshot_eq_some_iff : ∀ data s, d.snapshot data = some s ↔
    (∃ entries, data = .map entries ∧ (∀ e ∈ entries, e.1.isSome) ∧
      ∀ area, d.Gives (dataUnder area.name entries) (s.table area)) ∨
    ∃ elements, data = .sequence elements ∧ elements.length ≤ 2 ∧
      ∀ area, d.Gives elements[area.place]?.toList (s.table area)

end Decoder

/-- The reader reads JSON: of a text it makes what the decoder makes of the value of the text. -/
def ReadsJson (read : List UInt8 → Except Fault Snapshot) (d : Decoder) : Prop :=
  ∀ octets v, IsTextOf octets v → ∀ s, read octets = .ok s ↔ d.snapshot v.data = some s

/-! ## What words and tables are made of -/

/-- The integer of a word fits into 64 bits. -/
theorem fits64_toInt (x : Int32) : Fits64 x.toInt := by
  have hle : -0x80000000 ≤ x.toInt := x.le_toInt
  have hlt : x.toInt < 0x80000000 := x.toInt_lt
  unfold Fits64
  omega

namespace Decoder.Documented

variable {d : Decoder} (h : d.Documented)
include h

/-- A word is made of the values that spell its integer. An integer of more than 64 bits comes to
another number, but no word is so large. -/
theorem int32_data_eq_some_iff {v : Value} {x : Int32} :
    d.int32 v.data = some x ↔ v.integer? = some x.toInt := by
  rw [h.int32_eq_some_iff, Value.data_eq_integer_iff, and_iff_left (fits64_toInt x)]

theorem put?_eq_some_iff {t t' : Table} {m : Letters × Value} :
    t.put? d.int32 (m.1.value?, m.2.data) = some t' ↔
      ∃ key x, m.1.value? = some key ∧ m.2.integer? = some x.toInt ∧ t.insert key x = t' := by
  simp only [Table.put?, bind, pure, Option.bind_eq_some_iff, h.int32_data_eq_some_iff,
    Option.some.injEq]
  constructor
  · rintro ⟨key, hkey, x, hx, rfl⟩
    exact ⟨key, x, hkey, hx, rfl⟩
  · rintro ⟨key, x, hkey, hx, rfl⟩
    exact ⟨key, hkey, x, hx, rfl⟩

theorem listsTable_of_foldlM {entries : List (Letters × Value)} {t : Table}
    (ht : (memberData entries).foldlM (Table.put? d.int32) .empty = some t) :
    ListsTable entries t := by
  rw [memberData_eq_map] at ht
  -- from the end, since the last member decides
  induction entries using List.reverseRecOn generalizing t with
  | nil =>
    obtain rfl : Table.empty = t := Option.some.inj ht
    exact listsTable_nil
  | append_singleton entries m ih =>
    rw [List.map_append, List.foldlM_append] at ht
    obtain ⟨t₀, hentries, hput⟩ := Option.bind_eq_some_iff.1 ht
    obtain ⟨key, x, hkey, hx, rfl⟩ := h.put?_eq_some_iff.1 (by simpa using hput)
    exact (ih hentries).insert hkey hx

/-- Keys and words can be put into any table. -/
theorem exists_foldlM_put? {entries : List (Letters × Value)}
    (hkeys : ∀ m ∈ entries, ∃ key, m.1.value? = some key)
    (hvalues : ∀ m ∈ entries, ∃ x : Int32, m.2.integer? = some x.toInt) (t : Table) :
    ∃ t', (memberData entries).foldlM (Table.put? d.int32) t = some t' := by
  induction entries generalizing t with
  | nil => exact ⟨t, rfl⟩
  | cons m entries ih =>
    obtain ⟨⟨key, hkey⟩, hkeys⟩ := List.forall_mem_cons.1 hkeys
    obtain ⟨⟨x, hx⟩, hvalues⟩ := List.forall_mem_cons.1 hvalues
    have hput : t.put? d.int32 (m.1.value?, m.2.data) = some (t.insert key x) :=
      h.put?_eq_some_iff.2 ⟨key, x, hkey, hx, rfl⟩
    obtain ⟨t', ht'⟩ := ih hkeys hvalues (t.insert key x)
    exact ⟨t', by rw [memberData, List.foldlM_cons, hput]; exact ht'⟩

theorem foldlM_put?_eq_some_iff {entries : List (Letters × Value)} {t : Table} :
    (memberData entries).foldlM (Table.put? d.int32) .empty = some t ↔ ListsTable entries t := by
  refine ⟨h.listsTable_of_foldlM, fun ht => ?_⟩
  -- the members can be put in, and what comes of it is the one table that they spell
  obtain ⟨u, hu⟩ := h.exists_foldlM_put? ht.keys ht.values .empty
  rw [hu, ht.unique (h.listsTable_of_foldlM hu)]

/-- A table is made of the objects that list it. -/
theorem table_data_eq_some_iff {v : Value} {t : Table} :
    d.table v.data = some t ↔ ∃ entries, v = .object entries ∧ ListsTable entries t := by
  simp only [h.table_eq_some_iff, Value.data_eq_map_iff]
  constructor
  · rintro ⟨_, ⟨entries, rfl, rfl⟩, ht⟩
    exact ⟨entries, rfl, h.foldlM_put?_eq_some_iff.1 ht⟩
  · rintro ⟨entries, rfl, ht⟩
    exact ⟨_, ⟨entries, rfl, rfl⟩, h.foldlM_put?_eq_some_iff.2 ht⟩

/-- A table is given by one object that lists it, or it is empty and not given. -/
theorem gives_data_iff {values : List Value} {t : Table} :
    d.Gives (values.map Value.data) t ↔ (values = [] ∧ t = .empty) ∨
      ∃ entries, values = [.object entries] ∧ ListsTable entries t := by
  rw [Gives, List.map_eq_nil_iff]
  refine or_congr_right ⟨?_, ?_⟩
  · rintro ⟨data, hdata, ht⟩
    obtain ⟨v, rfl, rfl⟩ := List.map_eq_singleton_iff.1 hdata
    obtain ⟨entries, rfl, hlists⟩ := h.table_data_eq_some_iff.1 ht
    exact ⟨entries, rfl, hlists⟩
  · rintro ⟨entries, rfl, hlists⟩
    exact ⟨_, rfl, h.table_data_eq_some_iff.2 ⟨entries, rfl, hlists⟩⟩

end Decoder.Documented

end DeviceStatus.Settings
