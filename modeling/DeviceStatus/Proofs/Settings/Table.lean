import DeviceStatus.Proofs.Json.Grammar
import DeviceStatus.Settings.Table
import Mathlib.Data.List.Sort
import Mathlib.Data.String.Basic

/-!
# Tables as they are written

A table is known by the values that it holds, since its entries are in order. Written as members of
an object, keys and integers in the range of a signed 32-bit word, it holds under each key the
integer that is written last (`ListsTable`), and members spell one table only.
-/

namespace DeviceStatus.Settings

open Json

/-! ## A table by its values -/

theorem mem_of_lookupEntry {key : String} {value : Int32} {entries : List Entry}
    (h : lookupEntry key entries = some value) : (key, value) ∈ entries := by
  induction entries with
  | nil => cases h
  | cons head rest ih =>
    obtain ⟨k, v⟩ := head
    unfold lookupEntry at h
    split at h
    · next heq =>
      rw [heq, Option.some.inj h]
      exact List.mem_cons_self
    · exact List.mem_cons_of_mem _ (ih h)

theorem lookupEntry_of_mem {key : String} {value : Int32} {entries : List Entry}
    (hsorted : Sorted entries) (h : (key, value) ∈ entries) :
    lookupEntry key entries = some value := by
  induction entries with
  | nil => cases h
  | cons head rest ih =>
    obtain ⟨k, v⟩ := head
    obtain ⟨hless, hrest⟩ := List.pairwise_cons.1 hsorted
    rcases List.mem_cons.1 h with heq | hmem
    · obtain ⟨rfl, rfl⟩ := Prod.mk.inj heq
      exact if_pos rfl
    · rw [lookupEntry, if_neg (ne_of_lt (hless _ hmem)), ih hrest hmem]

theorem Table.mem_entries_iff (t : Table) (e : Entry) : e ∈ t.entries ↔ t.get? e.1 = some e.2 :=
  ⟨lookupEntry_of_mem t.sorted, mem_of_lookupEntry⟩

/-- Two tables with the same values are one. -/
theorem Table.ext_get? {t u : Table} (h : ∀ key, t.get? key = u.get? key) : t = u := by
  have : Std.Irrefl fun a b : Entry => a.1 < b.1 := ⟨fun a => lt_irrefl a.1⟩
  have : Std.Antisymm fun a b : Entry => a.1 < b.1 := ⟨fun _ _ hab hba => absurd hab hba.asymm⟩
  have hentries : t.entries = u.entries := List.Pairwise.eq_of_mem_iff t.sorted u.sorted fun e => by
    rw [t.mem_entries_iff, u.mem_entries_iff, h]
  cases t
  cases u
  congr

/-! ## A table by what is written -/

/-- Members of an object spell a table: they have keys and integers in range, and under each key
counts the last one. -/
structure ListsTable (entries : List (Letters × Value)) (t : Table) : Prop where
  /-- The keys spell strings. -/
  keys : ∀ m ∈ entries, ∃ key, m.1.value? = some key
  /-- Each value is the integer of a word, also where another one follows. -/
  values : ∀ m ∈ entries, ∃ x : Int32, m.2.integer? = some x.toInt
  /-- The table holds what is written last. -/
  get?_eq_some_iff : ∀ (key : String) (x : Int32),
    t.get? key = some x ↔
      ∃ v, (valuesUnder key entries).getLast? = some v ∧ v.integer? = some x.toInt

theorem valuesUnder_append (name : String) (members more : List (Letters × Value)) :
    valuesUnder name (members ++ more) = valuesUnder name members ++ valuesUnder name more := by
  simp [valuesUnder]

theorem valuesUnder_cons_of_eq {name : String} {m : Letters × Value} (h : m.1.value? = some name)
    (members : List (Letters × Value)) :
    valuesUnder name (m :: members) = m.2 :: valuesUnder name members := by
  simp [valuesUnder, h]

theorem valuesUnder_cons_of_ne {name : String} {m : Letters × Value} (h : m.1.value? ≠ some name)
    (members : List (Letters × Value)) :
    valuesUnder name (m :: members) = valuesUnder name members := by
  simp [valuesUnder, h]

theorem listsTable_nil : ListsTable [] .empty where
  keys := by simp
  values := by simp
  get?_eq_some_iff key x := by simp [valuesUnder, Table.get?_empty]

/-- One more member at the end. -/
theorem ListsTable.insert {entries : List (Letters × Value)} {t : Table} (h : ListsTable entries t)
    {m : Letters × Value} {key : String} {x : Int32} (hkey : m.1.value? = some key)
    (hx : m.2.integer? = some x.toInt) : ListsTable (entries ++ [m]) (t.insert key x) := by
  refine ⟨fun m' hm' => ?_, fun m' hm' => ?_, fun k y => ?_⟩
  · rcases List.mem_append.1 hm' with hm' | hm'
    · exact h.keys m' hm'
    · exact ⟨key, by rw [List.mem_singleton.1 hm', hkey]⟩
  · rcases List.mem_append.1 hm' with hm' | hm'
    · exact h.values m' hm'
    · exact ⟨x, by rw [List.mem_singleton.1 hm', hx]⟩
  · rw [Table.get?_insert, valuesUnder_append]
    by_cases hk : key = k
    · subst hk
      have hlast : valuesUnder key [m] = [m.2] := valuesUnder_cons_of_eq hkey []
      simp [hlast, hx, Int32.toInt_inj]
    · have hlast : valuesUnder k [m] = [] := valuesUnder_cons_of_ne (by simpa [hkey] using hk) []
      rw [if_neg hk, hlast, List.append_nil]
      exact h.get?_eq_some_iff k y

/-- Members spell one table only. -/
theorem ListsTable.unique {entries : List (Letters × Value)} {t u : Table}
    (ht : ListsTable entries t) (hu : ListsTable entries u) : t = u :=
  Table.ext_get? fun key => Option.ext fun x =>
    (ht.get?_eq_some_iff key x).trans (hu.get?_eq_some_iff key x).symm

end DeviceStatus.Settings
