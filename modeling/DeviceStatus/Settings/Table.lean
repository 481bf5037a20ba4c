/-!
# Tables of settings

A finite map from keys to signed 32-bit words. The entries are kept in the order of their keys, each
key once, so two tables are equal exactly when they hold the same entries.
-/

namespace DeviceStatus.Settings

/-- A setting as it is stored: its key and its value. -/
abbrev Entry := String × Int32

/-- The entries with the value of one key replaced or added, in order. -/
def insertEntry (key : String) (value : Int32) : List Entry → List Entry
  | [] => [(key, value)]
  | (k, v) :: rest =>
    if key < k then (key, value) :: (k, v) :: rest
    else if key = k then (key, value) :: rest
    else (k, v) :: insertEntry key value rest

/-- The value under a key. -/
def lookupEntry (key : String) : List Entry → Option Int32
  | [] => none
  | (k, v) :: rest => if k = key then some v else lookupEntry key rest

theorem mem_insertEntry {key : String} {value : Int32} {entries : List Entry} {e : Entry}
    (h : e ∈ insertEntry key value entries) : e = (key, value) ∨ e ∈ entries := by
  induction entries with
  | nil => simpa [insertEntry] using h
  | cons head rest ih =>
    obtain ⟨k, v⟩ := head
    unfold insertEntry at h
    split at h
    · simpa using h
    · split at h
      · rcases List.mem_cons.1 h with h | h
        · exact .inl h
        · exact .inr (List.mem_cons_of_mem _ h)
      · rcases List.mem_cons.1 h with h | h
        · exact .inr (h ▸ List.mem_cons_self)
        · exact (ih h).imp_right (List.mem_cons_of_mem _)

/-- Whether entries are in the order of their keys. -/
def Sorted (entries : List Entry) : Prop := entries.Pairwise fun a b => a.1 < b.1

theorem sorted_insertEntry {key : String} {value : Int32} {entries : List Entry}
    (h : Sorted entries) : Sorted (insertEntry key value entries) := by
  induction entries with
  | nil => simp [insertEntry, Sorted]
  | cons head rest ih =>
    obtain ⟨k, v⟩ := head
    have hrest : Sorted rest := (List.pairwise_cons.1 h).2
    have hhead : ∀ e ∈ rest, k < e.1 := (List.pairwise_cons.1 h).1
    unfold insertEntry
    split
    · rename_i hlt
      refine List.pairwise_cons.2 ⟨fun e he => ?_, h⟩
      rcases List.mem_cons.1 he with rfl | he
      · exact hlt
      · exact String.lt_trans hlt (hhead e he)
    · rename_i hnlt
      split
      · rename_i heq
        subst heq
        exact List.pairwise_cons.2 ⟨hhead, hrest⟩
      · rename_i hne
        have hgt : k < key := Std.lt_of_le_of_ne (String.not_lt.1 hnlt) (Ne.symm hne)
        refine List.pairwise_cons.2 ⟨fun e he => ?_, ih hrest⟩
        rcases mem_insertEntry he with rfl | he
        · exact hgt
        · exact hhead e he

/-- A finite map from keys to values. -/
structure Table where
  /-- The entries, in the order of their keys. -/
  entries : List Entry
  /-- Each key stands before all greater ones, so it occurs once. -/
  sorted : Sorted entries
deriving DecidableEq

namespace Table

/-- The table without entries. -/
def empty : Table := ⟨[], List.Pairwise.nil⟩

instance : Inhabited Table := ⟨empty⟩

/-- The value stored under a key. -/
def get? (t : Table) (key : String) : Option Int32 := lookupEntry key t.entries

/-- The table with a value stored under a key, in place of an earlier one. -/
def insert (t : Table) (key : String) (value : Int32) : Table :=
  ⟨insertEntry key value t.entries, sorted_insertEntry t.sorted⟩

theorem get?_empty (key : String) : empty.get? key = none := rfl

theorem lookupEntry_insertEntry (key : String) (value : Int32) (entries : List Entry) (k : String) :
    lookupEntry k (insertEntry key value entries) =
      if key = k then some value else lookupEntry k entries := by
  induction entries with
  | nil => rfl
  | cons head rest ih => grind [insertEntry, lookupEntry]

/-- A stored value is read back, and no other key is touched. -/
theorem get?_insert (t : Table) (key : String) (value : Int32) (k : String) :
    (t.insert key value).get? k = if key = k then some value else t.get? k :=
  lookupEntry_insertEntry key value t.entries k

end Table

end DeviceStatus.Settings
