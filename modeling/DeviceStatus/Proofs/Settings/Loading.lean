import DeviceStatus.Proofs.Json.Spelling
import DeviceStatus.Proofs.Settings.Drafts

/-!
# What a file is loaded as

A snapshot is loaded from every text that lists its tables, however the text is written, and each
snapshot has such a text. A loaded table holds under each key the integer that is written last; one
value that is not such an integer is enough for nothing to be loaded, also where another value
follows under its key. This holds of every reader that reads JSON and of every decoder that is as
documented, so it holds of the standard ones.
-/

namespace DeviceStatus.Settings

open Json

/-- The members of an object list the tables of a snapshot, among members with other names. -/
structure Lists (members : List (Letters × Value)) (s : Snapshot) : Prop where
  /-- The names spell strings. -/
  names : ∀ m ∈ members, ∃ name, m.1.value? = some name
  /-- A table is listed once, or it is empty and left out. -/
  tables : ∀ area, (valuesUnder area.name members = [] ∧ s.table area = .empty) ∨
    ∃ entries, valuesUnder area.name members = [.object entries] ∧ ListsTable entries (s.table area)

/-- The values that stand for the table of a part of the store: those under its name in an object,
and the one at its place in an array. -/
def valuesOf (area : Namespace) : Value → List Value
  | .object members => valuesUnder area.name members
  | .array elements => elements[area.place]?.toList
  | _ => []

/-! ## What snapshots are made of -/

namespace Decoder.Documented

variable {d : Decoder} (h : d.Documented)
include h

/-- A snapshot is made of the objects that list it. -/
theorem snapshot_object_eq_some_iff {members : List (Letters × Value)} {s : Snapshot} :
    d.snapshot (Value.object members).data = some s ↔ Lists members s := by
  have hnames : (∀ e ∈ memberData members, e.1.isSome) ↔
      ∀ m ∈ members, ∃ name, m.1.value? = some name := by
    rw [memberData_eq_map, List.forall_mem_map]
    simp only [Option.isSome_iff_exists]
  rw [h.snapshot_eq_some_iff]
  simp only [Value.data, Data.map.injEq, reduceCtorEq, false_and, exists_false, or_false,
    exists_eq_left', dataUnder_memberData, h.gives_data_iff, hnames]
  exact ⟨fun hlists => ⟨hlists.1, hlists.2⟩, fun hlists => ⟨hlists.names, hlists.tables⟩⟩

/-- The tables of a snapshot are what stands for them: one table each, or nothing. -/
theorem table_of_snapshot {v : Value} {s : Snapshot} (hs : d.snapshot v.data = some s)
    (area : Namespace) :
    (valuesOf area v = [] ∧ s.table area = .empty) ∨
      ∃ entries, valuesOf area v = [.object entries] ∧ ListsTable entries (s.table area) := by
  rw [← h.gives_data_iff]
  rcases (h.snapshot_eq_some_iff _ _).1 hs with ⟨_, hdata, -, hgives⟩ | ⟨_, hdata, -, hgives⟩
  · obtain ⟨members, rfl, rfl⟩ := Value.data_eq_map_iff.1 hdata
    rw [valuesOf, ← dataUnder_memberData]
    exact hgives area
  · obtain ⟨elements, rfl, rfl⟩ := Value.data_eq_sequence_iff.1 hdata
    have hplace : (elementData elements)[area.place]?.toList =
        (valuesOf area (.array elements)).map Value.data := by
      rw [elementData_eq_map, List.getElem?_map, Option.toList_map]
      rfl
    rw [← hplace]
    exact hgives area

end Decoder.Documented

/-! ## Files -/

section Files

variable {read : List UInt8 → Except Fault Snapshot} {octets : List UInt8}

theorem Snapshot.loadWith_eq (read : List UInt8 → Except Fault Snapshot) (octets : List UInt8) :
    Snapshot.loadWith read (.ok octets) = (read octets).mapError .unreadable := by
  unfold Snapshot.loadWith
  dsimp only
  cases read octets <;> rfl

theorem Snapshot.loadWith_eq_ok_iff {s : Snapshot} :
    Snapshot.loadWith read (.ok octets) = .ok s ↔ read octets = .ok s := by
  rw [Snapshot.loadWith_eq]
  cases read octets <;> simp [Except.mapError]

theorem Snapshot.loadWith_eq_error_of_ne
    (h : ∀ s, Snapshot.loadWith read (.ok octets) ≠ .ok s) :
    ∃ fault, Snapshot.loadWith read (.ok octets) = .error (.unreadable fault) := by
  cases hread : read octets with
  | ok s => exact absurd (Snapshot.loadWith_eq_ok_iff.2 hread) (h s)
  | error fault => exact ⟨fault, by rw [Snapshot.loadWith_eq, hread]; rfl⟩

end Files

/-! ## Every snapshot can be written -/

/-- A setting as a member of an object. -/
def Entry.member (e : Entry) : Letters × Value := (.ofString e.1, .number (.ofInt e.2.toInt))

/-- The settings of a table as members of an object. -/
def Table.members (t : Table) : List (Letters × Value) := t.entries.map Entry.member

/-- The tables of a snapshot as members of an object. -/
def Snapshot.members (s : Snapshot) : List (Letters × Value) :=
  [(.ofString Namespace.secure.name, .object s.secure.members),
    (.ofString Namespace.system.name, .object s.system.members)]

theorem getLast?_valuesUnder_member {entries : List Entry} (h : Sorted entries) (key : String) :
    (valuesUnder key (entries.map Entry.member)).getLast? =
      (lookupEntry key entries).map fun x => .number (.ofInt x.toInt) := by
  induction entries with
  | nil => rfl
  | cons e entries ih =>
    obtain ⟨k, x⟩ := e
    obtain ⟨hless, hentries⟩ := List.pairwise_cons.1 h
    have hname : (Entry.member (k, x)).1.value? = some k := Letters.value?_ofString k
    by_cases hk : k = key
    · subst hk
      have hothers : valuesUnder k (entries.map Entry.member) = [] := by
        simp only [valuesUnder, List.map_eq_nil_iff, List.filter_eq_nil_iff, List.forall_mem_map]
        intro e he
        simpa [Entry.member] using (ne_of_lt (hless e he)).symm
      rw [List.map_cons, valuesUnder_cons_of_eq hname, hothers, lookupEntry, if_pos rfl]
      rfl
    · rw [List.map_cons, valuesUnder_cons_of_ne (by simpa [hname] using hk), ih hentries,
        lookupEntry, if_neg hk]

theorem Table.listsTable_members (t : Table) : ListsTable t.members t where
  keys := by
    rw [members, List.forall_mem_map]
    exact fun e _ => ⟨e.1, Letters.value?_ofString e.1⟩
  values := by
    rw [members, List.forall_mem_map]
    exact fun e _ => ⟨e.2, Number.integer?_ofInt e.2.toInt⟩
  get?_eq_some_iff key x := by
    have hinteger : ∀ i, (Value.number (.ofInt i)).integer? = some i := Number.integer?_ofInt
    rw [members, getLast?_valuesUnder_member t.sorted, get?]
    cases lookupEntry key t.entries with
    | none => simp
    | some y => simp [hinteger, Int32.toInt_inj]

/-- Every snapshot is listed by members of an object. -/
theorem Snapshot.lists_members (s : Snapshot) : Lists s.members s where
  names := by simp [members]
  tables area := by
    refine .inr ⟨(s.table area).members, ?_, (s.table area).listsTable_members⟩
    cases area <;> simp [valuesUnder, members, Namespace.name, table]

/-- Every snapshot has a text that lists it. -/
theorem Snapshot.exists_text (s : Snapshot) :
    ∃ members octets, Lists members s ∧ IsTextOf octets (.object members) :=
  ⟨s.members, _, s.lists_members, isTextOf_octets _⟩

/-! ## Loading -/

section Loading

variable {read : List UInt8 → Except Fault Snapshot} {d : Decoder} {octets : List UInt8}

/-- A snapshot is loaded from every text that lists its tables. -/
theorem load_listed (hread : ReadsJson read d) (hd : d.Documented)
    {members : List (Letters × Value)} {s : Snapshot} (hlists : Lists members s)
    (htext : IsTextOf octets (.object members)) :
    Snapshot.loadWith read (.ok octets) = .ok s := by
  rw [Snapshot.loadWith_eq_ok_iff, hread octets _ htext]
  exact hd.snapshot_object_eq_some_iff.2 hlists

/-- The text is one of these members, which list the snapshot: the name of the table and one of its
keys are escaped, the key is repeated, and another member holds a number that is out of range. -/
theorem load_listed_escaped :
    let smile : Letters := [.unit (.ofNat 0xd83d), .unit (.ofNat 0xde00)]
    let system : Letters := Letters.ofString "syst" ++ .unit (.ofNat 0x65) :: Letters.ofString "m"
    let huge : Number := ⟨false, .ofNat 1, by decide, none, some ⟨false, none, .ofNat 400⟩⟩
    let members : List (Letters × Value) :=
      [(system, .object [(smile, .number (.ofInt 7)),
          (.ofString "😀", .number (.ofInt (-2147483648)))]),
        (.ofString "x", .array [.word .null, .object [(.ofString "secure", .number huge)]])]
    let octets := Utf8.encode
      (" \x7b\t\"syst\\u0065m\" : \x7b\"\\ud83d\\ude00\":7, \"😀\":-2147483648\x7d,\n" ++
        "\"x\":[null,\x7b\"secure\":1e400\x7d]\x7d\r\n")
    let s : Snapshot := ⟨.empty, Table.empty.insert "😀" (-2147483648)⟩
    ReadsJson Snapshot.ofJson .standard ∧ Decoder.standard.Documented ∧ Lists members s ∧
      IsTextOf octets (.object members) ∧ Snapshot.load (.ok octets) = .ok s := by
  intro smile system huge members octets s
  have hlast : (Table.empty.insert "😀" 7).insert "😀" (-2147483648) = s.system :=
    Table.ext_get? fun key => by simp only [s, Table.get?_insert]; split <;> rfl
  have hlists : Lists members s := by
    refine ⟨?_, fun area => ?_⟩
    · exact List.forall_mem_cons.2 ⟨⟨"system", by decide⟩,
        List.forall_mem_cons.2 ⟨⟨"x", by decide⟩, by simp⟩⟩
    · cases area with
      | secure => exact .inl ⟨rfl, rfl⟩
      | system =>
        exact .inr ⟨_, rfl,
          Decoder.documented_standard.foldlM_put?_eq_some_iff.1 (congrArg some hlast)⟩
  have htext : IsTextOf octets (.object members) := by decide
  exact ⟨Snapshot.readsJson_ofJson, Decoder.documented_standard, hlists, htext,
    load_listed Snapshot.readsJson_ofJson Decoder.documented_standard hlists htext⟩

/-- A loaded table holds under each key the integer that is written last, and a table with a value
that is no integer in range is not loaded. -/
theorem loaded_as_written (hread : ReadsJson read d) (hd : d.Documented) {v : Value}
    (htext : IsTextOf octets v) :
    (∀ s, Snapshot.loadWith read (.ok octets) = .ok s → ∀ area key (x : Int32),
      (s.table area).get? key = some x ↔
        ∃ entries w, valuesOf area v = [.object entries] ∧
          (valuesUnder key entries).getLast? = some w ∧ w.integer? = some x.toInt) ∧
    (∀ area entries m, .object entries ∈ valuesOf area v → m ∈ entries →
      (∀ x : Int32, m.2.integer? ≠ some x.toInt) →
        ∃ fault, Snapshot.loadWith read (.ok octets) = .error (.unreadable fault)) := by
  have htables : ∀ s, Snapshot.loadWith read (.ok octets) = .ok s → ∀ area, _ := fun s hload =>
    hd.table_of_snapshot ((hread octets v htext s).1 (Snapshot.loadWith_eq_ok_iff.1 hload))
  constructor
  · intro s hload area key x
    rcases htables s hload area with ⟨hnone, hempty⟩ | ⟨entries, hvalue, hlists⟩
    · simp [hnone, hempty, Table.get?_empty]
    · rw [hlists.get?_eq_some_iff, hvalue]
      simp
  · intro area entries m hentries hm hvalue
    refine Snapshot.loadWith_eq_error_of_ne fun s hload => ?_
    rcases htables s hload area with ⟨hnone, -⟩ | ⟨others, hothers, hlists⟩
    · rw [hnone] at hentries
      cases hentries
    · rw [hothers, List.mem_singleton] at hentries
      cases hentries
      obtain ⟨x, hx⟩ := hlists.values m hm
      exact hvalue x hx

/-- Of a repeated key the last value is loaded, and nothing at all if its first value is the
negative of zero. -/
theorem loaded_as_written_repeated :
    let key : Letters := .ofString "k"
    let repeated := Value.array [.object [(key, .number (.ofInt 3)), (key, .number (.ofInt (-7)))]]
    let negativeZero : Value := .number ⟨true, .ofNat 0, by decide, none, none⟩
    let hidden := Value.object
      [(.ofString "secure", .object [(key, negativeZero), (key, .number (.ofInt 1))])]
    let octets := Utf8.encode "[\x7b\"k\":3,\"k\":-7\x7d]"
    let others := Utf8.encode "\x7b\"secure\":\x7b\"k\":-0,\"k\":1\x7d\x7d"
    let s : Snapshot := ⟨(Table.empty.insert "k" 3).insert "k" (-7), .empty⟩
    ReadsJson Snapshot.ofJson .standard ∧ Decoder.standard.Documented ∧
      (IsTextOf octets repeated ∧ Snapshot.load (.ok octets) = .ok s ∧
        (s.table .secure).get? "k" = some (-7)) ∧
      IsTextOf others hidden ∧
        ∃ fault, Snapshot.load (.ok others) = .error (.unreadable fault) := by
  intro key repeated negativeZero hidden octets others s
  have hread := Snapshot.readsJson_ofJson
  have hd := Decoder.documented_standard
  have htext : IsTextOf octets repeated := by decide
  have hothers : IsTextOf others hidden := by decide
  have hload : Snapshot.load (.ok octets) = .ok s :=
    Snapshot.loadWith_eq_ok_iff.2 ((hread octets _ htext s).2 rfl)
  have hvalues := (loaded_as_written hread hd htext).1 s hload .secure "k" (-7)
  have hfails := (loaded_as_written hread hd hothers).2 .secure
    [(key, negativeZero), (key, .number (.ofInt 1))] (key, negativeZero)
  refine ⟨hread, hd, ⟨htext, hload, hvalues.2 ⟨_, _, rfl, rfl, by decide⟩⟩, hothers,
    hfails ?_ ?_ ?_⟩
  · exact List.mem_singleton.2 rfl
  · exact List.mem_cons_self
  · intro x hx
    cases hx

end Loading

end DeviceStatus.Settings
