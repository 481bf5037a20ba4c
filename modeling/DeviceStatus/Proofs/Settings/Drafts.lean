import DeviceStatus.Proofs.Settings.Reading

/-!
# The standard decoder is as documented

A draft holds the table of a part of the store if it is given once, and none if it is not given; no
draft is made if a table is given twice, or if something else than a table is given for one. So the
snapshots of drafts are those that a decoder should make (`Decoder.documented_standard`).
-/

namespace DeviceStatus.Settings

open Json

/-! ## The tables of a draft -/

theorem Namespace.ofName?_eq_some_iff {name : String} {area : Namespace} :
    ofName? name = some area ↔ name = area.name := by
  unfold ofName? Namespace.name
  cases area <;> grind

/-- What is given takes the place of a table that has not been met: one table, or nothing, which
leaves the place as it is. -/
def Fills (before : Option Table) (given : List Data) (after : Option Table) : Prop :=
  (given = [] ∧ after = before) ∨
    (before = none ∧ ∃ data t, given = [data] ∧ tableOf? data = some t ∧ after = some t)

theorem fills_nil_iff {before after : Option Table} : Fills before [] after ↔ after = before := by
  simp [Fills]

theorem fills_none_cons_iff {data : Data} {given : List Data} {after : Option Table} :
    Fills none (data :: given) after ↔
      ∃ t, tableOf? data = some t ∧ Fills (some t) given after := by
  simp only [Fills, List.cons.injEq, reduceCtorEq, false_and, false_or, or_false, true_and]
  constructor
  · rintro ⟨_, t, ⟨rfl, rfl⟩, ht, rfl⟩
    exact ⟨t, ht, rfl, rfl⟩
  · rintro ⟨t, ht, rfl, rfl⟩
    exact ⟨data, t, ⟨rfl, rfl⟩, ht, rfl⟩

theorem fills_none_singleton_iff {data : Data} {after : Option Table} :
    Fills none [data] after ↔ ∃ t, tableOf? data = some t ∧ after = some t := by
  simp only [fills_none_cons_iff, fills_nil_iff]

theorem not_fills_some_cons {t : Table} {data : Data} {given : List Data} {after : Option Table} :
    ¬ Fills (some t) (data :: given) after := by
  simp [Fills]

/-- What fills the place of a table gives the table that is found there. -/
theorem Fills.gives {given : List Data} {after : Option Table} (h : Fills none given after) :
    Decoder.standard.Gives given (after.getD .empty) := by
  rcases h with ⟨hnone, rfl⟩ | ⟨-, data, t, hdata, ht, rfl⟩
  · exact .inl ⟨hnone, rfl⟩
  · exact .inr ⟨data, hdata, ht⟩

/-- What gives a table fills a place. -/
theorem exists_fills {given : List Data} {t : Table} (h : Decoder.standard.Gives given t) :
    ∃ after : Option Table, after.getD .empty = t ∧ Fills none given after := by
  rcases h with ⟨hnone, hempty⟩ | ⟨data, hdata, ht⟩
  · exact ⟨none, hempty.symm, .inl ⟨hnone, rfl⟩⟩
  · exact ⟨some t, rfl, .inr ⟨rfl, data, t, hdata, ht, rfl⟩⟩

variable {entry : Option String × Data}

/-- An entry with the name of a table stands under this name only. -/
theorem dataUnder_cons_of_name {area : Namespace} (h : entry.1 = some area.name)
    (entries : List (Option String × Data)) (other : Namespace) :
    dataUnder other.name (entry :: entries) =
      if other = area then entry.2 :: dataUnder area.name entries
      else dataUnder other.name entries := by
  cases area <;> cases other <;> simp [dataUnder, h, Namespace.name]

/-- An entry with another name stands under that of no table. -/
theorem dataUnder_cons_of_ofName?_eq_none {name : String} (hname : entry.1 = some name)
    (h : Namespace.ofName? name = none) (entries : List (Option String × Data))
    (area : Namespace) :
    dataUnder area.name (entry :: entries) = dataUnder area.name entries := by
  have hne : name ≠ area.name := by
    intro heq
    rw [Namespace.ofName?_eq_some_iff.2 heq] at h
    cases h
  simp [dataUnder, hname, hne]

@[simp] theorem Draft.table?_setTable (d : Draft) (area other : Namespace) (t : Table) :
    (d.setTable area t).table? other = if other = area then some t else d.table? other := by
  cases area <;> cases other <;> rfl

theorem Draft.table?_empty (area : Namespace) : ({} : Draft).table? area = none := by
  cases area <;> rfl

theorem Draft.table_snapshot (d : Draft) (area : Namespace) :
    d.snapshot.table area = (d.table? area).getD .empty := by
  cases area <;> rfl

theorem Draft.ext_table? {d e : Draft} (h : ∀ area, d.table? area = e.table? area) : d = e := by
  cases d
  cases e
  exact congrArg₂ Draft.mk (h .secure) (h .system)

/-- An entry with another name adds nothing. -/
theorem Draft.add?_of_ofName?_eq_none {name : String} (hname : entry.1 = some name)
    (h : Namespace.ofName? name = none) (d : Draft) : d.add? entry = some d := by
  simp [add?, hname, h]

/-- An entry with the name of a table adds a table that has not been met. -/
theorem Draft.add?_of_name {area : Namespace} (hname : entry.1 = some area.name) (d : Draft) :
    d.add? entry =
      if d.table? area = none then (tableOf? entry.2).map (d.setTable area) else none := by
  have harea := Namespace.ofName?_eq_some_iff.2 (rfl : area.name = area.name)
  cases htable : d.table? area <;> simp [add?, hname, harea, htable]

/-- The tables of a draft and of what it becomes, behind an entry with the name of a table. -/
theorem forall_fills_cons {area : Namespace} (hname : entry.1 = some area.name) {d : Draft}
    (htable : d.table? area = none) (entries : List (Option String × Data)) (d' : Draft) :
    (∀ other : Namespace,
        Fills (d.table? other) (dataUnder other.name (entry :: entries)) (d'.table? other)) ↔
      ∃ t, tableOf? entry.2 = some t ∧ ∀ other : Namespace,
        Fills ((d.setTable area t).table? other) (dataUnder other.name entries)
          (d'.table? other) := by
  simp only [dataUnder_cons_of_name hname, Draft.table?_setTable]
  constructor
  · intro h
    have harea := h area
    rw [if_pos rfl, htable, fills_none_cons_iff] at harea
    obtain ⟨t, ht, harea⟩ := harea
    refine ⟨t, ht, fun other => ?_⟩
    by_cases hother : other = area
    · subst hother
      rwa [if_pos rfl]
    · simpa [hother] using h other
  · rintro ⟨t, ht, h⟩ other
    by_cases hother : other = area
    · subst hother
      have harea := h other
      rw [if_pos rfl] at harea
      rw [if_pos rfl, htable, fills_none_cons_iff]
      exact ⟨t, ht, harea⟩
    · simpa [hother] using h other

/-- No table is given twice. -/
theorem not_forall_fills_cons {area : Namespace} (hname : entry.1 = some area.name) {d : Draft}
    (htable : d.table? area ≠ none) (entries : List (Option String × Data)) (d' : Draft) :
    ¬ ∀ other : Namespace,
      Fills (d.table? other) (dataUnder other.name (entry :: entries)) (d'.table? other) := by
  intro h
  obtain ⟨t, ht⟩ := Option.ne_none_iff_exists'.1 htable
  have harea := h area
  rw [ht, dataUnder_cons_of_name hname, if_pos rfl] at harea
  exact not_fills_some_cons harea

/-- A draft is filled by the entries that are read one by one. -/
theorem foldlM_draft_eq_some_iff (entries : List (Option String × Data)) (d d' : Draft) :
    entries.foldlM Draft.add? d = some d' ↔
      (∀ e ∈ entries, e.1.isSome) ∧
        ∀ area : Namespace,
          Fills (d.table? area) (dataUnder area.name entries) (d'.table? area) := by
  induction entries generalizing d with
  | nil =>
    have hsame : some d = some d' ↔ ∀ area, d'.table? area = d.table? area :=
      ⟨by rintro ⟨⟩ area; rfl, fun h => congrArg some (Draft.ext_table? fun area => (h area).symm)⟩
    simpa [dataUnder, fills_nil_iff] using hsame
  | cons entry entries ih =>
    rw [List.foldlM_cons, List.forall_mem_cons]
    cases hname : entry.1 with
    | none => simp [Draft.add?, hname]
    | some name =>
      simp only [Option.isSome_some, true_and]
      cases harea : Namespace.ofName? name with
      | none =>
        simpa [Draft.add?_of_ofName?_eq_none hname harea,
          dataUnder_cons_of_ofName?_eq_none hname harea] using ih d
      | some area =>
        obtain rfl := Namespace.ofName?_eq_some_iff.1 harea
        rw [Draft.add?_of_name hname]
        by_cases htable : d.table? area = none
        · rw [if_pos htable, forall_fills_cons hname htable]
          simp only [bind, Option.bind_map, Option.bind_eq_some_iff, Function.comp_apply, ih]
          tauto
        · rw [if_neg htable]
          simp [not_forall_fills_cons hname htable]

/-! ## The snapshots of drafts -/

/-- The tables of a snapshot are those of one of its drafts. -/
theorem exists_draft_iff {given : Namespace → List Data} {s : Snapshot} :
    (∃ d : Draft, (∀ area, Fills none (given area) (d.table? area)) ∧ d.snapshot = s) ↔
      ∀ area, Decoder.standard.Gives (given area) (s.table area) := by
  constructor
  · rintro ⟨d, hd, rfl⟩ area
    rw [Draft.table_snapshot]
    exact (hd area).gives
  · intro h
    obtain ⟨secure, hsecure, hsecureFills⟩ := exists_fills (h .secure)
    obtain ⟨system, hsystem, hsystemFills⟩ := exists_fills (h .system)
    refine ⟨⟨secure, system⟩, fun area => ?_, ?_⟩
    · cases area
      · exact hsecureFills
      · exact hsystemFills
    · cases s
      exact congrArg₂ Snapshot.mk hsecure hsystem

theorem Namespace.forall_iff {p : Namespace → Prop} : (∀ area, p area) ↔ p .secure ∧ p .system :=
  ⟨fun h => ⟨h .secure, h .system⟩, fun h area => by cases area <;> simp [h]⟩

/-- A draft is made of a sequence whose elements fill the tables at their places. -/
theorem draftOf?_sequence_eq_some_iff (elements : List Data) (d : Draft) :
    draftOf? (.sequence elements) = some d ↔ elements.length ≤ 2 ∧
      ∀ area : Namespace, Fills none elements[area.place]?.toList (d.table? area) := by
  obtain ⟨secure?, system?⟩ := d
  rw [Namespace.forall_iff]
  match elements with
  | [] => simp [draftOf?, Namespace.place, Draft.table?, fills_nil_iff, eq_comm]
  | [secure] =>
    show (tableOf? secure).map (fun t => (⟨some t, none⟩ : Draft)) = _ ↔
      _ ∧ Fills none [secure] secure? ∧ Fills none [] system?
    rw [Option.map_eq_some_iff, fills_none_singleton_iff, fills_nil_iff]
    grind
  | [secure, system] =>
    show ((tableOf? secure).bind fun t => (tableOf? system).bind fun u =>
        some (⟨some t, some u⟩ : Draft)) = _ ↔
      _ ∧ Fills none [secure] secure? ∧ Fills none [system] system?
    simp only [Option.bind_eq_some_iff, fills_none_singleton_iff]
    grind
  | _ :: _ :: _ :: rest => simp [draftOf?]

/-- The standard decoder makes words, tables and snapshots of the data that is documented. -/
theorem Decoder.documented_standard : Decoder.standard.Documented where
  int32_eq_some_iff data x := int32Of?_eq_some_iff
  table_eq_some_iff data t := by
    show tableOf? data = some t ↔ ∃ entries : List (Option String × Data), _
    cases data <;> simp [tableOf?, standard]
  snapshot_eq_some_iff data s := by
    show (draftOf? data).map Draft.snapshot = some s ↔ _
    rw [Option.map_eq_some_iff]
    cases data with
    | word | integer | real | text => simp [draftOf?]
    | map entries =>
      simp only [draftOf?, foldlM_draft_eq_some_iff, Draft.table?_empty, and_assoc,
        exists_and_left, exists_draft_iff]
      simp
    | sequence elements =>
      simp only [draftOf?_sequence_eq_some_iff, and_assoc, exists_and_left, exists_draft_iff]
      simp

end DeviceStatus.Settings
