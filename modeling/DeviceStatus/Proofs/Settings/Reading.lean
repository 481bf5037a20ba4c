import DeviceStatus.Proofs.Settings.Decoder
import DeviceStatus.Proofs.Settings.Passing

/-!
# What a text is read as

The standard decoder makes drafts by reading entries one by one (`draftOf?`). The automaton does the
same with a text that has not been taken apart: behind a table it holds what the decoder makes of
the table, and behind a member of the object the draft to which the member has been added. So the
reader reads JSON (`Snapshot.readsJson_ofJson`).
-/

namespace DeviceStatus.Settings

open Json

/-! ## The standard decoder -/

/-- The word that an integer fits into. -/
def int32Of? : Data → Option Int32
  | .integer i => if Numeral.fitsInt32 i then some (Int32.ofInt i) else none
  | _ => none

/-- The table of the entries of a map. -/
def tableOf? : Data → Option Table
  | .map entries => entries.foldlM (Table.put? int32Of?) .empty
  | _ => none

/-- The draft with what an entry adds to it, if it may stand there: a table under a name that has
not been met, or anything under another name. -/
def Draft.add? (d : Draft) (entry : Option String × Data) : Option Draft := do
  let name ← entry.1
  match Namespace.ofName? name with
  | none => pure d
  | some area =>
    match d.table? area with
    | none => (tableOf? entry.2).map (d.setTable area)
    | some _ => none

/-- The draft of the entries of a map or the elements of a sequence. -/
def draftOf? : Data → Option Draft
  | .map entries => entries.foldlM Draft.add? {}
  | .sequence [] => some {}
  | .sequence [secure] => (tableOf? secure).map fun t => ({} : Draft).setTable .secure t
  | .sequence [secure, system] => do
    let t ← tableOf? secure
    let u ← tableOf? system
    pure ((({} : Draft).setTable .secure t).setTable .system u)
  | _ => none

/-- The standard decoder. -/
def Decoder.standard : Decoder where
  int32 := int32Of?
  table := tableOf?
  snapshot data := (draftOf? data).map Draft.snapshot

theorem int32Of?_eq_some_iff {data : Data} {x : Int32} :
    int32Of? data = some x ↔ data = .integer x.toInt := by
  cases data with
  | integer i => exact Numeral.ofInt_eq_some_iff.trans (by rw [Data.integer.injEq])
  | word | real | text | sequence | map => simp [int32Of?]

/-! ## What lexemes amount to -/

theorem toOption_eq_some_iff {ε α : Type} {r : Except ε α} {a : α} :
    r.toOption = some a ↔ r = .ok a := by
  cases r <;> simp [Except.toOption]

theorem toOption_kept (t : Letters) : t.verdict.kept.toOption = t.value? :=
  Option.ext fun _ => toOption_eq_some_iff.trans Letters.verdict_kept_eq_ok_iff

theorem toOption_kept_number (n : Number) : n.verdict.kept.toOption = int32Of? n.data := by
  ext x
  rw [toOption_eq_some_iff, Number.verdict_kept_eq_ok_iff, int32Of?_eq_some_iff,
    Number.data_eq_integer_iff, and_iff_left (fits64_toInt x)]

namespace State

variable {s s' : State} {form : Form} {d : Draft} {area : Namespace} {t : Table}

/-! ## Tables -/

/-- Where the value of a key stands, a word is added to the table, and nothing else fits. -/
theorem run?_inTable_value (key : String) (v : Value) (rest : List Lexeme) :
    run? (table form d area t (.value key)) (v.lexemes ++ rest) =
      (int32Of? v.data).bind fun x =>
        run? (table form d area (t.insert key x) .separator) rest := by
  cases v with
  | number n =>
    have hnext : ∀ w : Verdict Int32,
        (next (table form d area t (.value key)) (.number w)).toOption =
          w.kept.toOption.map fun x => table form d area (t.insert key x) .separator := by
      rintro ⟨_ | _, _⟩ <;> rfl
    rw [Value.lexemes, List.singleton_append, run?_cons, next?, Lexeme.token, hnext,
      toOption_kept_number, Option.bind_map]
    rfl
  | word w => exact run?_cons_of_error rfl
  | text n => exact run?_cons_of_error rfl
  | array elements => exact run?_cons_of_error rfl
  | object members => exact run?_cons_of_error rfl

/-- Where a key stands, a member is added to the table. -/
theorem run?_inTable_member {inside : InTable} (hinside : inside = .firstKey ∨ inside = .key)
    (m : Letters × Value) (rest : List Lexeme) :
    run? (table form d area t inside) (.text m.1 :: .colon :: (m.2.lexemes ++ rest)) =
      (t.put? int32Of? (m.1.value?, m.2.data)).bind fun t' =>
        run? (table form d area t' .separator) rest := by
  have hkey : ∀ w : Verdict String, (next (table form d area t inside) (.text w)).toOption =
      w.kept.toOption.map fun key => table form d area t (.colon key) := by
    rcases hinside with rfl | rfl <;> rintro ⟨_ | _, _⟩ <;> rfl
  rw [run?_cons, next?, Lexeme.token, hkey, toOption_kept, Table.put?]
  cases m.1.value? with
  | none => rfl
  | some key =>
    simp only [Option.map_some, Option.bind_some]
    rw [run?_cons_of_next (table form d area t (.value key)) rfl, run?_inTable_value]
    cases int32Of? m.2.data <;> rfl

theorem run?_inTable_furtherMembers (entries : List (Letters × Value)) (rest : List Lexeme) :
    run? (table form d area t .separator) (furtherMemberLexemes entries ++ rest) =
      ((memberData entries).foldlM (Table.put? int32Of?) t).bind fun t' =>
        run? (table form d area t' .separator) rest := by
  induction entries generalizing t with
  | nil => rfl
  | cons m entries ih =>
    obtain ⟨name, v⟩ := m
    simp only [furtherMemberLexemes, List.cons_append, List.append_assoc]
    rw [run?_cons_of_next (table form d area t .key) rfl,
      run?_inTable_member (.inr rfl) (name, v), memberData, List.foldlM_cons]
    cases t.put? int32Of? (name.value?, v.data) with
    | none => rfl
    | some t' => exact ih

/-- A table is expected; the end of an array may be expected as well. -/
def ExpectsTable (s : State) (form : Form) (d : Draft) (area : Namespace) : Prop :=
  ∀ x : Lexeme, x ≠ .endArray → s.next x.token = beginTable form d area x.token

/-- Where a table is expected, the table is read that is made of a value, and nothing else fits. -/
theorem run?_table (h : ExpectsTable s form d area) (v : Value) (rest : List Lexeme) :
    run? s (v.lexemes ++ rest) =
      (tableOf? v.data).bind fun t => run? (separator form (d.setTable area t)) rest := by
  cases v with
  | word w => exact run?_cons_of_error (h (.word w) (by simp))
  | number n =>
    have hnone : tableOf? (Value.number n).data = none := by
      obtain hn | ⟨i, hn⟩ := n.data_eq_real_or <;> rw [Value.data, hn] <;> rfl
    rw [hnone]
    exact run?_cons_of_error (h (.number n) (by simp))
  | text t => exact run?_cons_of_error (h (.text t) (by simp))
  | array elements => exact run?_cons_of_error (h .beginArray (by simp))
  | object entries =>
    rw [Value.lexemes, List.cons_append, List.append_assoc,
      run?_cons_of_next (table form d area .empty .firstKey) (h .beginObject (by simp))]
    cases entries with
    | nil => rfl
    | cons m entries =>
      obtain ⟨name, v⟩ := m
      simp only [memberLexemes, List.cons_append, List.append_assoc]
      rw [run?_inTable_member (.inl rfl) (name, v), Value.data, tableOf?, memberData,
        List.foldlM_cons]
      cases Table.empty.put? int32Of? (name.value?, v.data) with
      | none => rfl
      | some t => exact run?_inTable_furtherMembers entries _

/-! ## The object -/

/-- Where a name stands, a member is added to the draft. -/
theorem run?_member (hs : ∀ w : Verdict String, s.next (.text w) = w.kept >>= named d)
    (m : Letters × Value) (rest : List Lexeme) :
    run? s (.text m.1 :: .colon :: (m.2.lexemes ++ rest)) =
      (d.add? (m.1.value?, m.2.data)).bind fun d' => run? (separator .object d') rest := by
  have hname : (s.next (Lexeme.text m.1).token).toOption =
      m.1.value?.bind fun name => (named d name).toOption := by
    rw [← toOption_kept, Lexeme.token, hs]
    cases m.1.verdict.kept <;> rfl
  rw [run?_cons, next?, hname, Draft.add?]
  cases m.1.value? with
  | none => rfl
  | some name =>
    cases harea : Namespace.ofName? name with
    | none =>
      simp only [named, harea, Except.toOption, bind, Option.bind_some, pure]
      rw [run?_cons_of_next (value d none) rfl, run?_passing m.2 (expectsPassing_value d)]
      rfl
    | some area =>
      cases htable : d.table? area with
      | some t => simp [named, harea, htable, Except.toOption]
      | none =>
        simp only [named, harea, htable, Except.toOption, bind, Option.bind_some]
        rw [run?_cons_of_next (value d (some area)) rfl, run?_table fun _ _ => rfl,
          Option.bind_map]
        rfl

theorem run?_furtherMembers_object (members : List (Letters × Value)) (rest : List Lexeme) :
    run? (separator .object d) (furtherMemberLexemes members ++ rest) =
      ((memberData members).foldlM Draft.add? d).bind fun d' =>
        run? (separator .object d') rest := by
  induction members generalizing d with
  | nil => rfl
  | cons m members ih =>
    obtain ⟨name, v⟩ := m
    simp only [furtherMemberLexemes, List.cons_append, List.append_assoc]
    rw [run?_cons_of_next (State.name d) rfl, run?_member (fun _ => rfl) (name, v), memberData,
      List.foldlM_cons]
    cases d.add? (name.value?, v.data) with
    | none => rfl
    | some d' => exact ih

theorem run?_start_object (members : List (Letters × Value)) :
    run? start (Value.object members).lexemes =
      (draftOf? (.map (memberData members))).map done := by
  rw [Value.lexemes, run?_cons_of_next firstName rfl]
  cases members with
  | nil => rfl
  | cons m members =>
    obtain ⟨name, v⟩ := m
    simp only [memberLexemes, List.cons_append, List.append_assoc]
    rw [run?_member (d := {}) (fun _ => rfl) (name, v), draftOf?, memberData,
      List.foldlM_cons]
    cases Draft.add? {} (name.value?, v.data) with
    | none => rfl
    | some d =>
      rw [Option.bind_some, run?_furtherMembers_object]
      exact (Option.map_eq_bind (f := done)).symm

/-! ## The array -/

theorem run?_start_array (elements : List Value) :
    run? start (Value.array elements).lexemes =
      (draftOf? (.sequence (elementData elements))).map done := by
  rw [Value.lexemes, run?_cons_of_next firstElement rfl]
  have hfirst : ExpectsTable firstElement .array {} .secure := by
    intro x hx
    cases x <;> first | rfl | exact absurd rfl hx
  cases elements with
  | nil => rfl
  | cons secure elements =>
    rw [elementLexemes, List.append_assoc, run?_table hfirst]
    cases hsecure : tableOf? secure.data with
    | none => cases elements with
      | nil => simp [draftOf?, elementData, hsecure]
      | cons system elements => cases elements <;> simp [draftOf?, elementData, hsecure]
    | some t =>
      rw [Option.bind_some]
      cases elements with
      | nil => simp [draftOf?, elementData, hsecure]; rfl
      | cons system elements =>
        rw [furtherElementLexemes, List.cons_append, List.append_assoc,
          run?_cons_of_next (secondElement _) rfl, run?_table fun _ _ => rfl]
        cases hsystem : tableOf? system.data with
        | none => cases elements <;> simp [draftOf?, elementData, hsecure, hsystem]
        | some u => cases elements with
          | nil => simp [draftOf?, elementData, hsecure, hsystem]; rfl
          | cons v elements => exact run?_cons_of_error rfl

/-- A text leads to the draft that is made of its value, if one is made. -/
theorem run?_start (v : Value) : run? start v.lexemes = (draftOf? v.data).map done := by
  cases v with
  | word w => exact run?_cons_of_error rfl
  | number n =>
    have hnone : draftOf? (Value.number n).data = none := by
      obtain hn | ⟨i, hn⟩ := n.data_eq_real_or <;> rw [Value.data, hn] <;> rfl
    rw [hnone]
    exact run?_cons_of_error rfl
  | text t => exact run?_cons_of_error rfl
  | array elements => exact run?_start_array elements
  | object members => exact run?_start_object members

theorem foldlM_next_eq_ok_iff (s s' : State) (xs : List Lexeme) :
    (xs.map Lexeme.token).foldlM next s = .ok s' ↔ run? s xs = some s' := by
  induction xs generalizing s with
  | nil => simp [run?_nil, pure, Except.pure]
  | cons x xs ih =>
    rw [List.map_cons, List.foldlM_cons, run?_cons, next?]
    cases s.next x.token with
    | error f => simp [bind, Except.bind, Except.toOption]
    | ok s₁ => exact ih s₁

end State

/-- The reader reads JSON, and leaves what it reads to the standard decoder. -/
theorem Snapshot.readsJson_ofJson : ReadsJson ofJson .standard := by
  intro octets v h s
  show ofJson octets = .ok s ↔ (draftOf? v.data).map Draft.snapshot = some s
  rw [ofJson, ofTokens, h.tokens_eq]
  cases hrun : (v.lexemes.map Lexeme.token).foldlM State.next .start with
  | error f =>
    have hnone : draftOf? v.data = none := by
      refine Option.eq_none_iff_forall_ne_some.2 fun d hd => ?_
      have hok : State.run? .start v.lexemes = some (.done d) := by
        rw [State.run?_start, hd]
        rfl
      rw [← State.foldlM_next_eq_ok_iff, hrun] at hok
      cases hok
    simp [bind, Except.bind, hnone]
  | ok s' =>
    rw [State.foldlM_next_eq_ok_iff, State.run?_start] at hrun
    obtain ⟨d, hd, rfl⟩ := Option.map_eq_some_iff.1 hrun
    simp [hd, bind, Except.bind, State.result]

end DeviceStatus.Settings
