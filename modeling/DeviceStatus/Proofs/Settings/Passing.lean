import DeviceStatus.Proofs.Json.Token
import DeviceStatus.Settings.Load

/-!
# Values that are passed over

The automaton takes the lexemes of a text one by one (`State.run?`). Where a value is passed over,
the lexemes of the value lead behind it, whatever they are and however deep the value is nested
(`run?_passing`): the brackets that are opened inside the value are closed inside it.
-/

namespace DeviceStatus.Settings

open Json

namespace State

/-- One lexeme further, if it fits. -/
def next? (s : State) (x : Lexeme) : Option State := (s.next x.token).toOption

/-- Where lexemes lead, if all of them fit. -/
def run? (s : State) (xs : List Lexeme) : Option State := xs.foldlM next? s

variable {s s' : State} {d : Draft} {opened : List Bracket} {x : Lexeme} {xs rest : List Lexeme}

theorem run?_nil (s : State) : run? s [] = some s := rfl

theorem run?_cons (s : State) (x : Lexeme) (xs : List Lexeme) :
    run? s (x :: xs) = (s.next? x).bind fun s' => run? s' xs := List.foldlM_cons

theorem run?_cons_of_next (s' : State) (h : s.next x.token = .ok s') :
    run? s (x :: xs) = run? s' xs := by
  rw [run?_cons, next?, h]
  rfl

theorem run?_cons_of_error {f : Fault} (h : s.next x.token = .error f) :
    run? s (x :: xs) = none := by
  rw [run?_cons, next?, h]
  rfl

/-- A value that is passed over is expected, under the brackets that are open; the end of an array
may be expected as well. -/
def ExpectsPassing (s : State) (d : Draft) (opened : List Bracket) : Prop :=
  ∀ x : Lexeme, x ≠ .endArray → s.next x.token = beginPassing d opened x.token

theorem expectsPassing_value (d : Draft) : ExpectsPassing (value d none) d [] := fun _ _ => rfl

theorem expectsPassing_inside (d : Draft) (opened : List Bracket) :
    ExpectsPassing (passing d opened .value) d opened := fun _ _ => rfl

theorem expectsPassing_firstValue (d : Draft) (opened : List Bracket) :
    ExpectsPassing (passing d opened .firstValue) d opened := by
  intro x hx
  cases x <;> first | rfl | exact absurd rfl hx

/-- A state in which a value may be passed over leads behind the value. -/
def PassesOver (v : Value) : Prop :=
  ∀ {s : State} {d : Draft} {opened : List Bracket}, ExpectsPassing s d opened →
    ∀ rest, run? s (v.lexemes ++ rest) = run? (passed d opened) rest

theorem run?_furtherElements {elements : List Value} (h : ∀ v ∈ elements, PassesOver v) (d : Draft)
    (opened : List Bracket) (rest : List Lexeme) :
    run? (passing d (.array :: opened) .separator) (furtherElementLexemes elements ++ rest) =
      run? (passing d (.array :: opened) .separator) rest := by
  induction elements with
  | nil => rfl
  | cons v elements ih =>
    obtain ⟨hv, hothers⟩ := List.forall_mem_cons.1 h
    rw [furtherElementLexemes, List.cons_append, List.append_assoc,
      run?_cons_of_next (passing d (.array :: opened) .value) rfl,
      hv (expectsPassing_inside d _)]
    exact ih hothers

theorem run?_furtherMembers {members : List (Letters × Value)} (h : ∀ m ∈ members, PassesOver m.2)
    (d : Draft) (opened : List Bracket) (rest : List Lexeme) :
    run? (passing d (.object :: opened) .separator) (furtherMemberLexemes members ++ rest) =
      run? (passing d (.object :: opened) .separator) rest := by
  induction members with
  | nil => rfl
  | cons m members ih =>
    obtain ⟨name, v⟩ := m
    obtain ⟨hv, hothers⟩ := List.forall_mem_cons.1 h
    simp only [furtherMemberLexemes, List.cons_append, List.append_assoc]
    rw [run?_cons_of_next (passing d (.object :: opened) .name) rfl,
      run?_cons_of_next (passing d (.object :: opened) .colon) rfl,
      run?_cons_of_next (passing d (.object :: opened) .value) rfl,
      hv (expectsPassing_inside d _)]
    exact ih hothers

/-- Every value can be passed over. -/
theorem run?_passing (v : Value) : PassesOver v := by
  induction v with
  | word w =>
    intro s d opened h rest
    exact run?_cons_of_next _ (h (.word w) (by simp))
  | number n =>
    intro s d opened h rest
    exact run?_cons_of_next _ (h (.number n) (by simp))
  | text t =>
    intro s d opened h rest
    exact run?_cons_of_next _ (h (.text t) (by simp))
  | array elements ih =>
    intro s d opened h rest
    -- the elements are passed over under one more bracket, which the last lexeme closes
    rw [Value.lexemes, List.cons_append, List.append_assoc,
      run?_cons_of_next (passing d (.array :: opened) .firstValue) (h .beginArray (by simp))]
    cases elements with
    | nil => rfl
    | cons v elements =>
      obtain ⟨hv, hothers⟩ := List.forall_mem_cons.1 ih
      rw [elementLexemes, List.append_assoc, hv (expectsPassing_firstValue d _)]
      exact run?_furtherElements hothers d opened _
  | object members ih =>
    intro s d opened h rest
    rw [Value.lexemes, List.cons_append, List.append_assoc,
      run?_cons_of_next (passing d (.object :: opened) .firstName) (h .beginObject (by simp))]
    cases members with
    | nil => rfl
    | cons m members =>
      obtain ⟨name, v⟩ := m
      obtain ⟨hv, hothers⟩ := List.forall_mem_cons.1 ih
      simp only [memberLexemes, List.cons_append, List.append_assoc]
      rw [run?_cons_of_next (passing d (.object :: opened) .colon) rfl,
        run?_cons_of_next (passing d (.object :: opened) .value) rfl,
        hv (expectsPassing_inside d _)]
      exact run?_furtherMembers hothers d opened _

end State

end DeviceStatus.Settings
