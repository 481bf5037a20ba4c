import DeviceStatus.Proofs.Json.Grammar
import Mathlib.Data.Nat.Digits.Lemmas

/-!
# Strings, integers and values can be written

A spelling for each string, in which only quotation marks, backslashes and control characters are
escaped, the numeral of each integer, and a text of each value.
-/

namespace DeviceStatus.Json

/-! ## Strings -/

/-- A hexadecimal digit in lower case. -/
def HexDigit.ofNat (n : Nat) : HexDigit := ⟨Fin.ofNat 16 n, false⟩

/-- Four hexadecimal digits in lower case. -/
def HexUnit.ofNat (n : Nat) : HexUnit :=
  ⟨.ofNat (n / 0x1000), .ofNat (n / 0x100), .ofNat (n / 0x10), .ofNat n⟩

theorem HexUnit.value_ofNat {n : Nat} (h : n < 0x10000) : (ofNat n).value = n := by
  simp only [value, ofNat, HexDigit.ofNat, Fin.val_ofNat]
  omega

/-- A letter for a character. -/
def Letter.ofChar (c : Char) : Letter :=
  if h : 0x20 ≤ c.toNat ∧ c ≠ '"' ∧ c ≠ '\\' then .plain c h
  else if c = '"' then .short 0x22 '"' (by decide)
  else if c = '\\' then .short 0x5C '\\' (by decide)
  else .unit (.ofNat c.toNat)

namespace Letters

/-- A spelling of a string. -/
def ofString (s : String) : Letters := s.toList.map Letter.ofChar

theorem chars?_ofChar_cons (c : Char) (t : Letters) :
    chars? (Letter.ofChar c :: t) = (chars? t).map (c :: ·) := by
  unfold Letter.ofChar
  split
  · rfl
  split
  · next hmark =>
    subst hmark
    rfl
  split
  · next hslash =>
    subst hslash
    rfl
  · next hplain hmark hslash =>
    have hcontrol : c.toNat < 0x20 := by
      by_contra hge
      exact hplain ⟨Nat.le_of_not_lt hge, hmark, hslash⟩
    rw [chars?.eq_def]
    dsimp only
    rw [HexUnit.value_ofNat (by omega), if_neg (by unfold IsHighSurrogate; omega),
      if_neg (by unfold IsLowSurrogate; omega), Char.ofNat_toNat]

/-- A string is what its spelling spells. -/
@[simp] theorem value?_ofString (s : String) : (ofString s).value? = some s := by
  have hchars : ∀ cs : List Char, chars? (cs.map Letter.ofChar) = some cs := by
    intro cs
    induction cs with
    | nil => rfl
    | cons c cs ih => rw [List.map_cons, chars?_ofChar_cons, ih, Option.map_some]
  rw [value?, ofString, hchars, Option.map_some, String.ofList_toList]

end Letters

/-! ## Integers -/

/-- The last decimal digit of a number. -/
def lastDigit (n : Nat) : Fin 10 := ⟨n % 10, Nat.mod_lt n (by decide)⟩

/-- The digits of a number. -/
def Digits.ofNat (n : Nat) : Digits where
  list := (if n = 0 then [0] else (Nat.digits 10 n).reverse).map lastDigit
  ne_nil := by
    rw [ne_eq, List.map_eq_nil_iff]
    split
    · simp
    · simpa [Nat.digits_ne_nil_iff_ne_zero]

theorem lastDigit_of_mem {n d : Nat} (h : d ∈ Nat.digits 10 n) : (lastDigit d).val = d :=
  Nat.mod_eq_of_lt (Nat.digits_lt_base (by decide) h)

theorem Digits.value_ofNat (n : Nat) : (ofNat n).value = n := by
  unfold value ofNat
  split
  · next h =>
    subst h
    rfl
  · have hdigits : (Nat.digits 10 n).map (fun d => (lastDigit d).val) = Nat.digits 10 n :=
      (List.map_congr_left fun d hd => lastDigit_of_mem hd).trans (List.map_id _)
    simp only [List.map_reverse, List.reverse_reverse, List.map_map]
    exact (congrArg _ hdigits).trans (Nat.ofDigits_digits 10 n)

/-- Zero stands in front only if nothing follows. -/
theorem Digits.length_ofNat {n : Nat} (h : (ofNat n).list.head?.map (·.val) = some 0) :
    (ofNat n).list.length = 1 := by
  unfold ofNat at *
  by_cases hn : n = 0
  · simp [hn]
  · have hdigits : Nat.digits 10 n ≠ [] := Nat.digits_ne_nil_iff_ne_zero.2 hn
    simp only [if_neg hn, List.head?_map, List.head?_reverse,
      List.getLast?_eq_some_getLast hdigits, Option.map_some, Option.some.injEq] at h
    have hlast := lastDigit_of_mem (List.getLast_mem hdigits)
    exact absurd (hlast.symm.trans h) (Nat.getLast_digit_ne_zero 10 hn)

/-- The numeral of an integer. -/
def Number.ofInt (i : Int) : Number where
  isNegative := i < 0
  whole := .ofNat i.natAbs
  length_whole := Digits.length_ofNat

theorem Number.integer?_ofInt (i : Int) : (ofInt i).integer? = some i := by
  simp only [integer?, ofInt, Digits.value_ofNat, decide_eq_true_eq, true_and]
  rw [if_pos (by omega), Option.some.injEq]
  split <;> omega

/-! ## Values -/

/-- A value without white space. -/
def Value.octets (v : Value) : List UInt8 := v.lexemes.flatMap Lexeme.octets

theorem laid_flatMap (xs : List Lexeme) : Laid xs (xs.flatMap Lexeme.octets) := by
  induction xs with
  | nil => exact .nil (by simp)
  | cons x xs ih => exact @Laid.cons [] _ _ (by simp) x ih

/-- Every value has a text. -/
theorem isTextOf_octets (v : Value) : IsTextOf v.octets v := laid_flatMap v.lexemes

end DeviceStatus.Json
