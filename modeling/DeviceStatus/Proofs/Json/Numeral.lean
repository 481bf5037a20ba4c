import DeviceStatus.Proofs.Json.Grammar
import Mathlib.Data.Nat.Digits.Defs

/-!
# Numbers are read as they are written

A number is read up to the first octet that cannot belong to it, and of an integer in the range of a
signed 32-bit word nothing is lost: its digits are gathered without rounding, since they fit into 64
bits, and it is in the range of double precision without a computation. The verdict on a number is
thus decided by the integer that it spells (`Number.verdict_kept_eq_ok_iff`).
-/

namespace DeviceStatus.Json

/-! ## Digits -/

namespace Digits

/-- The digits as numbers. -/
def nats (d : Digits) : List Nat := d.list.map (·.val)

theorem ofDigits_eq_foldl (l : List Nat) :
    Nat.ofDigits 10 l.reverse = l.foldl (fun n d => 10 * n + d) 0 := by
  rw [Nat.ofDigits_eq_foldr, List.foldr_reverse]
  congr 1
  funext n d
  simp only [Nat.cast_id]
  omega

/-- The digits spell the number that they are read as. -/
theorem ofDigits_nats (d : Digits) : Numeral.ofDigits d.nats = d.value := by
  rw [value, List.map_reverse, ← nats, ofDigits_eq_foldl]
  rfl

theorem octet_toNat (i : Fin 10) : (UInt8.ofNat (0x30 + i.val)).toNat = 0x30 + i.val := by
  rw [UInt8.toNat_ofNat']
  omega

theorem isDigit_octet (i : Fin 10) : isDigit (UInt8.ofNat (0x30 + i.val)) = true := by
  simp only [isDigit, Bool.and_eq_true, decide_eq_true_eq, UInt8.le_iff_toNat_le, octet_toNat,
    UInt8.reduceToNat]
  omega

theorem isDigit_of_mem {d : Digits} {b : UInt8} (h : b ∈ d.octets) : isDigit b = true := by
  obtain ⟨i, -, rfl⟩ := List.mem_map.1 h
  exact isDigit_octet i

/-- Digits are read up to the first octet that is none. -/
theorem spanDigits_octets (d : Digits) {rest : List UInt8}
    (hrest : ∀ b ∈ rest.head?, isDigit b = false) :
    spanDigits (d.octets ++ rest) = (d.nats, rest) := by
  have hall : ∀ b ∈ d.octets, isDigit b = true := fun b => isDigit_of_mem
  have htake : rest.takeWhile isDigit = [] := by
    cases rest with
    | nil => rfl
    | cons b rest => simp [hrest b rfl]
  have hdrop : rest.dropWhile isDigit = rest := by
    cases rest with
    | nil => rfl
    | cons b rest => simp [hrest b rfl]
  have hnats : d.octets.map (·.toNat - 0x30) = d.nats := by
    simp only [octets, nats, List.map_map]
    exact List.map_congr_left fun i _ => by
      rw [Function.comp_apply, octet_toNat, Nat.add_sub_cancel_left]
  rw [spanDigits, List.takeWhile_append_of_pos hall, List.dropWhile_append_of_pos hall, htake,
    hdrop, List.append_nil, hnats]

theorem nats_ne_nil (d : Digits) : d.nats ≠ [] := fun h => d.ne_nil (List.map_eq_nil_iff.1 h)

end Digits

/-! ## Scanning -/

/-- The octets do not go on with a number that ends in front of them. -/
def EndsNumber (rest : List UInt8) : Prop :=
  ∀ b ∈ rest.head?, isDigit b = false ∧ b ≠ 0x2E ∧ b ≠ 0x65 ∧ b ≠ 0x45

/-- The sign and the digits of an exponent. -/
def Exponent.signed (e : Exponent) : Bool × List Nat := (e.sign.getD false, e.digits.nats)

/-- A number as a numeral. -/
def Number.numeral (n : Number) : Numeral :=
  ⟨n.isNegative, n.whole.nats, n.fraction.map Digits.nats, n.exponent.map Exponent.signed⟩

/-- What a number amounts to. -/
def Number.verdict (n : Number) : Verdict Int32 := n.numeral.verdict

theorem Digits.octets_eq_cons (d : Digits) :
    ∃ (b : UInt8) (more : List UInt8), d.octets = b :: more ∧ isDigit b = true := by
  obtain ⟨i, list, hlist⟩ := List.exists_cons_of_ne_nil d.ne_nil
  exact ⟨_, _, by rw [octets, hlist, List.map_cons], isDigit_octet i⟩

theorem ne_of_isDigit {b c : UInt8} (hb : isDigit b = true) (hc : isDigit c = false) : b ≠ c := by
  rintro rfl
  simp [hb] at hc

theorem scanExponent_octets (m : Numeral) (e : Exponent) {rest : List UInt8}
    (hrest : EndsNumber rest) :
    scanExponent m (e.octets ++ rest) =
      (Numeral.verdict { m with exponent := some e.signed }, rest) := by
  obtain ⟨isCapital, sign, digits⟩ := e
  have hdigits := digits.spanDigits_octets fun b hb => (hrest b hb).1
  obtain ⟨d, ds, hnats⟩ := List.exists_cons_of_ne_nil digits.nats_ne_nil
  cases sign with
  | none =>
    obtain ⟨b, more, hoctets, hb⟩ := digits.octets_eq_cons
    have hminus : b ≠ 0x2D := ne_of_isDigit hb (by decide)
    have hplus : b ≠ 0x2B := ne_of_isDigit hb (by decide)
    rw [hoctets, List.cons_append] at hdigits
    simp [Exponent.octets, scanExponent, hoctets, hminus, hplus, hdigits, hnats, Exponent.signed]
  | some isNegative =>
    cases isNegative <;> simp [Exponent.octets, scanExponent, hdigits, hnats, Exponent.signed]

/-- Behind the fraction of a number its exponent is read, if there is one. -/
theorem scanExponent_exponentOctets (m : Numeral) (hm : m.exponent = none) (e : Option Exponent)
    {rest : List UInt8} (hrest : EndsNumber rest) :
    scanExponent m (exponentOctets e ++ rest) =
      (Numeral.verdict { m with exponent := e.map Exponent.signed }, rest) := by
  cases e with
  | some e => exact scanExponent_octets m e hrest
  | none =>
    obtain ⟨isNegative, digits, fraction, exponent⟩ := m
    subst hm
    cases rest with
    | nil => rfl
    | cons b rest =>
      obtain ⟨-, -, hsmall, hcapital⟩ := hrest b rfl
      simp [exponentOctets, scanExponent, hsmall, hcapital]

/-- An exponent starts with a letter. -/
theorem head_exponentOctets (e : Option Exponent) {rest : List UInt8} (hrest : EndsNumber rest) :
    ∀ b ∈ (exponentOctets e ++ rest).head?, isDigit b = false ∧ b ≠ 0x2E := by
  intro b hb
  cases e with
  | none =>
    obtain ⟨hdigit, hpoint, -⟩ := hrest b hb
    exact ⟨hdigit, hpoint⟩
  | some e =>
    cases hb
    cases e.isCapital <;> decide

/-- Behind the integer part of a number its fraction is read, if there is one. -/
theorem scanFraction_fractionOctets (m : Numeral) (hfraction : m.fraction = none)
    (hexponent : m.exponent = none) (f : Option Digits) (e : Option Exponent) {rest : List UInt8}
    (hrest : EndsNumber rest) :
    scanFraction m (fractionOctets f ++ (exponentOctets e ++ rest)) =
      (Numeral.verdict { m with fraction := f.map Digits.nats, exponent := e.map Exponent.signed },
        rest) := by
  have hhead := head_exponentOctets e hrest
  cases f with
  | none =>
    have hskip : scanFraction m (exponentOctets e ++ rest) =
        scanExponent m (exponentOctets e ++ rest) := by
      cases hoctets : exponentOctets e ++ rest with
      | nil => rfl
      | cons b more => simp [scanFraction, (hhead b (by simp [hoctets])).2]
    obtain ⟨isNegative, digits, fraction, exponent⟩ := m
    subst hfraction
    exact hskip.trans (scanExponent_exponentOctets _ hexponent e hrest)
  | some f =>
    obtain ⟨d, ds, hnats⟩ := List.exists_cons_of_ne_nil f.nats_ne_nil
    have hspan := f.spanDigits_octets fun b hb => (hhead b hb).1
    have hafter :=
      scanExponent_exponentOctets { m with fraction := some (d :: ds) } hexponent e hrest
    simp [fractionOctets, scanFraction, hspan, hnats, hafter]

/-- A number is read behind its sign. -/
theorem scanNumeral_octets (n : Number) {rest : List UInt8} (hrest : EndsNumber rest) :
    scanNumeral n.isNegative
        (n.whole.octets ++ (fractionOctets n.fraction ++ (exponentOctets n.exponent ++ rest))) =
      (n.verdict, rest) := by
  have hhead : ∀ b ∈ (fractionOctets n.fraction ++ (exponentOctets n.exponent ++ rest)).head?,
      isDigit b = false := by
    cases n.fraction with
    | none => exact fun b hb => (head_exponentOctets n.exponent hrest b hb).1
    | some digits =>
      rintro _ ⟨⟩
      decide
  have hspan := n.whole.spanDigits_octets hhead
  -- the digits are not refused for a zero in front
  have hzeros : ¬ (n.whole.nats.head? = some 0 ∧ 1 < n.whole.nats.length) := by
    rintro ⟨hzero, hlength⟩
    rw [Digits.nats, List.head?_map] at hzero
    rw [Digits.nats, List.length_map, n.length_whole hzero] at hlength
    exact absurd hlength (Nat.lt_irrefl 1)
  obtain ⟨d, ds, hnats⟩ := List.exists_cons_of_ne_nil n.whole.nats_ne_nil
  rw [hnats] at hspan hzeros
  rw [scanNumeral, hspan]
  simp only [gt_iff_lt, hzeros, if_false]
  rw [← hnats]
  exact scanFraction_fractionOctets ⟨n.isNegative, n.whole.nats, none, none⟩ rfl rfl _ _ hrest

/-! ## What a number amounts to -/

namespace Numeral

theorem le_foldl_digits (digits : List Nat) (n : Nat) :
    n ≤ digits.foldl (fun n d => 10 * n + d) n := by
  induction digits generalizing n with
  | nil => exact Nat.le_refl n
  | cons d digits ih => exact Nat.le_trans (by omega) (ih (10 * n + d))

/-- Digits that fit are gathered without rounding. -/
theorem Gathered.integerPart_eq {digits : List Nat} {g : Gathered}
    (h : digits.foldl (fun n d => 10 * n + d) g.significand ≤ greatestSignificand) :
    g.integerPart digits = ⟨digits.foldl (fun n d => 10 * n + d) g.significand, g.exponent⟩ := by
  induction digits generalizing g with
  | nil => rfl
  | cons d digits ih =>
    have hfirst : 10 * g.significand + d ≤ greatestSignificand :=
      Nat.le_trans (le_foldl_digits digits _) h
    have hfits : g.fits d = true := by
      rw [Gathered.fits, decide_eq_true_eq]
      omega
    have hcomm : g.significand * 10 + d = 10 * g.significand + d := by omega
    rw [Gathered.integerPart, if_pos hfits, ih (g := ⟨g.significand * 10 + d, g.exponent⟩), hcomm]
    · rfl
    · rw [hcomm]
      exact h

/-- An integer of at most 64 bits is in range. -/
theorem isOutOfRange_eq_false {m : Numeral} (hfraction : m.fraction = none)
    (hexponent : m.exponent = none) (h : ofDigits m.digits ≤ greatestSignificand) :
    m.isOutOfRange = false := by
  have hgathered : m.gathered = ⟨ofDigits m.digits, 0⟩ := by
    rw [gathered, Gathered.integerPart_eq (g := {}) h, hfraction]
    rfl
  rw [isOutOfRange, hexponent, hgathered]
  simp [exceedsDouble]

/-- An integer that fits is the word with this integer. -/
theorem ofInt_eq_some_iff {i : Int} {x : Int32} :
    (if fitsInt32 i then some (Int32.ofInt i) else none) = some x ↔ i = x.toInt := by
  simp only [fitsInt32, Bool.and_eq_true, decide_eq_true_eq, Option.ite_none_right_eq_some,
    Option.some.injEq]
  constructor
  · rintro ⟨⟨hfrom, hto⟩, rfl⟩
    rw [Int32.toInt_ofInt_of_le hfrom (Int.lt_add_one_of_le hto)]
  · rintro rfl
    exact ⟨⟨x.le_toInt, Int.le_of_lt_add_one x.toInt_lt⟩, Int32.ofInt_toInt x⟩

/-- A numeral is a word if the integer that it is fits. -/
theorem int32?_eq_some_iff {m : Numeral} {x : Int32} :
    m.int32? = some x ↔ m.integer? = some x.toInt := by
  unfold int32?
  cases m.integer? with
  | none => simp
  | some i => exact ofInt_eq_some_iff.trans Option.some_inj.symm

end Numeral

namespace Number

theorem integer?_numeral (n : Number) : n.numeral.integer? = n.integer? := by
  obtain ⟨isNegative, whole, _, fraction, exponent⟩ := n
  have hwhole := whole.ofDigits_nats
  cases fraction <;> cases exponent <;> cases isNegative <;>
    simp [numeral, Numeral.integer?, integer?, hwhole]

/-- An integer that a signed 32-bit word holds is in range. -/
theorem isOutOfRange_eq_false {n : Number} {x : Int32} (h : n.integer? = some x.toInt) :
    n.numeral.isOutOfRange = false := by
  have hleast := x.le_toInt
  have hgreatest := x.toInt_lt
  rw [integer?, Option.ite_none_right_eq_some] at h
  obtain ⟨⟨hfraction, hexponent, -⟩, hvalue⟩ := h
  refine Numeral.isOutOfRange_eq_false (congrArg (·.map Digits.nats) hfraction)
    (congrArg (·.map Exponent.signed) hexponent) ?_
  rw [numeral, Digits.ofDigits_nats, Numeral.greatestSignificand]
  rw [Option.some.injEq] at hvalue
  split at hvalue <;> omega

/-- A number amounts to a signed 32-bit word if it spells the integer that the word is. -/
theorem verdict_kept_eq_ok_iff {n : Number} {x : Int32} :
    n.verdict.kept = .ok x ↔ n.integer? = some x.toInt := by
  constructor
  · intro h
    simp only [verdict, Numeral.verdict] at h
    split at h
    · simp at h
    · split at h
      · next y hy =>
        obtain rfl : y = x := Except.ok.inj h
        rw [← integer?_numeral, ← Numeral.int32?_eq_some_iff, hy]
      · simp at h
  · intro h
    have hword : n.numeral.int32? = some x := by
      rw [Numeral.int32?_eq_some_iff, integer?_numeral, h]
    simp [verdict, Numeral.verdict, isOutOfRange_eq_false h, hword]

end Number

end DeviceStatus.Json
