import DeviceStatus.Text.Utf8
import Mathlib.Data.Nat.Init
import Mathlib.Tactic.SplitIfs

/-!
# UTF-8 is read as it is written

Decoding accepts exactly the octets that a text is spelled with. The decoder keeps the character it
is in the middle of, so the octets that such a character still needs are described first
(`Begun.Completes`); together with the meaning of a first octet they are the whole spelling of a
character, for each of the four lengths that a spelling may have.
-/

namespace DeviceStatus.Utf8

/-- The octets `more` end a character that has been begun, and spell `c` together with the octets
read before. -/
def Begun.Completes : Begun → List UInt8 → Char → Prop
  | _, [], _ => False
  | begun, b :: more, c =>
    (begun.least ≤ b ∧ b ≤ begun.greatest) ∧
      match begun.further with
      | 0 => more = [] ∧ c = Char.ofNat (begun.bits * 64 + (b.toNat - 0x80))
      | further + 1 =>
        Completes ⟨begun.bits * 64 + (b.toNat - 0x80), begun.seen + 1, further, 0x80, 0xBF⟩ more c

/-- Octets that end a character are taken together. -/
theorem Begun.Completes.decodeFrom_append {c : Char} {more : List UInt8} {begun : Begun}
    (h : begun.Completes more c) (valid : Nat) (done : List Char) (rest : List UInt8) :
    decodeFrom valid done (some begun) (more ++ rest) =
      decodeFrom (valid + begun.seen + more.length) (c :: done) none rest := by
  induction more generalizing begun with
  | nil => exact h.elim
  | cons b more ih =>
    obtain ⟨hrange, hnext⟩ := h
    have hin : ¬ (b < begun.least ∨ begun.greatest < b) := by
      rintro (h | h)
      · exact absurd hrange.1 (UInt8.not_le.2 h)
      · exact absurd hrange.2 (UInt8.not_le.2 h)
    rw [List.cons_append, decodeFrom, if_neg hin]
    cases hfurther : begun.further with
    | zero =>
      simp only [hfurther] at hnext ⊢
      rw [hnext.1, hnext.2]
      rfl
    | succ further =>
      simp only [hfurther] at hnext
      have hlength : valid + begun.seen + (b :: more).length =
          valid + (begun.seen + 1) + more.length := by
        rw [List.length_cons]
        omega
      rw [hlength]
      exact ih hnext

/-- Only octets that end the character let the decoding go on. -/
theorem exists_completes_of_decodeFrom_eq_ok {octets : List UInt8} {valid : Nat} {done : List Char}
    {begun : Begun} {cs : List Char} (h : decodeFrom valid done (some begun) octets = .ok cs) :
    ∃ more rest c, octets = more ++ rest ∧ begun.Completes more c := by
  induction octets generalizing begun with
  | nil => simp [decodeFrom] at h
  | cons b bs ih =>
    by_cases hout : b < begun.least ∨ begun.greatest < b
    · simp [decodeFrom, hout] at h
    · have hrange : begun.least ≤ b ∧ b ≤ begun.greatest :=
        ⟨UInt8.not_lt.1 fun hlt => hout (.inl hlt), UInt8.not_lt.1 fun hlt => hout (.inr hlt)⟩
      rw [decodeFrom, if_neg hout] at h
      cases hfurther : begun.further with
      | zero =>
        refine ⟨[b], bs, Char.ofNat (begun.bits * 64 + (b.toNat - 0x80)), rfl, hrange, ?_⟩
        simp [hfurther]
      | succ further =>
        simp only [hfurther] at h
        obtain ⟨more, rest, c, rfl, hmore⟩ := ih h
        exact ⟨b :: more, rest, c, rfl, hrange, by simpa [hfurther] using hmore⟩

/-! ## The spelling of one character -/

theorem toNat_ofNat {n : Nat} (h : n.isValidChar) : (Char.ofNat n).toNat = n := by
  have hvalid : Char.ofNat n = Char.ofNatAux n h := dif_pos h
  rw [hvalid]
  rfl

/-- A first octet that is a whole character is what that character is spelled as. -/
theorem utf8EncodeChar_of_start_eq_whole {b : UInt8} {c : Char} (h : start b = .whole c) :
    String.utf8EncodeChar c = [b] := by
  unfold start at h
  split_ifs at h with hascii
  have hb : b.toNat < 0x80 := by simpa [UInt8.lt_iff_toNat_lt] using hascii
  obtain rfl := Start.whole.inj h
  have hvalid : b.toNat.isValidChar := by
    unfold Nat.isValidChar
    omega
  have hc : (Char.ofNat b.toNat).val.toNat = b.toNat := toNat_ofNat hvalid
  unfold String.utf8EncodeChar
  simp only [hc]
  rw [if_pos (by omega), UInt8.ofNat_toNat]


/-- Two octets that spell a character. -/
theorem utf8EncodeChar_two {b₁ b₂ : UInt8} (h₁ : 0xC2 ≤ b₁.toNat ∧ b₁.toNat < 0xE0)
    (h₂ : 0x80 ≤ b₂.toNat ∧ b₂.toNat ≤ 0xBF) :
    String.utf8EncodeChar (Char.ofNat ((b₁.toNat - 0xC0) * 64 + (b₂.toNat - 0x80))) = [b₁, b₂] := by
  have hc := toNat_ofNat (n := (b₁.toNat - 0xC0) * 64 + (b₂.toNat - 0x80))
    (by unfold Nat.isValidChar; omega)
  rw [Char.toNat] at hc
  unfold String.utf8EncodeChar
  simp only [hc]
  rw [if_neg (by omega), if_pos (by omega)]
  simp only [List.cons.injEq, ← UInt8.toNat_inj, UInt8.toNat_ofNat', and_true]
  omega


/-- Three octets that spell a character. -/
theorem utf8EncodeChar_three {b₁ b₂ b₃ : UInt8} (h₁ : 0xE0 ≤ b₁.toNat ∧ b₁.toNat < 0xF0)
    (h₂ : 0x80 ≤ b₂.toNat ∧ b₂.toNat ≤ 0xBF) (h₃ : 0x80 ≤ b₃.toNat ∧ b₃.toNat ≤ 0xBF)
    (hlong : b₁.toNat = 0xE0 → 0xA0 ≤ b₂.toNat) (hsurrogate : b₁.toNat = 0xED → b₂.toNat ≤ 0x9F) :
    String.utf8EncodeChar (Char.ofNat
      (((b₁.toNat - 0xE0) * 64 + (b₂.toNat - 0x80)) * 64 + (b₃.toNat - 0x80))) = [b₁, b₂, b₃] := by
  have hc := toNat_ofNat
    (n := ((b₁.toNat - 0xE0) * 64 + (b₂.toNat - 0x80)) * 64 + (b₃.toNat - 0x80))
    (by unfold Nat.isValidChar; omega)
  rw [Char.toNat] at hc
  unfold String.utf8EncodeChar
  simp only [hc]
  rw [if_neg (by omega), if_neg (by omega), if_pos (by omega)]
  simp only [List.cons.injEq, ← UInt8.toNat_inj, UInt8.toNat_ofNat', and_true]
  omega

/-- Four octets that spell a character. -/
theorem utf8EncodeChar_four {b₁ b₂ b₃ b₄ : UInt8} (h₁ : 0xF0 ≤ b₁.toNat ∧ b₁.toNat < 0xF5)
    (h₂ : 0x80 ≤ b₂.toNat ∧ b₂.toNat ≤ 0xBF) (h₃ : 0x80 ≤ b₃.toNat ∧ b₃.toNat ≤ 0xBF)
    (h₄ : 0x80 ≤ b₄.toNat ∧ b₄.toNat ≤ 0xBF) (hlong : b₁.toNat = 0xF0 → 0x90 ≤ b₂.toNat)
    (hlast : b₁.toNat = 0xF4 → b₂.toNat ≤ 0x8F) :
    String.utf8EncodeChar (Char.ofNat
      ((((b₁.toNat - 0xF0) * 64 + (b₂.toNat - 0x80)) * 64 + (b₃.toNat - 0x80)) * 64 +
        (b₄.toNat - 0x80))) = [b₁, b₂, b₃, b₄] := by
  have hc := toNat_ofNat
    (n := (((b₁.toNat - 0xF0) * 64 + (b₂.toNat - 0x80)) * 64 + (b₃.toNat - 0x80)) * 64 +
      (b₄.toNat - 0x80))
    (by unfold Nat.isValidChar; omega)
  rw [Char.toNat] at hc
  unfold String.utf8EncodeChar
  simp only [hc]
  rw [if_neg (by omega), if_neg (by omega), if_neg (by omega)]
  simp only [List.cons.injEq, ← UInt8.toNat_inj, UInt8.toNat_ofNat', and_true]
  omega

/-- The first octets that announce further ones. -/
theorem start_eq_begun {b : UInt8} {begun : Begun} (h : start b = .begun begun) :
    (0xC2 ≤ b.toNat ∧ b.toNat < 0xE0 ∧ begun = ⟨b.toNat - 0xC0, 1, 0, 0x80, 0xBF⟩) ∨
    (0xE0 ≤ b.toNat ∧ b.toNat < 0xF0 ∧ begun = ⟨b.toNat - 0xE0, 1, 1,
      if b = 0xE0 then 0xA0 else 0x80, if b = 0xED then 0x9F else 0xBF⟩) ∨
    (0xF0 ≤ b.toNat ∧ b.toNat < 0xF5 ∧ begun = ⟨b.toNat - 0xF0, 1, 2,
      if b = 0xF0 then 0x90 else 0x80, if b = 0xF4 then 0x8F else 0xBF⟩) := by
  unfold start at h
  simp only [UInt8.lt_iff_toNat_lt] at h
  split at h
  · cases h
  split at h
  · cases h
  split at h
  · next h₁ h₂ => exact .inl ⟨by simpa using h₁, by simpa using h₂, (Start.begun.inj h).symm⟩
  split at h
  · next h₁ h₂ =>
    exact .inr (.inl ⟨by simpa using h₁, by simpa using h₂, (Start.begun.inj h).symm⟩)
  split at h
  · next h₁ h₂ =>
    exact .inr (.inr ⟨by simpa using h₁, by simpa using h₂, (Start.begun.inj h).symm⟩)
  · cases h

/-- The octets that end a character are those it is spelled with behind the first one. -/
theorem utf8EncodeChar_of_completes {b : UInt8} {begun : Begun} {more : List UInt8} {c : Char}
    (h : start b = .begun begun) (hmore : begun.Completes more c) :
    String.utf8EncodeChar c = b :: more := by
  rcases start_eq_begun h with ⟨hlow, hhigh, rfl⟩ | ⟨hlow, hhigh, rfl⟩ | ⟨hlow, hhigh, rfl⟩
  · obtain _ | ⟨b₂, more⟩ := more
    · exact hmore.elim
    simp only [Begun.Completes, UInt8.le_iff_toNat_le] at hmore
    obtain ⟨h₂, hnil, hc⟩ := hmore
    rw [hnil, hc]
    exact utf8EncodeChar_two ⟨hlow, hhigh⟩ h₂
  · obtain _ | ⟨b₂, _ | ⟨b₃, more⟩⟩ := more
    · exact hmore.elim
    · exact hmore.2.elim
    simp only [Begun.Completes, UInt8.le_iff_toNat_le, ← UInt8.toNat_inj, apply_ite UInt8.toNat,
      UInt8.reduceToNat] at hmore
    obtain ⟨h₂, h₃, hnil, hc⟩ := hmore
    rw [hnil, hc]
    refine utf8EncodeChar_three ⟨hlow, hhigh⟩ ?_ h₃ ?_ ?_ <;> split_ifs at h₂ <;> omega
  · obtain _ | ⟨b₂, _ | ⟨b₃, _ | ⟨b₄, more⟩⟩⟩ := more
    · exact hmore.elim
    · exact hmore.2.elim
    · exact hmore.2.2.elim
    simp only [Begun.Completes, UInt8.le_iff_toNat_le, ← UInt8.toNat_inj, apply_ite UInt8.toNat,
      UInt8.reduceToNat] at hmore
    obtain ⟨h₂, h₃, h₄, hnil, hc⟩ := hmore
    rw [hnil, hc]
    refine utf8EncodeChar_four ⟨hlow, hhigh⟩ ?_ h₃ h₄ ?_ ?_ <;> split_ifs at h₂ <;> omega

theorem start_two {b : UInt8} (h : 0xC2 ≤ b.toNat ∧ b.toNat < 0xE0) :
    start b = .begun ⟨b.toNat - 0xC0, 1, 0, 0x80, 0xBF⟩ := by
  unfold start
  simp only [UInt8.lt_iff_toNat_lt, UInt8.reduceToNat]
  rw [if_neg (by omega), if_neg (by omega), if_pos (by omega)]

theorem start_three {b : UInt8} (h : 0xE0 ≤ b.toNat ∧ b.toNat < 0xF0) :
    start b = .begun ⟨b.toNat - 0xE0, 1, 1, if b = 0xE0 then 0xA0 else 0x80,
      if b = 0xED then 0x9F else 0xBF⟩ := by
  unfold start
  simp only [UInt8.lt_iff_toNat_lt, UInt8.reduceToNat]
  rw [if_neg (by omega), if_neg (by omega), if_neg (by omega), if_pos (by omega)]

theorem start_four {b : UInt8} (h : 0xF0 ≤ b.toNat ∧ b.toNat < 0xF5) :
    start b = .begun ⟨b.toNat - 0xF0, 1, 2, if b = 0xF0 then 0x90 else 0x80,
      if b = 0xF4 then 0x8F else 0xBF⟩ := by
  unfold start
  simp only [UInt8.lt_iff_toNat_lt, UInt8.reduceToNat]
  rw [if_neg (by omega), if_neg (by omega), if_neg (by omega), if_neg (by omega),
    if_pos (by omega)]

/-- How a character is spelled: by one octet, or by one that begins it and others that end it. -/
theorem utf8EncodeChar_cases (c : Char) :
    (∃ b, String.utf8EncodeChar c = [b] ∧ start b = .whole c) ∨
    ∃ b more begun, String.utf8EncodeChar c = b :: more ∧ start b = .begun begun ∧
      begun.Completes more c := by
  have hvalid : c.toNat.isValidChar := c.valid
  unfold Nat.isValidChar at hvalid
  rw [← Char.ofNat_toNat c]
  generalize c.toNat = n at hvalid
  by_cases h₁ : n < 0x80
  · obtain ⟨b, hb⟩ : ∃ b : UInt8, n = b.toNat := by
      refine ⟨UInt8.ofNat n, ?_⟩
      simp only [UInt8.toNat_ofNat']
      omega
    rw [hb] at h₁ ⊢
    have hstart : start b = .whole (Char.ofNat b.toNat) := by
      unfold start
      rw [if_pos (UInt8.lt_iff_toNat_lt.2 h₁)]
    exact .inl ⟨b, utf8EncodeChar_of_start_eq_whole hstart, hstart⟩
  by_cases h₂ : n < 0x800
  · obtain ⟨b₁, b₂, hb₁, hb₂, hn⟩ : ∃ b₁ b₂ : UInt8, (0xC2 ≤ b₁.toNat ∧ b₁.toNat < 0xE0) ∧
        (0x80 ≤ b₂.toNat ∧ b₂.toNat ≤ 0xBF) ∧
        n = (b₁.toNat - 0xC0) * 64 + (b₂.toNat - 0x80) := by
      refine ⟨UInt8.ofNat (n / 64 + 0xC0), UInt8.ofNat (n % 64 + 0x80), ?_⟩
      simp only [UInt8.toNat_ofNat']
      omega
    rw [hn]
    refine .inr ⟨b₁, [b₂], _, utf8EncodeChar_two hb₁ hb₂, start_two hb₁, ?_⟩
    simp only [Begun.Completes, UInt8.le_iff_toNat_le]
    exact ⟨hb₂, trivial, trivial⟩
  by_cases h₃ : n < 0x10000
  · obtain ⟨b₁, b₂, b₃, hb₁, hb₂, hb₃, hlong, hsurrogate, hn⟩ : ∃ b₁ b₂ b₃ : UInt8,
        (0xE0 ≤ b₁.toNat ∧ b₁.toNat < 0xF0) ∧ (0x80 ≤ b₂.toNat ∧ b₂.toNat ≤ 0xBF) ∧
        (0x80 ≤ b₃.toNat ∧ b₃.toNat ≤ 0xBF) ∧ (b₁.toNat = 0xE0 → 0xA0 ≤ b₂.toNat) ∧
        (b₁.toNat = 0xED → b₂.toNat ≤ 0x9F) ∧
        n = ((b₁.toNat - 0xE0) * 64 + (b₂.toNat - 0x80)) * 64 + (b₃.toNat - 0x80) := by
      refine ⟨UInt8.ofNat (n / 4096 + 0xE0), UInt8.ofNat (n / 64 % 64 + 0x80),
        UInt8.ofNat (n % 64 + 0x80), ?_⟩
      simp only [UInt8.toNat_ofNat']
      omega
    rw [hn]
    refine .inr ⟨b₁, [b₂, b₃], _, utf8EncodeChar_three hb₁ hb₂ hb₃ hlong hsurrogate,
      start_three hb₁, ?_⟩
    simp only [Begun.Completes, UInt8.le_iff_toNat_le, ← UInt8.toNat_inj, apply_ite UInt8.toNat,
      UInt8.reduceToNat]
    refine ⟨?_, hb₃, trivial, trivial⟩
    split_ifs <;> omega
  · obtain ⟨b₁, b₂, b₃, b₄, hb₁, hb₂, hb₃, hb₄, hlong, hlast, hn⟩ : ∃ b₁ b₂ b₃ b₄ : UInt8,
        (0xF0 ≤ b₁.toNat ∧ b₁.toNat < 0xF5) ∧ (0x80 ≤ b₂.toNat ∧ b₂.toNat ≤ 0xBF) ∧
        (0x80 ≤ b₃.toNat ∧ b₃.toNat ≤ 0xBF) ∧ (0x80 ≤ b₄.toNat ∧ b₄.toNat ≤ 0xBF) ∧
        (b₁.toNat = 0xF0 → 0x90 ≤ b₂.toNat) ∧ (b₁.toNat = 0xF4 → b₂.toNat ≤ 0x8F) ∧
        n = (((b₁.toNat - 0xF0) * 64 + (b₂.toNat - 0x80)) * 64 + (b₃.toNat - 0x80)) * 64 +
          (b₄.toNat - 0x80) := by
      refine ⟨UInt8.ofNat (n / 262144 + 0xF0), UInt8.ofNat (n / 4096 % 64 + 0x80),
        UInt8.ofNat (n / 64 % 64 + 0x80), UInt8.ofNat (n % 64 + 0x80), ?_⟩
      simp only [UInt8.toNat_ofNat']
      omega
    rw [hn]
    refine .inr ⟨b₁, [b₂, b₃, b₄], _, utf8EncodeChar_four hb₁ hb₂ hb₃ hb₄ hlong hlast,
      start_four hb₁, ?_⟩
    simp only [Begun.Completes, UInt8.le_iff_toNat_le, ← UInt8.toNat_inj, apply_ite UInt8.toNat,
      UInt8.reduceToNat]
    refine ⟨?_, hb₃, hb₄, trivial, trivial⟩
    split_ifs <;> omega

/-! ## The spelling of a text -/

/-- What a character is spelled with is decoded as that character. -/
theorem decodeFrom_utf8EncodeChar (c : Char) (valid : Nat) (done : List Char)
    (rest : List UInt8) :
    ∃ valid', decodeFrom valid done none (String.utf8EncodeChar c ++ rest) =
      decodeFrom valid' (c :: done) none rest := by
  rcases utf8EncodeChar_cases c with ⟨b, henc, hstart⟩ | ⟨b, more, begun, henc, hstart, hmore⟩
  · refine ⟨valid + 1, ?_⟩
    rw [henc, List.singleton_append, decodeFrom, hstart]
  · refine ⟨valid + begun.seen + more.length, ?_⟩
    rw [henc, List.cons_append, decodeFrom, hstart]
    exact hmore.decodeFrom_append valid done rest

theorem decodeFrom_flatMap (cs : List Char) (valid : Nat) (done : List Char) :
    decodeFrom valid done none (cs.flatMap String.utf8EncodeChar) = .ok (done.reverse ++ cs) := by
  induction cs generalizing valid done with
  | nil => simp [decodeFrom]
  | cons c cs ih =>
    obtain ⟨valid', hdecode⟩ :=
      decodeFrom_utf8EncodeChar c valid done (cs.flatMap String.utf8EncodeChar)
    rw [List.flatMap_cons, hdecode, ih]
    simp

/-- Octets that are decoded are those that the characters are spelled with. -/
theorem eq_flatMap_of_decodeFrom_eq_ok {octets : List UInt8} {valid : Nat} {done cs : List Char}
    (h : decodeFrom valid done none octets = .ok cs) :
    ∃ tail, cs = done.reverse ++ tail ∧ octets = tail.flatMap String.utf8EncodeChar := by
  induction hn : octets.length using Nat.strong_induction_on generalizing octets valid done with
  | _ n ih =>
    cases octets with
    | nil =>
      simp only [decodeFrom, Except.ok.injEq] at h
      exact ⟨[], by simp [h], rfl⟩
    | cons b bs =>
      have hstep : ∀ {valid' : Nat} {c : Char} {more rest : List UInt8}, bs = more ++ rest →
          String.utf8EncodeChar c = b :: more →
          decodeFrom valid' (c :: done) none rest = .ok cs →
          ∃ tail, cs = done.reverse ++ tail ∧ b :: bs = tail.flatMap String.utf8EncodeChar := by
        intro valid' c more rest hbs henc hrest
        have hshorter : rest.length < n := by
          rw [← hn, hbs, List.length_cons, List.length_append]
          omega
        obtain ⟨tail, hcs, hoctets⟩ := ih rest.length hshorter hrest rfl
        refine ⟨c :: tail, by simp [hcs], ?_⟩
        rw [List.flatMap_cons, henc, ← hoctets, hbs, List.cons_append]
      rw [decodeFrom] at h
      cases hstart : start b with
      | whole c =>
        simp only [hstart] at h
        exact hstep (List.nil_append bs).symm (utf8EncodeChar_of_start_eq_whole hstart) h
      | begun begun =>
        simp only [hstart] at h
        obtain ⟨more, rest, c, hbs, hmore⟩ := exists_completes_of_decodeFrom_eq_ok h
        rw [hbs, hmore.decodeFrom_append] at h
        exact hstep hbs (utf8EncodeChar_of_completes hstart hmore) h
      | stray =>
        simp only [hstart] at h
        cases h

/-- Decoding what a text is spelled with gives the text back. -/
theorem decode_encode (text : String) : decode (encode text) = .ok text := by
  rw [decode, encode, decodeFrom_flatMap]
  simp [Except.map]

/-- Only what a text is spelled with is decoded as that text. -/
theorem decode_eq_ok_iff {octets : List UInt8} {text : String} :
    decode octets = .ok text ↔ octets = encode text := by
  constructor
  · intro h
    cases hd : decodeFrom 0 [] none octets with
    | error fault => simp [decode, hd, Except.map] at h
    | ok cs =>
      obtain ⟨tail, hcs, hoctets⟩ := eq_flatMap_of_decodeFrom_eq_ok hd
      have htext : String.ofList cs = text := by simpa [decode, hd, Except.map] using h
      rw [hoctets, encode, ← htext, hcs]
      simp
  · intro h
    rw [h, decode_encode]

end DeviceStatus.Utf8
