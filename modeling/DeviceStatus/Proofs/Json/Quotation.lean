import DeviceStatus.Proofs.Json.Grammar
import DeviceStatus.Proofs.Text.Utf8

/-!
# Texts are read as they are written

A text is read letter by letter, and each letter takes the quotation one step further
(`Quotation.after`), whatever follows. At the closing mark it has become the string that the text
spells, or it is broken if the text spells none; it can be passed over in either case.
-/

namespace DeviceStatus.Json

/-! ## Letters -/

theorem hexDigit?_octet (d : HexDigit) : hexDigit? d.octet = some d.value.val := by
  obtain ⟨value, isCapital⟩ := d
  revert value isCapital
  decide

theorem hexUnit?_octets (u : HexUnit) :
    hexUnit? u.first.octet u.second.octet u.third.octet u.last.octet = some u.value := by
  simp only [hexUnit?, hexDigit?_octet, bind, Option.bind, pure, HexUnit.value, Option.some.injEq]
  omega

/-- A short escape is known by its octet, which is not that of a unit. -/
theorem escaped?_of_mem_shortEscapes {octet : UInt8} {c : Char} (h : (octet, c) ∈ shortEscapes) :
    octet ≠ 0x75 ∧ ∃ b, escaped? octet = some b ∧ String.utf8EncodeChar c = [b] := by
  simp only [shortEscapes, List.mem_cons, Prod.mk.injEq, List.not_mem_nil, or_false] at h
  rcases h with ⟨rfl, rfl⟩ | ⟨rfl, rfl⟩ | ⟨rfl, rfl⟩ | ⟨rfl, rfl⟩ | ⟨rfl, rfl⟩ | ⟨rfl, rfl⟩ |
    ⟨rfl, rfl⟩ | ⟨rfl, rfl⟩ <;> exact ⟨by decide, _, rfl, by decide⟩

/-- The octets of a character beyond ASCII have their highest bit set. -/
theorem mem_utf8EncodeChar {c : Char} {b : UInt8} (h : b ∈ String.utf8EncodeChar c) :
    b.toNat = c.toNat ∨ 0x80 ≤ b.toNat := by
  have hvalid : c.toNat < 0x110000 := by
    have h := c.valid
    rcases h with h | h
    · exact Nat.lt_trans h (by decide)
    · exact h.2
  unfold String.utf8EncodeChar at h
  have hc : c.val.toNat = c.toNat := rfl
  simp only [hc] at h
  split at h
  · next hascii =>
    rw [List.mem_singleton.1 h]
    simp only [UInt8.toNat_ofNat']
    omega
  split at h
  · simp only [List.mem_cons, List.not_mem_nil, or_false] at h
    rcases h with rfl | rfl <;> simp only [UInt8.toNat_ofNat'] <;> omega
  split at h
  · simp only [List.mem_cons, List.not_mem_nil, or_false] at h
    rcases h with rfl | rfl | rfl <;> simp only [UInt8.toNat_ofNat'] <;> omega
  · simp only [List.mem_cons, List.not_mem_nil, or_false] at h
    rcases h with rfl | rfl | rfl | rfl <;> simp only [UInt8.toNat_ofNat'] <;> omega

/-- The quotation behind a letter. -/
def Quotation.after (q : Quotation) : Letter → Quotation
  | .plain c _ => (String.utf8EncodeChar c).foldl push q
  | .short _ c _ => (String.utf8EncodeChar c).foldl push q
  | .unit u => q.pushUnit u.value

theorem scanQuotation_mark (q : Quotation) (rest : List UInt8) :
    scanQuotation q (0x22 :: rest) = (q.close, rest) := by
  rw [scanQuotation.eq_def]
  rfl

theorem scanQuotation_plain {b : UInt8} (hmark : b ≠ 0x22) (hslash : b ≠ 0x5C)
    (hcontrol : ¬ b < 0x20) (q : Quotation) (rest : List UInt8) :
    scanQuotation q (b :: rest) = scanQuotation (q.push b) rest := by
  rw [scanQuotation.eq_def]
  simp only [hmark, hslash, hcontrol, if_false]

theorem scanQuotation_short {octet b : UInt8} (hunit : octet ≠ 0x75)
    (hescaped : escaped? octet = some b) (q : Quotation) (rest : List UInt8) :
    scanQuotation q (0x5C :: octet :: rest) = scanQuotation (q.push b) rest := by
  rw [scanQuotation.eq_def]
  simp [hunit, hescaped]

/-- Octets that are no mark, no backslash and no control character stand for themselves. -/
theorem scanQuotation_push {octets : List UInt8} (rest : List UInt8)
    (h : ∀ b ∈ octets, b ≠ 0x22 ∧ b ≠ 0x5C ∧ ¬ b < 0x20) (q : Quotation) :
    scanQuotation q (octets ++ rest) = scanQuotation (octets.foldl Quotation.push q) rest := by
  induction octets generalizing q with
  | nil => rfl
  | cons b octets ih =>
    obtain ⟨⟨hmark, hslash, hcontrol⟩, hothers⟩ := List.forall_mem_cons.1 h
    rw [List.cons_append, scanQuotation_plain hmark hslash hcontrol, ih hothers]
    rfl

/-- A letter is read as a whole, whatever follows it. -/
theorem scanQuotation_letter (q : Quotation) (l : Letter) (rest : List UInt8) :
    scanQuotation q (l.octets ++ rest) = scanQuotation (q.after l) rest := by
  cases l with
  | plain c h =>
    refine scanQuotation_push rest (fun b hb => ?_) q
    obtain ⟨hcontrol, hmark, hslash⟩ := h
    have hne : ∀ d : Char, c ≠ d → c.toNat ≠ d.toNat := fun d hcd heq => hcd (Char.toNat_inj.1 heq)
    have hmark := hne _ hmark
    have hslash := hne _ hslash
    simp only [ne_eq, ← UInt8.toNat_inj, UInt8.lt_iff_toNat_lt, UInt8.reduceToNat]
    rcases mem_utf8EncodeChar hb with hascii | hbeyond
    · rw [hascii]
      exact ⟨hmark, hslash, by omega⟩
    · omega
  | short octet c h =>
    obtain ⟨hunit, b, hescaped, hc⟩ := escaped?_of_mem_shortEscapes h
    rw [Quotation.after, hc]
    exact scanQuotation_short hunit hescaped q rest
  | unit u =>
    simp [Letter.octets, scanQuotation, hexUnit?_octets, Quotation.after]

/-- A text is read up to its closing mark. -/
theorem scanQuotation_octets (q : Quotation) (t : Letters) (rest : List UInt8) :
    scanQuotation q (t.flatMap Letter.octets ++ 0x22 :: rest) =
      ((t.foldl Quotation.after q).close, rest) := by
  induction t generalizing q with
  | nil => exact scanQuotation_mark q rest
  | cons l t ih =>
    rw [List.flatMap_cons, List.append_assoc, scanQuotation_letter, ih]
    rfl

/-! ## What has been read at the closing mark -/

/-- What characters amount to that a text spells, if it spells any: their string, and in any case
something to pass over. -/
def verdictOf (cs? : Option (List Char)) : Verdict String :=
  ⟨match cs? with
    | some cs => .ok (String.ofList cs)
    | none => .error .malformed, .ok ()⟩

/-- What a text amounts to. -/
def Letters.verdict (t : Letters) : Verdict String := verdictOf t.chars?

theorem map_append_map_cons {α : Type} (cs : List α) (c : α) (ds? : Option (List α)) :
    (ds?.map (c :: ·)).map (cs ++ ·) = ds?.map ((cs ++ [c]) ++ ·) := by
  cases ds? <;> simp

theorem Letters.verdict_kept_eq_ok_iff {t : Letters} {s : String} :
    t.verdict.kept = .ok s ↔ t.value? = some s := by
  unfold verdict verdictOf value?
  cases t.chars? <;> simp

/-- The quotation holds characters and nothing is amiss. -/
structure Quotation.Spelled (q : Quotation) (cs : List Char) : Prop where
  /-- The octets are those of the characters. -/
  octets : q.octets.reverse = cs.flatMap String.utf8EncodeChar
  /-- No half of a character stands open. -/
  half : q.half = none
  /-- None has been alone. -/
  broken : q.broken = false

namespace Quotation

variable {q : Quotation}

theorem Spelled.close {cs : List Char} (h : q.Spelled cs) : q.close = verdictOf (some cs) := by
  have hdecode : Utf8.decode q.octets.reverse = .ok (String.ofList cs) := by
    rw [Utf8.decode_eq_ok_iff, h.octets, Utf8.encode, String.toList_ofList]
  simp [Quotation.close, h.half, h.broken, hdecode, verdictOf]

theorem close_of_broken (h : q.broken = true) : q.close = verdictOf none := by
  simp [Quotation.close, h, verdictOf]

theorem close_of_half (h : q.half.isSome = true) : q.close = verdictOf none := by
  simp [Quotation.close, h, verdictOf]

/-- Octets are added at the end. -/
theorem foldl_push (octets : List UInt8) (q : Quotation) :
    (octets.foldl push q).octets = octets.reverse ++ q.octets ∧
      (octets ≠ [] → (octets.foldl push q).half = none) ∧
      (octets.foldl push q).broken = (q.broken || (!octets.isEmpty && q.half.isSome)) := by
  induction octets generalizing q with
  | nil => simp
  | cons b octets ih =>
    obtain ⟨hoctets, hhalf, hbroken⟩ := ih (q.push b)
    refine ⟨?_, ?_, ?_⟩
    · rw [List.foldl_cons, hoctets]
      simp [push]
    · intro _
      cases octets with
      | nil => rfl
      | cons c octets => exact hhalf (by simp)
    · rw [List.foldl_cons, hbroken]
      simp [push]

theorem broken_after (h : q.broken = true) (l : Letter) : (q.after l).broken = true := by
  cases l with
  | plain c _ => simp [after, (foldl_push _ q).2.2, h]
  | short _ c _ => simp [after, (foldl_push _ q).2.2, h]
  | unit u =>
    unfold after pushUnit
    grind [pushChar]

/-- What is broken stays broken. -/
theorem close_foldl_of_broken (h : q.broken = true) (t : Letters) :
    (t.foldl after q).close = verdictOf none := by
  induction t generalizing q with
  | nil => exact close_of_broken h
  | cons l t ih => exact ih (broken_after h l)

/-- One more character that stands for itself or is escaped by one octet. -/
theorem Spelled.foldl_push {cs : List Char} (h : q.Spelled cs) (c : Char) :
    Spelled ((String.utf8EncodeChar c).foldl push q) (cs ++ [c]) := by
  obtain ⟨hoctets, hhalf, hbroken⟩ := Quotation.foldl_push (String.utf8EncodeChar c) q
  refine ⟨?_, hhalf String.utf8EncodeChar_ne_nil, by simp [hbroken, h.broken, h.half]⟩
  rw [hoctets]
  simp [h.octets]

/-- One more character that is escaped as one or two units. -/
theorem Spelled.pushChar {cs : List Char} (h : q.Spelled cs) (half : Option Nat) (c : Char) :
    Spelled (({ q with half } : Quotation).pushChar c) (cs ++ [c]) :=
  ⟨by simp [Quotation.pushChar, h.octets], rfl, h.broken⟩

theorem isFirstHalf_iff (u : Nat) : isFirstHalf u = true ↔ IsHighSurrogate u := by
  simp [isFirstHalf, IsHighSurrogate]
  omega

theorem isSecondHalf_iff (u : Nat) : isSecondHalf u = true ↔ IsLowSurrogate u := by
  simp [isSecondHalf, IsLowSurrogate]
  omega

/-- The first half of a character stays open. -/
theorem Spelled.after_high {cs : List Char} (h : q.Spelled cs) {u : HexUnit}
    (hu : IsHighSurrogate u.value) : q.after (.unit u) = { q with half := some u.value } := by
  simp [after, pushUnit, h.half, (isFirstHalf_iff _).2 hu]

/-- Behind the first half of a character the text is broken, unless a second half follows. -/
theorem broken_of_half (h : q.half.isSome = true) {l : Letter}
    (hl : ∀ v : HexUnit, l = .unit v → ¬ IsLowSurrogate v.value) : (q.after l).broken = true := by
  have hpush : ∀ c : Char, ((String.utf8EncodeChar c).foldl push q).broken = true := by
    intro c
    simp [(Quotation.foldl_push _ q).2.2, h]
  cases l with
  | plain c _ => exact hpush c
  | short _ c _ => exact hpush c
  | unit v =>
    obtain ⟨first, hfirst⟩ := Option.isSome_iff_exists.1 h
    have hsecond := Bool.eq_false_iff.2 (mt (isSecondHalf_iff v.value).1 (hl v rfl))
    simp [after, pushUnit, hfirst, hsecond]

/-- What letters amount to behind characters that have been read. -/
theorem Spelled.close_foldl {cs : List Char} (h : q.Spelled cs) (t : Letters) :
    (t.foldl after q).close = verdictOf (t.chars?.map (cs ++ ·)) := by
  fun_induction Letters.chars? t generalizing q cs with
  | case1 =>
    rw [Option.map_some, List.append_nil]
    exact h.close
  | case2 c _ rest ih =>
    rw [map_append_map_cons]
    exact ih (h.foldl_push c)
  | case3 _ c _ rest ih =>
    rw [map_append_map_cons]
    exact ih (h.foldl_push c)
  | case4 u hu v rest hv ih =>
    -- two halves of one character
    rw [map_append_map_cons, List.foldl_cons, List.foldl_cons, h.after_high hu]
    have hsecond := (isSecondHalf_iff v.value).2 hv
    have hpair := ih (h.pushChar (some u.value)
      (Char.ofNat (0x10000 + (u.value - 0xD800) * 0x400 + (v.value - 0xDC00))))
    simpa [after, pushUnit, hsecond] using hpair
  | case5 u hu v rest hv =>
    rw [List.foldl_cons, List.foldl_cons, h.after_high hu]
    refine close_foldl_of_broken (broken_of_half rfl ?_) rest
    rintro _ ⟨⟩
    exact hv
  | case6 u rest hu hrest =>
    rw [List.foldl_cons, h.after_high hu]
    cases rest with
    | nil => exact close_of_half rfl
    | cons l rest =>
      refine close_foldl_of_broken (broken_of_half rfl ?_) rest
      rintro v rfl
      exact absurd rfl (hrest v rest)
  | case7 u rest hu hlow =>
    rw [List.foldl_cons]
    refine close_foldl_of_broken ?_ rest
    have hfirst := Bool.eq_false_iff.2 (mt (isFirstHalf_iff u.value).1 hu)
    have hsecond := (isSecondHalf_iff u.value).2 hlow
    simp [after, pushUnit, h.half, hfirst, hsecond]
  | case8 u rest hu hlow ih =>
    have hfirst := Bool.eq_false_iff.2 (mt (isFirstHalf_iff u.value).1 hu)
    have hsecond := Bool.eq_false_iff.2 (mt (isSecondHalf_iff u.value).1 hlow)
    have hafter : q.after (.unit u) = q.pushChar (Char.ofNat u.value) := by
      simp [after, pushUnit, h.half, hfirst, hsecond]
    rw [map_append_map_cons, List.foldl_cons, hafter]
    exact ih (h.pushChar none _)

end Quotation

/-- A text is read as a whole, and amounts to the string that it spells. -/
theorem scanQuotation_text (t : Letters) (rest : List UInt8) :
    scanQuotation {} (t.flatMap Letter.octets ++ 0x22 :: rest) = (t.verdict, rest) := by
  have hempty : Quotation.Spelled {} [] := ⟨rfl, rfl, rfl⟩
  rw [scanQuotation_octets, hempty.close_foldl]
  simp [Letters.verdict]

end DeviceStatus.Json
