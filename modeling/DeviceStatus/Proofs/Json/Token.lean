import DeviceStatus.Proofs.Json.Numeral
import DeviceStatus.Proofs.Json.Quotation

/-!
# Lexemes are read as they are written

A lexeme tells by its first octet what it is, and all but numbers tell where they end. A number ends
at the first octet that cannot belong to it, so it is read as it is written unless another number
follows immediately, which never happens inside a value. Hence the tokens of a text are those of the
lexemes of its value, one by one, and white space leaves no trace.
-/

namespace DeviceStatus.Json

namespace Lexeme

/-- The token that a lexeme is read as. -/
def token : Lexeme → Token
  | beginObject => .beginObject
  | endObject => .endObject
  | beginArray => .beginArray
  | endArray => .endArray
  | colon => .colon
  | comma => .comma
  | text t => .text t.verdict
  | number n => .number n.verdict
  | word _ => .word (.ok ())

/-- Whether a lexeme is a number. -/
def isNumber : Lexeme → Bool
  | number _ => true
  | _ => false

/-- Two lexemes are not both numbers. -/
def Apart (x y : Lexeme) : Prop := x.isNumber = true → y.isNumber = false

end Lexeme

/-! ## One lexeme -/

/-- What starts with a digit is a number. -/
theorem scanToken_digit {b : UInt8} (hb : isDigit b = true) (rest : List UInt8) :
    scanToken b rest =
      (.number (scanNumeral false (b :: rest)).1, (scanNumeral false (b :: rest)).2) := by
  have hne : ∀ c : UInt8, isDigit c = false → b ≠ c := fun c => ne_of_isDigit hb
  simp only [scanToken, hb, hne 0x7B (by decide), hne 0x7D (by decide), hne 0x5B (by decide),
    hne 0x5D (by decide), hne 0x3A (by decide), hne 0x2C (by decide), hne 0x22 (by decide),
    hne 0x2D (by decide), if_true, if_false]

/-- A number starts with an octet by which it is read as a whole, if the octets behind it do not
belong to it. -/
theorem scanToken_number (n : Number) :
    ∃ (b : UInt8) (more : List UInt8), n.octets = b :: more ∧ isSpace b = false ∧
      ∀ rest, EndsNumber rest → scanToken b (more ++ rest) = (.number n.verdict, rest) := by
  have hscan : ∀ rest, EndsNumber rest → _ := fun _ => scanNumeral_octets n
  obtain ⟨isNegative, whole, hwhole, fraction, exponent⟩ := n
  cases isNegative with
  | true =>
    refine ⟨0x2D, whole.octets ++ (fractionOctets fraction ++ exponentOctets exponent), rfl,
      by decide, fun rest hrest => ?_⟩
    rw [List.append_assoc, List.append_assoc]
    exact congrArg (fun r : Verdict Int32 × List UInt8 => (Token.number r.1, r.2))
      (hscan rest hrest)
  | false =>
    obtain ⟨b, more, hoctets, hb⟩ := whole.octets_eq_cons
    refine ⟨b, more ++ (fractionOctets fraction ++ exponentOctets exponent), ?_, ?_,
      fun rest hrest => ?_⟩
    · simp [Number.octets, hoctets]
    · simp [isSpace, ne_of_isDigit hb (show isDigit 0x20 = false by decide),
        ne_of_isDigit hb (show isDigit 0x0A = false by decide),
        ne_of_isDigit hb (show isDigit 0x09 = false by decide),
        ne_of_isDigit hb (show isDigit 0x0D = false by decide)]
    · have hread := hscan rest hrest
      rw [hoctets] at hread
      rw [scanToken_digit hb, List.append_assoc, List.append_assoc]
      exact congrArg (fun r : Verdict Int32 × List UInt8 => (Token.number r.1, r.2)) hread

/-- A lexeme starts with an octet by which it is read as a whole, if it is no number or the octets
behind it do not belong to a number. -/
theorem scanToken_lexeme (x : Lexeme) :
    ∃ (b : UInt8) (more : List UInt8), x.octets = b :: more ∧ isSpace b = false ∧
      ∀ rest, (x.isNumber = true → EndsNumber rest) →
        scanToken b (more ++ rest) = (x.token, rest) := by
  cases x with
  | beginObject => exact ⟨_, _, rfl, by decide, fun _ _ => rfl⟩
  | endObject => exact ⟨_, _, rfl, by decide, fun _ _ => rfl⟩
  | beginArray => exact ⟨_, _, rfl, by decide, fun _ _ => rfl⟩
  | endArray => exact ⟨_, _, rfl, by decide, fun _ _ => rfl⟩
  | colon => exact ⟨_, _, rfl, by decide, fun _ _ => rfl⟩
  | comma => exact ⟨_, _, rfl, by decide, fun _ _ => rfl⟩
  | text t =>
    refine ⟨0x22, t.flatMap Letter.octets ++ [0x22], rfl, by decide, fun rest _ => ?_⟩
    rw [List.append_assoc]
    exact congrArg (fun r : Verdict String × List UInt8 => (Token.text r.1, r.2))
      (scanQuotation_text t rest)
  | number n =>
    obtain ⟨b, more, hoctets, hb, hscan⟩ := scanToken_number n
    exact ⟨b, more, hoctets, hb, fun rest hrest => hscan rest (hrest rfl)⟩
  | word w => cases w <;> exact ⟨_, _, rfl, by decide, fun _ _ => rfl⟩

/-! ## All lexemes of a text -/

theorem isSpace_iff (b : UInt8) : isSpace b = true ↔ IsBlank b := by
  simp only [isSpace, IsBlank, Bool.or_eq_true, decide_eq_true_eq]
  tauto

/-- White space does not belong to a number. -/
theorem endsNumber_blanks {blanks octets : List UInt8} (h : ∀ b ∈ blanks, IsBlank b)
    (hoctets : EndsNumber octets) : EndsNumber (blanks ++ octets) := by
  cases blanks with
  | nil => exact hoctets
  | cons b blanks =>
    rintro _ ⟨⟩
    rcases h b List.mem_cons_self with rfl | rfl | rfl | rfl <;> decide

/-- A lexeme that is no number does not go on with one. -/
theorem endsNumber_lexeme {x : Lexeme} (h : x.isNumber = false) (octets : List UInt8) :
    EndsNumber (x.octets ++ octets) := by
  intro b hb
  cases x with
  | number => cases h
  | word w => cases w <;> (cases hb; decide)
  | _ => cases hb; decide

/-- Behind a lexeme the text does not go on with a number, unless the next lexeme is one. -/
theorem Laid.endsNumber {xs : List Lexeme} {octets : List UInt8} (h : Laid xs octets)
    (hhead : ∀ x ∈ xs.head?, x.isNumber = false) : EndsNumber octets := by
  cases h with
  | nil hblanks =>
    rw [← List.append_nil octets]
    exact endsNumber_blanks hblanks (by rintro _ ⟨⟩)
  | cons hblanks x => exact endsNumber_blanks hblanks (endsNumber_lexeme (hhead x rfl) _)

theorem tokensUpTo_nil (limit : Nat) : tokensUpTo limit [] = [] := by
  cases limit <;> rfl

/-- White space is left out. -/
theorem tokensUpTo_blanks {blanks : List UInt8} (h : ∀ b ∈ blanks, IsBlank b) (limit : Nat)
    (octets : List UInt8) :
    tokensUpTo (limit + blanks.length) (blanks ++ octets) = tokensUpTo limit octets := by
  induction blanks with
  | nil => rfl
  | cons b blanks ih =>
    obtain ⟨hb, hothers⟩ := List.forall_mem_cons.1 h
    have hspace := (isSpace_iff b).2 hb
    simpa only [List.length_cons, ← Nat.add_assoc, List.cons_append, tokensUpTo, hspace, if_true]
      using ih hothers

/-- Lexemes are read one by one if no two numbers touch. -/
theorem Laid.tokensUpTo_eq {xs : List Lexeme} {octets : List UInt8} (h : Laid xs octets)
    (hapart : xs.IsChain Lexeme.Apart) {limit : Nat} (hlimit : octets.length ≤ limit) :
    tokensUpTo limit octets = xs.map Lexeme.token := by
  induction h generalizing limit with
  | @nil blanks hblanks =>
    obtain ⟨more, rfl⟩ := Nat.exists_eq_add_of_le' hlimit
    have hskip := tokensUpTo_blanks hblanks more []
    rwa [List.append_nil, tokensUpTo_nil] at hskip
  | @cons blanks octets xs hblanks x hrest ih =>
    obtain ⟨b, more, hoctets, hspace, hscan⟩ := scanToken_lexeme x
    obtain ⟨hnext, hxs⟩ := List.isChain_cons.1 hapart
    rw [List.length_append, hoctets, List.cons_append, List.length_cons] at hlimit
    -- white space and the first octet of the lexeme pay for the steps that are taken here
    obtain ⟨left, rfl⟩ := Nat.exists_eq_add_of_le' (show blanks.length + 1 ≤ limit by omega)
    have hread := hscan octets fun hx => hrest.endsNumber fun y hy => hnext y hy hx
    have hstep :
        tokensUpTo (left + 1) (b :: (more ++ octets)) = x.token :: tokensUpTo left octets := by
      rw [tokensUpTo, hspace]
      simp only [Bool.false_eq_true, if_false, hread]
    rw [Nat.add_comm blanks.length 1, ← Nat.add_assoc, tokensUpTo_blanks hblanks, hoctets,
      List.cons_append, hstep, ih hxs, List.map_cons]
    rw [List.length_append] at hlimit
    omega

/-! ## Lexemes of a value -/

/-- No two numbers touch, and none stands in front: such lexemes may follow any other. -/
structure Resumes (xs : List Lexeme) : Prop where
  /-- No two numbers touch. -/
  isChain : xs.IsChain Lexeme.Apart
  /-- The first lexeme is no number. -/
  head : ∀ x ∈ xs.head?, x.isNumber = false

theorem Resumes.cons {x : Lexeme} (hx : x.isNumber = false) {xs : List Lexeme}
    (h : xs.IsChain Lexeme.Apart) : Resumes (x :: xs) where
  isChain := List.isChain_cons.2 ⟨fun _ _ hnumber => absurd hnumber (by simp [hx]), h⟩
  head := by
    rintro _ ⟨⟩
    exact hx

theorem Resumes.behind {xs ys : List Lexeme} (hys : Resumes ys) (hxs : xs.IsChain Lexeme.Apart) :
    (xs ++ ys).IsChain Lexeme.Apart :=
  List.isChain_append.2 ⟨hxs, hys.isChain, fun _ _ y hy _ => hys.head y hy⟩

theorem Resumes.furtherElements {ys : List Lexeme} (hys : Resumes ys) {elements : List Value}
    (h : ∀ v ∈ elements, v.lexemes.IsChain Lexeme.Apart) :
    Resumes (furtherElementLexemes elements ++ ys) := by
  induction elements with
  | nil => exact hys
  | cons v elements ih =>
    obtain ⟨hv, hothers⟩ := List.forall_mem_cons.1 h
    rw [furtherElementLexemes, List.cons_append, List.append_assoc]
    exact .cons rfl ((ih hothers).behind hv)

theorem Resumes.furtherMembers {ys : List Lexeme} (hys : Resumes ys)
    {members : List (Letters × Value)} (h : ∀ m ∈ members, m.2.lexemes.IsChain Lexeme.Apart) :
    Resumes (furtherMemberLexemes members ++ ys) := by
  induction members with
  | nil => exact hys
  | cons m members ih =>
    obtain ⟨name, v⟩ := m
    obtain ⟨hv, hothers⟩ := List.forall_mem_cons.1 h
    simp only [furtherMemberLexemes, List.cons_append, List.append_assoc]
    have hvalue : Resumes (.colon :: (v.lexemes ++ (furtherMemberLexemes members ++ ys))) :=
      .cons rfl ((ih hothers).behind hv)
    exact .cons rfl (Resumes.cons rfl hvalue.isChain).isChain

/-- Inside a value no two numbers touch. -/
theorem Value.isChain_lexemes (v : Value) : v.lexemes.IsChain Lexeme.Apart := by
  induction v with
  | word w => exact .singleton _
  | number n => exact .singleton _
  | text t => exact .singleton _
  | array elements ih =>
    have hend : Resumes [.endArray] := .cons rfl .nil
    cases elements with
    | nil => exact (Resumes.cons rfl hend.isChain).isChain
    | cons v elements =>
      obtain ⟨hv, hothers⟩ := List.forall_mem_cons.1 ih
      rw [Value.lexemes, elementLexemes, List.append_assoc]
      exact (Resumes.cons rfl ((hend.furtherElements hothers).behind hv)).isChain
  | object members ih =>
    have hend : Resumes [.endObject] := .cons rfl .nil
    cases members with
    | nil => exact (Resumes.cons rfl hend.isChain).isChain
    | cons m members =>
      obtain ⟨name, v⟩ := m
      obtain ⟨hv, hothers⟩ := List.forall_mem_cons.1 ih
      have hvalue :
          Resumes (.colon :: (v.lexemes ++ (furtherMemberLexemes members ++ [.endObject]))) :=
        .cons rfl ((hend.furtherMembers hothers).behind hv)
      simp only [Value.lexemes, memberLexemes, List.cons_append, List.append_assoc]
      exact (Resumes.cons rfl (Resumes.cons rfl hvalue.isChain).isChain).isChain

/-- The tokens of a text are those of the lexemes of its value. -/
theorem IsTextOf.tokens_eq {octets : List UInt8} {v : Value} (h : IsTextOf octets v) :
    tokens octets = v.lexemes.map Lexeme.token :=
  Laid.tokensUpTo_eq h v.isChain_lexemes (Nat.le_refl _)

/-! ## Checking a text -/

/-- Whether octets are lexemes one after another, with white space anywhere between them. -/
def isLaid : List Lexeme → List UInt8 → Bool
  | [], octets => octets.all isSpace
  | x :: xs, octets =>
    let rest := octets.dropWhile isSpace
    x.octets.isPrefixOf rest && isLaid xs (rest.drop x.octets.length)

theorem dropWhile_blanks {blanks : List UInt8} (h : ∀ b ∈ blanks, IsBlank b) (x : Lexeme)
    (octets : List UInt8) :
    (blanks ++ (x.octets ++ octets)).dropWhile isSpace = x.octets ++ octets := by
  obtain ⟨b, more, hoctets, hspace, -⟩ := scanToken_lexeme x
  rw [List.dropWhile_append_of_pos fun b hb => (isSpace_iff b).2 (h b hb), hoctets,
    List.cons_append, List.dropWhile_cons_of_neg (by simp [hspace])]

theorem laid_iff_isLaid {xs : List Lexeme} {octets : List UInt8} :
    Laid xs octets ↔ isLaid xs octets = true := by
  constructor
  · intro h
    induction h with
    | nil hblanks => exact List.all_eq_true.2 fun b hb => (isSpace_iff b).2 (hblanks b hb)
    | cons hblanks x _ ih =>
      rw [isLaid, dropWhile_blanks hblanks]
      simp [ih]
  · induction xs generalizing octets with
    | nil => exact fun h => .nil fun b hb => (isSpace_iff b).1 (List.all_eq_true.1 h b hb)
    | cons x xs ih =>
      intro h
      obtain ⟨hx, hxs⟩ := Bool.and_eq_true_iff.1 h
      obtain ⟨rest, hrest⟩ := List.isPrefixOf_iff_prefix.1 hx
      have hblanks : ∀ b ∈ octets.takeWhile isSpace, IsBlank b :=
        fun b hb => (isSpace_iff b).1 (List.all_eq_true.1 List.all_takeWhile b hb)
      have hlaid := Laid.cons hblanks x (ih hxs)
      rwa [← hrest, List.drop_left, hrest, List.takeWhile_append_dropWhile] at hlaid

instance (octets : List UInt8) (v : Value) : Decidable (IsTextOf octets v) :=
  decidable_of_iff _ laid_iff_isLaid.symm

end DeviceStatus.Json
