import DeviceStatus.Json.Token
import Mathlib.Data.Nat.Digits.Defs
import Mathlib.Data.List.Chain

/-!
# JSON as it is written

The grammar of JSON texts. A value is a tree of words, numbers, texts, arrays and objects, and the
tree keeps how each text and each number is spelled: which letters of a text are escaped and how,
and the digits of a number. The lexemes of a value stand one after another with white space anywhere
between them, and that is all in which two texts of one tree can differ (`IsTextOf`).

What a text or a number means is said here without regard to how it is read: `Letters.value?` is the
string that a text spells, and `Number.integer?` the integer that a number without fraction and
exponent spells.
-/

namespace DeviceStatus.Json

/-! ## Texts -/

/-- A hexadecimal digit, which may be a capital letter. -/
structure HexDigit where
  /-- The value. -/
  value : Fin 16
  /-- Whether it is written as a capital, if it is a letter. -/
  isCapital : Bool
deriving DecidableEq, Repr

/-- The octet of a hexadecimal digit. -/
def HexDigit.octet (d : HexDigit) : UInt8 :=
  if d.value.val < 10 then UInt8.ofNat (0x30 + d.value.val)
  else if d.isCapital then UInt8.ofNat (0x41 + (d.value.val - 10))
  else UInt8.ofNat (0x61 + (d.value.val - 10))

/-- Four hexadecimal digits. -/
structure HexUnit where
  /-- The first digit. -/
  first : HexDigit
  /-- The second digit. -/
  second : HexDigit
  /-- The third digit. -/
  third : HexDigit
  /-- The last digit. -/
  last : HexDigit
deriving DecidableEq, Repr

/-- The number that four hexadecimal digits spell. -/
def HexUnit.value (u : HexUnit) : Nat :=
  0x1000 * u.first.value.val + 0x100 * u.second.value.val + 0x10 * u.third.value.val +
    u.last.value.val

/-- The escapes of two octets: the octet behind the backslash, and the character that is meant. -/
def shortEscapes : List (UInt8 × Char) :=
  [(0x22, '"'), (0x5C, '\\'), (0x2F, '/'), (0x62, '\x08'), (0x66, '\x0C'), (0x6E, '\n'),
    (0x72, '\r'), (0x74, '\t')]

/-- What stands between the marks of a text, one after another. -/
inductive Letter where
  /-- A character that stands for itself. -/
  | plain (c : Char) (h : 0x20 ≤ c.toNat ∧ c ≠ '"' ∧ c ≠ '\\')
  /-- A backslash and an octet. -/
  | short (octet : UInt8) (c : Char) (h : (octet, c) ∈ shortEscapes)
  /-- A backslash, the octet for `u` and four hexadecimal digits. -/
  | unit (u : HexUnit)
deriving DecidableEq, Repr

/-- The octets of a letter. -/
def Letter.octets : Letter → List UInt8
  | plain c _ => String.utf8EncodeChar c
  | short octet _ _ => [0x5C, octet]
  | unit u => [0x5C, 0x75, u.first.octet, u.second.octet, u.third.octet, u.last.octet]

/-- What stands between the marks of a text. -/
abbrev Letters := List Letter

/-- The first halves of characters that are escaped as two. -/
def IsHighSurrogate (u : Nat) : Prop := 0xD800 ≤ u ∧ u ≤ 0xDBFF

/-- The second halves. -/
def IsLowSurrogate (u : Nat) : Prop := 0xDC00 ≤ u ∧ u ≤ 0xDFFF

instance (u : Nat) : Decidable (IsHighSurrogate u) := inferInstanceAs (Decidable (_ ∧ _))

instance (u : Nat) : Decidable (IsLowSurrogate u) := inferInstanceAs (Decidable (_ ∧ _))

namespace Letters

/-- The characters that a text spells; none if a half of a character stands alone. -/
def chars? : Letters → Option (List Char)
  | [] => some []
  | .plain c _ :: rest => (chars? rest).map (c :: ·)
  | .short _ c _ :: rest => (chars? rest).map (c :: ·)
  | .unit u :: rest =>
    if IsHighSurrogate u.value then
      match rest with
      | .unit v :: rest =>
        if IsLowSurrogate v.value then
          (chars? rest).map
            (Char.ofNat (0x10000 + (u.value - 0xD800) * 0x400 + (v.value - 0xDC00)) :: ·)
        else none
      | _ => none
    else if IsLowSurrogate u.value then none
    else (chars? rest).map (Char.ofNat u.value :: ·)

/-- The string that a text spells. -/
def value? (t : Letters) : Option String := t.chars?.map String.ofList

/-- The octets of a text with its marks. -/
def octets (t : Letters) : List UInt8 := 0x22 :: t.flatMap Letter.octets ++ [0x22]

end Letters

/-! ## Numbers -/

/-- Decimal digits, at least one. -/
structure Digits where
  /-- The digits, the first one first. -/
  list : List (Fin 10)
  /-- There is one. -/
  ne_nil : list ≠ []
deriving DecidableEq, Repr

namespace Digits

/-- The number that digits spell. -/
def value (d : Digits) : Nat := Nat.ofDigits 10 (d.list.reverse.map (·.val))

/-- The octets of digits. -/
def octets (d : Digits) : List UInt8 := d.list.map fun i => UInt8.ofNat (0x30 + i.val)

end Digits

/-- The exponent of a number. -/
structure Exponent where
  /-- Whether the letter is a capital. -/
  isCapital : Bool
  /-- The sign, if one is written, which is set for a minus sign. -/
  sign : Option Bool
  /-- The digits. -/
  digits : Digits
deriving DecidableEq, Repr

/-- The octets of an exponent. -/
def Exponent.octets (e : Exponent) : List UInt8 :=
  (if e.isCapital then 0x45 else 0x65 : UInt8) ::
    (match e.sign with
      | none => []
      | some isNegative => [if isNegative then 0x2D else 0x2B]) ++ e.digits.octets

/-- The octets of the fraction of a number. -/
def fractionOctets : Option Digits → List UInt8
  | none => []
  | some digits => 0x2E :: digits.octets

/-- The octets of the exponent of a number. -/
def exponentOctets : Option Exponent → List UInt8
  | none => []
  | some e => e.octets

/-- A number in JSON. -/
structure Number where
  /-- Whether a minus sign stands in front. -/
  isNegative : Bool
  /-- The integer part. -/
  whole : Digits
  /-- No zero stands in front of other digits. -/
  length_whole : whole.list.head?.map (·.val) = some 0 → whole.list.length = 1
  /-- The digits behind the point, if there is one. -/
  fraction : Option Digits := none
  /-- The exponent, if there is one. -/
  exponent : Option Exponent := none
deriving DecidableEq, Repr

namespace Number

/-- The octets of a number. -/
def octets (n : Number) : List UInt8 :=
  (if n.isNegative then [0x2D] else []) ++
    (n.whole.octets ++ (fractionOctets n.fraction ++ exponentOctets n.exponent))

/-- The integer that a number spells, if it has no fraction and no exponent and is not written as
the negative of zero. -/
def integer? (n : Number) : Option Int :=
  if n.fraction = none ∧ n.exponent = none ∧ ¬ (n.isNegative ∧ n.whole.value = 0) then
    some (if n.isNegative then -n.whole.value else n.whole.value)
  else none

end Number

/-! ## Values -/

/-- The words. -/
inductive Word where
  /-- Nothing. -/
  | null
  /-- Truth. -/
  | true
  /-- Falsehood. -/
  | false
deriving DecidableEq, Repr

/-- The octets of a word. -/
def Word.octets : Word → List UInt8
  | null => [0x6E, 0x75, 0x6C, 0x6C]
  | true => [0x74, 0x72, 0x75, 0x65]
  | false => [0x66, 0x61, 0x6C, 0x73, 0x65]

/-- A value, with the spelling of its texts and numbers. -/
inductive Value where
  /-- A word. -/
  | word (w : Word)
  /-- A number. -/
  | number (n : Number)
  /-- A text. -/
  | text (t : Letters)
  /-- An array. -/
  | array (elements : List Value)
  /-- An object: names and values. -/
  | object (members : List (Letters × Value))

/-- A value is built from words, numbers and texts by arrays and objects. -/
@[induction_eliminator]
theorem Value.induction {motive : Value → Prop} (word : ∀ w, motive (.word w))
    (number : ∀ n, motive (.number n)) (text : ∀ t, motive (.text t))
    (array : ∀ elements, (∀ v ∈ elements, motive v) → motive (.array elements))
    (object : ∀ members, (∀ m ∈ members, motive m.2) → motive (.object members)) (v : Value) :
    motive v :=
  @Value.rec motive (fun elements => ∀ v ∈ elements, motive v)
    (fun members => ∀ m ∈ members, motive m.2) (fun m => motive m.2) word number text array object
    (by simp) (fun _ _ hv hrest => List.forall_mem_cons.2 ⟨hv, hrest⟩)
    (by simp) (fun _ _ hm hrest => List.forall_mem_cons.2 ⟨hm, hrest⟩) (fun _ _ hv => hv) v

/-- The integer that a value spells, if it is a number that spells one. -/
def Value.integer? : Value → Option Int
  | .number n => n.integer?
  | _ => none

/-- The values under a name, in the order of the members that have it. -/
def valuesUnder (name : String) (members : List (Letters × Value)) : List Value :=
  (members.filter fun m => m.1.value? = some name).map (·.2)

/-- The smallest pieces of a JSON text. -/
inductive Lexeme where
  /-- An opening brace. -/
  | beginObject
  /-- A closing brace. -/
  | endObject
  /-- An opening bracket. -/
  | beginArray
  /-- A closing bracket. -/
  | endArray
  /-- A colon. -/
  | colon
  /-- A comma. -/
  | comma
  /-- A text. -/
  | text (t : Letters)
  /-- A number. -/
  | number (n : Number)
  /-- A word. -/
  | word (w : Word)
deriving DecidableEq, Repr

/-- The octets of a lexeme. -/
def Lexeme.octets : Lexeme → List UInt8
  | beginObject => [0x7B]
  | endObject => [0x7D]
  | beginArray => [0x5B]
  | endArray => [0x5D]
  | colon => [0x3A]
  | comma => [0x2C]
  | text t => t.octets
  | number n => n.octets
  | word w => w.octets

mutual

/-- The lexemes of a value. -/
def Value.lexemes : Value → List Lexeme
  | .word w => [.word w]
  | .number n => [.number n]
  | .text t => [.text t]
  | .array elements => .beginArray :: (elementLexemes elements ++ [.endArray])
  | .object members => .beginObject :: (memberLexemes members ++ [.endObject])

/-- The lexemes of the elements of an array. -/
def elementLexemes : List Value → List Lexeme
  | [] => []
  | v :: rest => v.lexemes ++ furtherElementLexemes rest

/-- The lexemes of elements behind the first one. -/
def furtherElementLexemes : List Value → List Lexeme
  | [] => []
  | v :: rest => .comma :: (v.lexemes ++ furtherElementLexemes rest)

/-- The lexemes of the members of an object. -/
def memberLexemes : List (Letters × Value) → List Lexeme
  | [] => []
  | (name, v) :: rest => .text name :: .colon :: (v.lexemes ++ furtherMemberLexemes rest)

/-- The lexemes of members behind the first one. -/
def furtherMemberLexemes : List (Letters × Value) → List Lexeme
  | [] => []
  | (name, v) :: rest => .comma :: .text name :: .colon :: (v.lexemes ++ furtherMemberLexemes rest)

end

/-- An octet of insignificant white space: a blank, a tab or a line break. -/
def IsBlank (b : UInt8) : Prop := b = 0x20 ∨ b = 0x09 ∨ b = 0x0A ∨ b = 0x0D

/-- The octets are lexemes one after another, with white space anywhere between them. -/
inductive Laid : List Lexeme → List UInt8 → Prop
  /-- White space alone. -/
  | nil {blanks : List UInt8} (h : ∀ b ∈ blanks, IsBlank b) : Laid [] blanks
  /-- A lexeme behind white space. -/
  | cons {blanks octets : List UInt8} {xs : List Lexeme} (h : ∀ b ∈ blanks, IsBlank b)
      (x : Lexeme) (hrest : Laid xs octets) : Laid (x :: xs) (blanks ++ (x.octets ++ octets))

/-- The octets are a JSON text of a value. -/
def IsTextOf (octets : List UInt8) (v : Value) : Prop := Laid v.lexemes octets

end DeviceStatus.Json
