/-!
# UTF-8

Octets to text and back. The decoder takes one octet at a time and keeps the character it is in the
middle of, so a fault is found at the first octet that cannot go on: it reports how many octets
before that character were well-formed, and how many octets of the character had been accepted, or
that the text simply ended too early.
-/

namespace DeviceStatus.Utf8

/-- Why a sequence of octets is not UTF-8. -/
structure IllFormed where
  /-- The number of octets that form whole characters before the fault. -/
  validUpTo : Nat
  /-- The length of the longest start of a character at the fault; absent if the octets end
  there. -/
  length : Option Nat
deriving DecidableEq, Repr

/-- Octets that were to be a text and are not UTF-8, with the reason. -/
structure Rejected where
  /-- The octets. -/
  octets : List UInt8
  /-- Why they are no text. -/
  cause : IllFormed
deriving DecidableEq, Repr

/-- The fault in words. -/
def IllFormed.message (fault : IllFormed) : String :=
  match fault.length with
  | some n => s!"invalid utf-8 sequence of {n} bytes from index {fault.validUpTo}"
  | none => s!"incomplete utf-8 byte sequence from index {fault.validUpTo}"

/-- A character whose first octets have been read. -/
structure Begun where
  /-- The bits of the code point read so far. -/
  bits : Nat
  /-- How many octets have been read. -/
  seen : Nat
  /-- How many octets are missing after the next one. -/
  further : Nat
  /-- The smallest octet that may come next. -/
  least : UInt8
  /-- The largest octet that may come next. -/
  greatest : UInt8
deriving DecidableEq, Repr

/-- What an octet means at the start of a character. -/
inductive Start where
  /-- It is the whole character. -/
  | whole (c : Char)
  /-- It announces further octets. -/
  | begun (character : Begun)
  /-- No character starts with it. -/
  | stray
deriving DecidableEq, Repr

/-- The meaning of the first octet of a character. The bounds on the second octet exclude the
spellings that are too long, the surrogates and the code points above the last one. -/
def start (b : UInt8) : Start :=
  if b < 0x80 then .whole (Char.ofNat b.toNat)
  else if b < 0xC2 then .stray
  else if b < 0xE0 then .begun ⟨b.toNat - 0xC0, 1, 0, 0x80, 0xBF⟩
  else if b < 0xF0 then
    .begun ⟨b.toNat - 0xE0, 1, 1, if b = 0xE0 then 0xA0 else 0x80, if b = 0xED then 0x9F else 0xBF⟩
  else if b < 0xF5 then
    .begun ⟨b.toNat - 0xF0, 1, 2, if b = 0xF0 then 0x90 else 0x80, if b = 0xF4 then 0x8F else 0xBF⟩
  else .stray

/-- Decodes the octets that follow `valid` well-formed ones, which spelled `done` in reverse; a
character may have been begun. -/
def decodeFrom (valid : Nat) (done : List Char) :
    Option Begun → List UInt8 → Except IllFormed (List Char)
  | none, [] => .ok done.reverse
  | some _, [] => .error ⟨valid, none⟩
  | none, b :: bs =>
    match start b with
    | .whole c => decodeFrom (valid + 1) (c :: done) none bs
    | .begun character => decodeFrom valid done (some character) bs
    | .stray => .error ⟨valid, some 1⟩
  | some character, b :: bs =>
    if b < character.least ∨ character.greatest < b then
      .error ⟨valid, some character.seen⟩
    else
      let bits := character.bits * 64 + (b.toNat - 0x80)
      match character.further with
      | 0 => decodeFrom (valid + character.seen + 1) (Char.ofNat bits :: done) none bs
      | further + 1 =>
        decodeFrom valid done (some ⟨bits, character.seen + 1, further, 0x80, 0xBF⟩) bs

/-- The text that the octets spell. -/
def decode (octets : List UInt8) : Except IllFormed String :=
  (decodeFrom 0 [] none octets).map String.ofList

/-- The octets that spell a text. -/
def encode (text : String) : List UInt8 := text.toList.flatMap String.utf8EncodeChar

end DeviceStatus.Utf8
