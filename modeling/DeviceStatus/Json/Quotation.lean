import DeviceStatus.Json.Fault
import DeviceStatus.Text.Utf8

/-!
# Quoted text in JSON

Text between quotation marks, with escapes. Characters beyond the basic plane are escaped as two
halves, which must stand together. A text that is only passed over may hold halves that stand alone
and octets that are not UTF-8; a text that is kept may not.
-/

namespace DeviceStatus.Json

/-- A quoted text that has been read in part. -/
structure Quotation where
  /-- The octets of the text so far, last one first. -/
  octets : List UInt8 := []
  /-- The first half of a character whose second half must come next. -/
  half : Option Nat := none
  /-- Whether a half has been found that stands alone. -/
  broken : Bool := false
deriving DecidableEq, Repr

namespace Quotation

/-- The quotation behind one more octet. -/
def push (q : Quotation) (b : UInt8) : Quotation :=
  { q with octets := b :: q.octets, half := none, broken := q.broken || q.half.isSome }

/-- The quotation behind one more character. -/
def pushChar (q : Quotation) (c : Char) : Quotation :=
  { q with octets := (String.utf8EncodeChar c).reverse ++ q.octets, half := none }

/-- Whether a 16-bit unit is the first half of a character. -/
def isFirstHalf (unit : Nat) : Bool := 0xD800 ≤ unit && unit < 0xDC00

/-- Whether a 16-bit unit is the second half of a character. -/
def isSecondHalf (unit : Nat) : Bool := 0xDC00 ≤ unit && unit < 0xE000

/-- The quotation behind an escaped 16-bit unit. -/
def pushUnit (q : Quotation) (unit : Nat) : Quotation :=
  match q.half with
  | some first =>
    if isSecondHalf unit then
      q.pushChar (Char.ofNat (0x10000 + (first - 0xD800) * 0x400 + (unit - 0xDC00)))
    else { q with half := none, broken := true }
  | none =>
    if isFirstHalf unit then { q with half := some unit }
    else if isSecondHalf unit then { q with broken := true }
    else q.pushChar (Char.ofNat unit)

/-- The quotation at its closing mark. -/
def close (q : Quotation) : Verdict String :=
  let kept :=
    if q.broken || q.half.isSome then .error .malformed
    else
      match Utf8.decode q.octets.reverse with
      | .ok text => .ok text
      | .error _ => .error .malformed
  ⟨kept, .ok ()⟩

/-- The quotation where its text ends without a closing mark. -/
def cut (q : Quotation) : Verdict String :=
  ⟨.error (if q.broken then .malformed else .cutShort), .error .cutShort⟩

end Quotation

/-- The value of a hexadecimal digit. -/
def hexDigit? (b : UInt8) : Option Nat :=
  if 0x30 ≤ b ∧ b ≤ 0x39 then some (b.toNat - 0x30)
  else if 0x41 ≤ b ∧ b ≤ 0x46 then some (b.toNat - 0x41 + 10)
  else if 0x61 ≤ b ∧ b ≤ 0x66 then some (b.toNat - 0x61 + 10)
  else none

/-- The 16-bit unit spelled by four hexadecimal digits. -/
def hexUnit? (a b c d : UInt8) : Option Nat := do
  let a ← hexDigit? a
  let b ← hexDigit? b
  let c ← hexDigit? c
  let d ← hexDigit? d
  pure (((a * 16 + b) * 16 + c) * 16 + d)

/-- The octet that a letter behind a backslash stands for. -/
def escaped? (b : UInt8) : Option UInt8 :=
  if b = 0x22 ∨ b = 0x5C ∨ b = 0x2F then some b  -- a quotation mark, a backslash, a slash
  else if b = 0x62 then some 0x08                -- b: backspace
  else if b = 0x66 then some 0x0C                -- f: form feed
  else if b = 0x6E then some 0x0A                -- n: line feed
  else if b = 0x72 then some 0x0D                -- r: carriage return
  else if b = 0x74 then some 0x09                -- t: tab
  else none

/-- Reads a quotation to its closing mark, and gives what follows the mark. -/
def scanQuotation (q : Quotation) : List UInt8 → Verdict String × List UInt8
  | [] => (q.cut, [])
  | b :: rest =>
    if b = 0x22 then (q.close, rest)
    else if b = 0x5C then
      match rest with
      | [] => (q.cut, [])
      | e :: rest =>
        if e = 0x75 then
          match rest with
          | a :: b :: c :: d :: rest =>
            match hexUnit? a b c d with
            | some unit => scanQuotation (q.pushUnit unit) rest
            | none => (.fault .malformed, [])
          | _ => (q.cut, [])
        else
          match escaped? e with
          | some b => scanQuotation (q.push b) rest
          | none => (.fault .malformed, [])
    else if b < 0x20 then (.fault .malformed, [])
    else scanQuotation (q.push b) rest

end DeviceStatus.Json
