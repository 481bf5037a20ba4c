import DeviceStatus.Json.Fault

/-!
# Numbers in JSON

A numeral has an integer part and perhaps a fraction and an exponent. Only a numeral that is an
integer, written without a fraction, an exponent or a negative zero, and that fits into a signed
32-bit word, is a value here; other numerals are of the wrong type, and those that are too large
even for double precision are malformed. A numeral that is only passed over may be of any size.
-/

namespace DeviceStatus.Json

/-- A numeral. -/
structure Numeral where
  /-- Whether a minus sign stands in front. -/
  isNegative : Bool
  /-- The digits of the integer part. -/
  digits : List Nat
  /-- The digits behind the point, if there is one. -/
  fraction : Option (List Nat) := none
  /-- The sign, which is set for a minus sign, and the digits of the exponent, if there is one. -/
  exponent : Option (Bool × List Nat) := none
deriving DecidableEq, Repr

namespace Numeral

/-- The number that digits spell. -/
def ofDigits (digits : List Nat) : Nat := digits.foldl (fun n d => 10 * n + d) 0

/-- The largest number that the digits of a numeral are gathered in. -/
def greatestSignificand : Nat := 0xffffffffffffffff

/-- Digits gathered into `significand * 10 ^ exponent`. -/
structure Gathered where
  /-- The digits that fit. -/
  significand : Nat := 0
  /-- The power of ten. -/
  exponent : Int := 0
deriving DecidableEq, Repr

/-- Whether one more digit fits. -/
def Gathered.fits (g : Gathered) (d : Nat) : Bool := g.significand * 10 + d ≤ greatestSignificand

/-- Gathers the integer part: from the first digit that does not fit, digits only count as powers of
ten. -/
def Gathered.integerPart (g : Gathered) : List Nat → Gathered
  | [] => g
  | d :: rest =>
    if g.fits d then Gathered.integerPart ⟨g.significand * 10 + d, g.exponent⟩ rest
    else ⟨g.significand, g.exponent + (rest.length + 1 : Nat)⟩

/-- Gathers the fraction: from the first digit that does not fit, digits are left out. -/
def Gathered.fractionPart (g : Gathered) : List Nat → Gathered
  | [] => g
  | d :: rest =>
    if g.fits d then Gathered.fractionPart ⟨g.significand * 10 + d, g.exponent - 1⟩ rest
    else g

/-- The digits of a numeral, without its exponent. -/
def gathered (n : Numeral) : Gathered :=
  (Gathered.integerPart {} n.digits).fractionPart (n.fraction.getD [])

/-- The greatest exponent that is computed with. -/
def greatestExponent : Int := 0x7fffffff

/-- The least exponent that is computed with. -/
def leastExponent : Int := -0x80000000

/-- Whether `significand * 10 ^ exponent` is too large for double precision, for a significand that
is not too large by itself. The significand and the power of ten are each rounded before they are
multiplied. -/
def exceedsDouble (significand : Nat) (exponent : Int) : Bool :=
  if exponent ≤ 0 then false
  else if exponent ≤ 308 then
    (Float.ofNat significand * Float.ofScientific 1 false exponent.toNat).isInf
  else significand != 0

/-- Whether a numeral is too large for double precision. -/
def isOutOfRange (n : Numeral) : Bool :=
  let g := n.gathered
  match n.exponent with
  | none => exceedsDouble g.significand g.exponent
  | some (isNegative, digits) =>
    let exponent : Int := ofDigits digits
    if exponent > greatestExponent then g.significand != 0 && !isNegative
    else
      let total := if isNegative then g.exponent - exponent else g.exponent + exponent
      exceedsDouble g.significand (max leastExponent (min greatestExponent total))

/-- The integer that a numeral is, unless it has a fraction, an exponent or a negative zero. -/
def integer? (n : Numeral) : Option Int :=
  if n.fraction.isSome || n.exponent.isSome then none
  else
    let magnitude := ofDigits n.digits
    if n.isNegative then
      if magnitude = 0 then none else some (-magnitude)
    else some magnitude

/-- Whether an integer fits into a signed 32-bit word. -/
def fitsInt32 (i : Int) : Bool := -0x80000000 ≤ i && i ≤ 0x7fffffff

/-- The word that a numeral is. -/
def int32? (n : Numeral) : Option Int32 :=
  match n.integer? with
  | some i => if fitsInt32 i then some (Int32.ofInt i) else none
  | none => none

/-- What a numeral amounts to. -/
def verdict (n : Numeral) : Verdict Int32 :=
  let kept :=
    if n.isOutOfRange then .error .malformed
    else
      match n.int32? with
      | some v => .ok v
      | none => .error .mismatched
  ⟨kept, .ok ()⟩

end Numeral

/-- Whether an octet is a decimal digit. -/
def isDigit (b : UInt8) : Bool := 0x30 ≤ b && b ≤ 0x39

/-- The digits at the start of a text, and the rest. -/
def spanDigits (octets : List UInt8) : List Nat × List UInt8 :=
  ((octets.takeWhile isDigit).map (·.toNat - 0x30), octets.dropWhile isDigit)

/-- A numeral that lacks a digit: a text that goes on is malformed, one that ends is cut short, but
only for a reader that keeps the number. -/
def missingDigit (rest : List UInt8) : Verdict Int32 :=
  ⟨.error (if rest.isEmpty then .cutShort else .malformed), .error .malformed⟩

/-- Reads the exponent of a numeral, if there is one, and gives what follows. -/
def scanExponent (n : Numeral) : List UInt8 → Verdict Int32 × List UInt8
  | b :: rest =>
    if b = 0x65 ∨ b = 0x45 then
      let (isNegative, rest) := match rest with
        | s :: rest' => if s = 0x2D then (true, rest') else if s = 0x2B then (false, rest')
          else (false, s :: rest')
        | [] => (false, [])
      match spanDigits rest with
      | ([], rest) => (missingDigit rest, [])
      | (digits, rest) =>
        (Numeral.verdict { n with exponent := some (isNegative, digits) }, rest)
    else (n.verdict, b :: rest)
  | [] => (n.verdict, [])

/-- Reads the fraction of a numeral, if there is one, and what follows it. -/
def scanFraction (n : Numeral) : List UInt8 → Verdict Int32 × List UInt8
  | b :: rest =>
    if b = 0x2E then
      match spanDigits rest with
      | ([], rest) => (missingDigit rest, [])
      | (digits, rest) => scanExponent { n with fraction := some digits } rest
    else scanExponent n (b :: rest)
  | [] => scanExponent n []

/-- Reads a numeral behind its sign: its first digit is zero only if it is the only one. -/
def scanNumeral (isNegative : Bool) (octets : List UInt8) : Verdict Int32 × List UInt8 :=
  match spanDigits octets with
  | ([], rest) => (missingDigit rest, [])
  | (digits, rest) =>
    if digits.head? = some 0 ∧ digits.length > 1 then (.fault .malformed, [])
    else scanFraction ⟨isNegative, digits, none, none⟩ rest

end DeviceStatus.Json
