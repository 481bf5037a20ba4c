/-!
# The shortest decimal of a binary number

A single-precision number stands for every real number that rounds to it. Of the decimals among
them, the one with the fewest digits is printed; of several, the nearest to the number itself.

A positive number is `significand * 2 ^ exponent`. Everything is compared exactly, in natural
numbers over a common denominator: on the grid of the multiples of `10 ^ e` only the two neighbours
of the number matter, and grids are tried from coarse to fine.
-/

namespace DeviceStatus

/-- The positive number `significand * 2 ^ exponent`. -/
structure Binary where
  /-- The digits. -/
  significand : Nat
  /-- The power of two. -/
  exponent : Int
deriving DecidableEq, Repr

/-- The number `digits * 10 ^ exponent`. -/
structure Decimal where
  /-- The digits. -/
  digits : Nat
  /-- The power of ten. -/
  exponent : Int
deriving DecidableEq, Repr

namespace Binary

/-- The least significand of a normal number. -/
def leastNormal : Nat := 0x800000

/-- Whether the number below is nearer than the number above: so it is at a power of two. -/
def isPowerOfTwo (b : Binary) : Bool := b.significand = leastNormal

/-- Quarters of the unit of `b.exponent` in a number and in the bounds of what rounds to it. -/
def quarters (b : Binary) : Nat × Nat × Nat :=
  let value := 4 * b.significand
  (if b.isPowerOfTwo then value - 1 else value - 2, value, value + 2)

/-- Whether the bounds themselves round to the number: a tie goes to the even significand. -/
def includesBounds (b : Binary) : Bool := b.significand % 2 = 0

/-- The decimal with the exponent `e` that rounds to the number, if there is one: the nearer of the
two neighbours of the number, and the upper one if they are equally near. -/
def onGrid? (b : Binary) (e : Int) : Option Decimal :=
  let (low, value, high) := b.quarters
  let twos := b.exponent - 2
  let scale := Nat.pow 2 twos.toNat * Nat.pow 10 (-e).toNat
  let unit := Nat.pow 10 e.toNat * Nat.pow 2 (-twos).toNat
  let low := low * scale
  let value := value * scale
  let high := high * scale
  let digits := value / unit
  let below := digits * unit
  let above := below + unit
  let belowFits := if b.includesBounds then decide (low ≤ below) else decide (low < below)
  let aboveFits := if b.includesBounds then decide (above ≤ high) else decide (above < high)
  if belowFits && (!aboveFits || decide (value - below < above - value)) then some ⟨digits, e⟩
  else if aboveFits then some ⟨digits + 1, e⟩
  else none

/-- The first decimal found on the grids from `e` down, `steps` of them. -/
def search (b : Binary) : Nat → Int → Option Decimal
  | 0, _ => none
  | steps + 1, e =>
    match b.onGrid? e with
    | some d => some d
    | none => b.search steps (e - 1)

/-- The exponent of the coarsest grid that a single-precision number can need. -/
def coarsestExponent : Int := 39

/-- How many grids there are down to one that separates the smallest numbers. -/
def gridCount : Nat := 100

/-- The shortest decimal that rounds to a positive number. -/
def shortest (b : Binary) : Decimal := (b.search gridCount coarsestExponent).getD ⟨0, 0⟩

end Binary

/-- A decimal written out in full, without an exponent. -/
def Decimal.positional (d : Decimal) : String :=
  let digits := Nat.toDigits 10 d.digits
  match d.exponent with
  | .ofNat n => String.ofList (digits ++ List.replicate n '0')
  | .negSucc n =>
    let places := n + 1
    let padded := List.replicate (places + 1 - digits.length) '0' ++ digits
    String.ofList (padded.take (padded.length - places)) ++ "." ++
      String.ofList (padded.drop (padded.length - places))

/-- The text of a single-precision number with the given bits. -/
def textOfBits (bits : Nat) : String :=
  let sign := if bits / 0x80000000 = 1 then "-" else ""
  let exponent := bits / 0x800000 % 0x100
  let fraction := bits % 0x800000
  if exponent = 255 then
    if fraction = 0 then sign ++ "inf" else "NaN"
  else if exponent = 0 then
    if fraction = 0 then sign ++ "0"
    else sign ++ (Binary.shortest ⟨fraction, -149⟩).positional
  else sign ++ (Binary.shortest ⟨Binary.leastNormal + fraction, (exponent : Int) - 150⟩).positional

/-- The text of a single-precision number: the fewest digits that read back as it, never with an
exponent. -/
def floatText (x : Float32) : String := textOfBits x.toBits.toNat

end DeviceStatus
