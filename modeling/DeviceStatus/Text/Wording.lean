/-!
# Wording of small values

How truth values and hexadecimal numbers are spelled in messages.
-/

namespace DeviceStatus.Text

/-- A truth value in words. -/
def truth (b : Bool) : String := if b then "true" else "false"

/-- The digits of a number in base sixteen, in lower case. -/
def hex (n : Nat) : String := String.ofList (Nat.toDigits 16 n)

/-- The digits of a number in base sixteen, with zeros in front up to `width` digits. -/
def paddedHex (width n : Nat) : String :=
  let digits := Nat.toDigits 16 n
  String.ofList (List.replicate (width - digits.length) '0' ++ digits)

end DeviceStatus.Text
