/-!
# White space

The characters with the White_Space property, and texts cut off at them on either side.
-/

namespace DeviceStatus.Text

/-- The white space of ASCII. -/
def asciiBlanks : List Nat := [0x09, 0x0A, 0x0B, 0x0C, 0x0D, 0x20]

/-- The white space beyond ASCII. -/
def furtherBlanks : List Nat :=
  [0x85, 0xA0, 0x1680, 0x2000, 0x2001, 0x2002, 0x2003, 0x2004, 0x2005, 0x2006, 0x2007, 0x2008,
   0x2009, 0x200A, 0x2028, 0x2029, 0x202F, 0x205F, 0x3000]

/-- Whether a character has the White_Space property. -/
def isBlank (c : Char) : Bool := asciiBlanks.contains c.toNat || furtherBlanks.contains c.toNat

/-- The characters without the white space at their start. -/
def trimStart (cs : List Char) : List Char := cs.dropWhile isBlank

/-- The characters without the white space at their end. -/
def trimEnd (cs : List Char) : List Char := (trimStart cs.reverse).reverse

/-- The text without the white space at its ends. -/
def trim (text : String) : String := String.ofList (trimEnd (trimStart text.toList))

end DeviceStatus.Text
