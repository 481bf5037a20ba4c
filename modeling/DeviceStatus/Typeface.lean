import DeviceStatus.Notice

/-!
# Typefaces

The typefaces that can be chosen for the date and the owner information, by their number in a
table.
-/

namespace DeviceStatus

/-- The style of a typeface. -/
inductive TypefaceStyle where
  /-- Upright. -/
  | normal
  /-- Bold. -/
  | bold
  /-- Slanted. -/
  | italic
  /-- Bold and slanted. -/
  | boldItalic
deriving DecidableEq, Repr

/-- The name of a style. -/
def TypefaceStyle.name : TypefaceStyle → String
  | normal => "Normal"
  | bold => "Bold"
  | italic => "Italic"
  | boldItalic => "BoldItalic"

/-- The style with a label; any other label means upright. -/
def TypefaceStyle.ofLabel (label : String) : TypefaceStyle :=
  if label = "BOLD" then bold
  else if label = "ITALIC" then italic
  else if label = "BOLD_ITALIC" then boldItalic
  else normal

/-- A family of letters in one of its styles. -/
structure Typeface where
  /-- The family. -/
  family : String
  /-- The style. -/
  style : TypefaceStyle
deriving DecidableEq, Repr

namespace Typeface

/-- The typeface in words. -/
def describe (t : Typeface) : String := t.family ++ " (" ++ t.style.name ++ ")"

/-- The typefaces that can be chosen, by number. -/
def table : List Typeface :=
  [⟨"sans-serif", .normal⟩,
   ⟨"sans-serif", .bold⟩,
   ⟨"sans-serif", .italic⟩,
   ⟨"sans-serif", .boldItalic⟩,
   ⟨"sans-serif-light", .normal⟩,
   ⟨"sans-serif-light", .italic⟩,
   ⟨"sans-serif-thin", .normal⟩,
   ⟨"sans-serif-thin", .italic⟩,
   ⟨"sans-serif-condensed", .normal⟩,
   ⟨"sans-serif-condensed", .italic⟩,
   ⟨"sans-serif-condensed", .bold⟩,
   ⟨"sans-serif-condensed", .boldItalic⟩,
   ⟨"sans-serif-medium", .normal⟩,
   ⟨"sans-serif-medium", .italic⟩,
   ⟨"sans-serif-black", .normal⟩,
   ⟨"sans-serif-black", .italic⟩,
   ⟨"sans-serif-condensed-light", .normal⟩,
   ⟨"sans-serif-condensed-light", .italic⟩,
   ⟨"cursive", .normal⟩,
   ⟨"cursive", .bold⟩,
   ⟨"casual", .normal⟩,
   ⟨"serif", .normal⟩,
   ⟨"serif", .italic⟩,
   ⟨"serif", .bold⟩,
   ⟨"serif", .boldItalic⟩,
   ⟨"serif-monospace", .normal⟩,
   ⟨"monospace", .normal⟩,
   ⟨"sans-serif-smallcaps", .normal⟩,
   ⟨"google-sans", .normal⟩,
   ⟨"google-sans", .bold⟩,
   ⟨"google-sans-medium", .normal⟩,
   ⟨"google-sans-clock", .normal⟩]

/-- The typeface that stands in for a number without one. -/
def standard : Typeface := ⟨"google-sans", .normal⟩

/-- The typeface with a number. -/
def ofIndex? (index : Int32) : Option Typeface :=
  if index < 0 then none else table[index.toNatClampNeg]?

/-- The typeface that a stored setting means. -/
def ofSetting (index : Int32) : Choice Typeface :=
  .ofOption (ofIndex? index) standard (.unknownFont index)

end Typeface

end DeviceStatus
