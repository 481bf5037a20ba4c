import DeviceStatus.Clock.Style
import DeviceStatus.Text.Wording

/-!
# Clock formats

How each clock style shows the time. The digital clock is given a pair of formats, one for 12 and
one for 24 hours, which may contain simple markup; the other clocks draw the time themselves and are
only told that it changed.
-/

namespace DeviceStatus.Clock

/-- The patterns for the time of day that suit a locale. -/
structure Patterns where
  /-- The pattern with 12 hours. -/
  clock12 : String := ""
  /-- The pattern with 24 hours. -/
  clock24 : String := ""
deriving DecidableEq, Repr

/-- The formats of the digital clock. -/
structure Format where
  /-- The format with 12 hours. -/
  format12 : String
  /-- The format with 24 hours. -/
  format24 : String
deriving DecidableEq, Repr

/-- What is to be done when the time changes. -/
inductive Refresh where
  /-- The digital clock shows these formats. -/
  | format (format : Format)
  /-- The clock in this slot is told of the change. -/
  | widget (slot : Slot)
deriving DecidableEq, Repr

/-- Red, green and blue of a colour, as markup writes them. -/
def colorCode (color : UInt32) : String := "#" ++ Text.paddedHex 6 (color &&& 0x00ffffff).toNat

/-- A text in a colour. -/
def colored (color : UInt32) (text : String) : String :=
  "<font color=" ++ colorCode color ++ ">" ++ text ++ "</font>"

/-- What a style does when the time changes. -/
def Style.refresh (style : Style) (patterns : Patterns) (accent : UInt32) : Refresh :=
  match style with
  | default => .format ⟨patterns.clock12, patterns.clock24⟩
  | defaultBold => .format ⟨"<strong>h</strong>:mm", "<strong>kk</strong>:mm"⟩
  | sammyBold => .format ⟨"hh\nmm", "kk\nmm"⟩
  | sammyHourAccent => .format ⟨colored accent "hh" ++ "<br>mm", colored accent "kk" ++ "<br>mm"⟩
  | sammyMinuteAccent => .format ⟨"hh<br>" ++ colored accent "mm", "kk<br>" ++ colored accent "mm"⟩
  | customText | customAnalog | customNumAnalog | duAnalog => .widget style.layout.visible
  | hidden | sammy => .format ⟨"<strong>hh</strong><br>mm", "<strong>kk</strong><br>mm"⟩

end DeviceStatus.Clock
