import DeviceStatus.Notice

/-!
# Clock styles

The clocks that can be chosen for the lock screen, and the layout that each of them asks for. Every
style shows exactly one of six clock slots; `hidden` is the empty slot of a clock that is switched
off.
-/

namespace DeviceStatus.Clock

/-- A clock that can be chosen. -/
inductive Style where
  /-- No clock. -/
  | hidden
  /-- The plain digital clock. -/
  | default
  /-- The digital clock with a bold hour. -/
  | defaultBold
  /-- Hour above minute. -/
  | sammy
  /-- Hour above minute, in bold. -/
  | sammyBold
  /-- Hour above minute, the hour in the accent colour. -/
  | sammyHourAccent
  /-- Hour above minute, the minute in the accent colour. -/
  | sammyMinuteAccent
  /-- The time in words. -/
  | customText
  /-- A clock face. -/
  | customAnalog
  /-- A clock face with numerals. -/
  | customNumAnalog
  /-- A second clock face. -/
  | duAnalog
deriving DecidableEq, Repr

/-- All styles, in the order of their numbers, which start at 1. -/
def Style.all : List Style :=
  [hidden, default, defaultBold, sammy, sammyBold, sammyHourAccent, sammyMinuteAccent, customText,
   customAnalog, customNumAnalog, duAnalog]

/-- The number of a style in the settings. -/
def Style.number : Style → Nat
  | hidden => 1
  | default => 2
  | defaultBold => 3
  | sammy => 4
  | sammyBold => 5
  | sammyHourAccent => 6
  | sammyMinuteAccent => 7
  | customText => 8
  | customAnalog => 9
  | customNumAnalog => 10
  | duAnalog => 11

/-- The name of a style. -/
def Style.name : Style → String
  | hidden => "Hidden"
  | default => "Default"
  | defaultBold => "DefaultBold"
  | sammy => "Sammy"
  | sammyBold => "SammyBold"
  | sammyHourAccent => "SammyHourAccent"
  | sammyMinuteAccent => "SammyMinuteAccent"
  | customText => "CustomText"
  | customAnalog => "CustomAnalog"
  | customNumAnalog => "CustomNumAnalog"
  | duAnalog => "DuAnalog"

/-- The style with a number. -/
def Style.ofNumber? (value : Int32) : Option Style :=
  Style.all.find? fun style => value.toInt = style.number

/-- The style that a stored setting means: a number without a style means the default clock. -/
def Style.ofSetting (value : Int32) : Choice Style :=
  .ofOption (Style.ofNumber? value) default (.unknownClock value)

/-- A place for a clock on the screen. -/
inductive Slot where
  /-- The empty place of a clock that is switched off. -/
  | hidden
  /-- The digital clock. -/
  | smallClock
  /-- The clock in words. -/
  | textClock
  /-- The clock face. -/
  | customAnalog
  /-- The clock face with numerals. -/
  | customNumAnalog
  /-- The second clock face. -/
  | duAnalog
deriving DecidableEq, Repr

/-- All slots, from first to last on the screen. -/
def Slot.all : List Slot :=
  [hidden, smallClock, textClock, customAnalog, customNumAnalog, duAnalog]

/-- The name of a slot. -/
def Slot.name : Slot → String
  | hidden => "Hidden"
  | smallClock => "SmallClock"
  | textClock => "TextClock"
  | customAnalog => "CustomAnalog"
  | customNumAnalog => "CustomNumAnalog"
  | duAnalog => "DuAnalog"

/-- The view that the status area is laid out below. -/
inductive Anchor where
  /-- The digital clock. -/
  | clock
  /-- The clock in words. -/
  | textClock
  /-- The clock face. -/
  | analogClock
  /-- The clock face with numerals. -/
  | numberedAnalogClock
  /-- The second clock face. -/
  | duClock
deriving DecidableEq, Repr

/-- The id of a view. -/
def Anchor.viewId : Anchor → String
  | clock => "clock_view"
  | textClock => "custom_text_clock_view"
  | analogClock => "custom_clock_view"
  | numberedAnalogClock => "custom_num_clock_view"
  | duClock => "du_clock_view"

/-- The layout of the clock. -/
structure Layout where
  /-- The one slot that shows a clock. -/
  visible : Slot
  /-- The view that the status area goes below. -/
  anchor : Anchor
  /-- The line spacing of the digital clock, if it is not the usual one. -/
  lineSpacing : Option Float32 := none
deriving DecidableEq

/-- The slots, each with whether it is visible. -/
def Layout.slots (layout : Layout) : List (Slot × Bool) :=
  Slot.all.map fun slot => (slot, decide (layout.visible = slot))

/-- The line spacing of the stacked clocks. -/
def stackedLineSpacing : Float32 := 0.8

/-- The line spacing of the digital clock where its style asks for none. -/
def usualLineSpacing : Float32 := 1.0

/-- The layout of a style. -/
def Style.layout : Style → Layout
  | hidden => ⟨.hidden, .clock, none⟩
  | default | defaultBold => ⟨.smallClock, .clock, none⟩
  | sammy | sammyBold | sammyHourAccent | sammyMinuteAccent =>
    ⟨.smallClock, .clock, some stackedLineSpacing⟩
  | customText => ⟨.textClock, .textClock, none⟩
  | customAnalog => ⟨.customAnalog, .analogClock, none⟩
  | customNumAnalog => ⟨.customNumAnalog, .numberedAnalogClock, none⟩
  | duAnalog => ⟨.duAnalog, .duClock, none⟩

end DeviceStatus.Clock
