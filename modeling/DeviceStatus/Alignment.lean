import DeviceStatus.Clock.Style

/-!
# Alignment

Where the text clock, and the text that follows it, stands on the screen. Only the clock in words
can start at the left; under any other clock the text is centred.
-/

namespace DeviceStatus

/-- The alignment chosen for the clock in words. -/
inductive TextClockAlignment where
  /-- At the start of the line. -/
  | start
  /-- In the middle. -/
  | center
deriving DecidableEq, Repr

/-- The name of an alignment. -/
def TextClockAlignment.name : TextClockAlignment → String
  | start => "Start"
  | center => "Center"

/-- The alignment with a number. -/
def TextClockAlignment.ofNumber? (value : Int32) : Option TextClockAlignment :=
  if value = 0 then some start else if value = 1 then some center else none

/-- The alignment that a stored setting means: a number without one means the start. -/
def TextClockAlignment.ofSetting (value : Int32) : Choice TextClockAlignment :=
  .ofOption (ofNumber? value) start (.unknownAlignment value)

/-- To which side a text is drawn. -/
inductive Gravity where
  /-- To the start of the line. -/
  | start
  /-- To the middle. -/
  | center
deriving DecidableEq, Repr

/-- The name of a gravity. -/
def Gravity.name : Gravity → String
  | start => "Start"
  | center => "Center"

/-- How a text is aligned. -/
structure AlignmentStyle where
  /-- To which side it is drawn. -/
  gravity : Gravity
  /-- The pixels left free in front of it. -/
  paddingStart : Int32
deriving DecidableEq, Repr

/-- In the middle, without padding. -/
def AlignmentStyle.centered : AlignmentStyle := ⟨.center, 0⟩

/-- The alignment of a text under a clock. -/
def alignUnder (clock : Clock.Style) (alignment : TextClockAlignment) (startPadding : Int32) :
    AlignmentStyle :=
  match clock, alignment with
  | .customText, .start => ⟨.start, startPadding⟩
  | _, _ => .centered

end DeviceStatus
