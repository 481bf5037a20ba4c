/-!
# Colours

A colour is four channels of eight bits: alpha, red, green and blue, from the highest bits to the
lowest. Two colours are blended channel by channel in single precision.
-/

namespace DeviceStatus

/-- Opaque white. -/
def white : UInt32 := 0xffffffff

/-- The channel of a colour that starts at a bit. -/
def channel (color shift : UInt32) : Float32 := Float32.ofNat ((color >>> shift) &&& 0xff).toNat

/-- A ratio brought into the range from 0 to 1. What is not a number stays so, and the zero of
either sign stays itself. -/
def clampRatio (ratio : Float32) : Float32 :=
  if ratio < 0.0 then 0.0 else if 1.0 < ratio then 1.0 else ratio

/-- One channel of a blend: the fraction is cut off, and what is not a number counts as 0. -/
def blendChannel (source target : UInt32) (ratio : Float32) (shift : UInt32) : UInt32 :=
  let value := channel source shift * (1.0 - ratio) + channel target shift * ratio
  min value.toUInt32 0xff <<< shift

/-- The colour that lies at `ratio` on the way from `source`, at 0, to `target`, at 1. -/
def blend (source target : UInt32) (ratio : Float32) : UInt32 :=
  let ratio := clampRatio ratio
  blendChannel source target ratio 24 ||| blendChannel source target ratio 16 |||
    blendChannel source target ratio 8 ||| blendChannel source target ratio 0

end DeviceStatus
