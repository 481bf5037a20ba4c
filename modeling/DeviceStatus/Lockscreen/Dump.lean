import DeviceStatus.Lockscreen.View
import DeviceStatus.Number.Shortest
import DeviceStatus.Text.Lines

/-!
# A view in words

The description of a status view for people.
-/

namespace DeviceStatus.Lockscreen.View

/-- The lines that describe a view. -/
def lines (v : View) : List String :=
  ["KeyguardStatusView:",
   "  clock style: " ++ v.clock.name,
   "  owner info visible: " ++ Text.truth v.isOwnerInfoVisible,
   "  pulsing: " ++ Text.truth v.isPulsing,
   "  dark amount: " ++ floatText v.darkAmount,
   "  text color: " ++ Text.hex v.textColor.toNat,
   "  logout visible: " ++ Text.truth v.isLogoutVisible,
   "  locale: " ++ v.locale]

/-- The text that describes a view. -/
def describe (v : View) : String := String.join (v.lines.map Text.line)

end DeviceStatus.Lockscreen.View
