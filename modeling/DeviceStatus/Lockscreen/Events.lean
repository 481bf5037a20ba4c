import DeviceStatus.Device.Event
import DeviceStatus.Lockscreen.View

/-!
# What the status view does on an event

The reaction of the view to each event of the device, and the operations that its owner may perform
on it directly.
-/

namespace DeviceStatus.Lockscreen.View

open Device

/-- The time has changed. -/
def onTime : Handler Unit := refreshTime

/-- The time zone has changed. -/
def onTimeZone (zone : String) : Handler Unit := command (.timeZone zone)

/-- The lock screen is shown or hidden; only being shown matters. -/
def onVisibility (isShowing : Bool) : Handler Unit := do
  if isShowing then
    refreshTime
    updateOwnerInfo
    updateLogoutView
    refreshFontsAndSizes
    updateDateStyles

/-- The device starts to wake up. -/
def onWake : Handler Unit := setMarqueeEnabled true

/-- The device has gone to sleep. -/
def onSleep : Handler Unit := setMarqueeEnabled false

/-- Another user is the current one. -/
def onUserSwitch : Handler Unit := do
  refreshFormat
  updateOwnerInfo
  updateLogoutView
  refreshFontsAndSizes
  updateDateStyles

/-- Whether users may log out has changed. -/
def onLogoutEnabled : Handler Unit := updateLogoutView

/-- The density or the scale of fonts has changed. -/
def onDensity : Handler Unit := do
  command .refreshClockSize
  refreshOwnerInfoSize
  loadIconMargins

/-- The locale has changed. -/
def onLocale (locale : String) : Handler Unit := do
  modify fun v => { v with locale }
  refreshFormat

/-- What the view does on an event. -/
def handle : Event → Handler Unit
  | .time => onTime
  | .timeZone zone => onTimeZone zone
  | .visibility isShowing => onVisibility isShowing
  | .wake => onWake
  | .sleep _ => onSleep
  | .userSwitch _ => onUserSwitch
  | .logoutEnabled => onLogoutEnabled
  | .density => onDensity
  | .locale locale => onLocale locale

end View

/-- Something that the owner of a view may do with it. -/
inductive Operation where
  /-- Takes over the clock and the date that are chosen. -/
  | updateAll
  /-- Takes over the clock that is chosen. -/
  | updateSettings
  /-- Takes over the date that is chosen. -/
  | updateDateStyles
  /-- The time goes on while the device dozes. -/
  | dozeTimeTick
  /-- Goes to an amount of darkness. -/
  | setDarkAmount (amount : Float32)
  /-- Notes whether a notification is being pulsed. -/
  | setPulsing (isPulsing : Bool)
  /-- The marquee timer fires. -/
  | marqueeTimerFired
  /-- The status area has gained or lost its header, or neither. -/
  | contentChanged
  /-- The logout button is clicked. -/
  | logOut
  /-- Handles the events that have been put off. -/
  | replay
  /-- Reacts as to an event. -/
  | event (e : Device.Event)

/-- What an operation does, apart from the events that it lets in at its end. -/
def Operation.handler : Operation → Handler Unit
  | updateAll => View.updateAll
  | updateSettings => View.updateSettings
  | updateDateStyles => View.updateDateStyles
  | dozeTimeTick => View.dozeTimeTick
  | setDarkAmount amount => View.setDarkAmount amount
  | setPulsing isPulsing => View.setPulsing isPulsing
  | marqueeTimerFired => View.marqueeTimerFired
  | contentChanged => View.contentChanged
  | logOut => View.logOutCurrentUser
  | replay => pure ()
  | event e => View.handle e

/-- Whether the events that have been put off are handled at the end of an operation: the user
manager may report the end of a switch before it returns. -/
def Operation.replays : Operation → Bool
  | logOut | replay => true
  | _ => false

end DeviceStatus.Lockscreen
