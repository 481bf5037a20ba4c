/-!
# Events of the device

What happens to the device, and what is told of it. Two sources tell events: the monitor, which
follows the user and the power button, and the configuration. Every change is told as one event,
except that setting a policy or a locale to what it is already is not told.
-/

namespace DeviceStatus.Device

/-- Something that listeners are told. -/
inductive Event where
  /-- The time has changed. -/
  | time
  /-- The time zone has changed. -/
  | timeZone (zone : String)
  /-- The lock screen is shown or hidden. -/
  | visibility (isShowing : Bool)
  /-- The device starts to wake up. -/
  | wake
  /-- The device has gone to sleep, for a reason. -/
  | sleep (why : Int32)
  /-- Another user is the current one. -/
  | userSwitch (user : Int32)
  /-- Whether users may log out has changed. -/
  | logoutEnabled
  /-- The density or the scale of fonts has changed. -/
  | density
  /-- The locale has changed. -/
  | locale (locale : String)
deriving DecidableEq, Repr

/-- Who tells events. -/
inductive Source where
  /-- The monitor of the device. -/
  | monitor
  /-- The configuration. -/
  | configuration
deriving DecidableEq, Repr

/-- Who tells an event. -/
def Event.source : Event → Source
  | density | locale _ => .configuration
  | _ => .monitor

/-- Something that happens to the device. -/
inductive Change where
  /-- The clock goes on or is set. -/
  | time
  /-- The time zone changes. -/
  | timeZone (zone : String)
  /-- The lock screen is shown or hidden. -/
  | visibility (isShowing : Bool)
  /-- The device starts to wake up. -/
  | wake
  /-- The device has gone to sleep, for a reason. -/
  | sleep (why : Int32)
  /-- The switch to a user is complete. -/
  | userSwitch (user : Int32)
  /-- It is settled whether users may log out. -/
  | setLogoutEnabled (isEnabled : Bool)
  /-- The density or the scale of fonts changes. -/
  | density
  /-- The locale is settled. -/
  | setLocale (locale : String)
deriving DecidableEq, Repr

/-- What is known of the device. -/
structure Status where
  /-- Whether the device is in use. -/
  isInteractive : Bool := false
  /-- Whether users may log out. -/
  isLogoutEnabled : Bool := false
  /-- The current user. -/
  currentUser : Int32 := 0
  /-- The locale. -/
  locale : String
deriving DecidableEq, Repr

/-- The status after a change. -/
def Status.after (s : Status) : Change → Status
  | .wake => { s with isInteractive := true }
  | .sleep _ => { s with isInteractive := false }
  | .userSwitch user => { s with currentUser := user }
  | .setLogoutEnabled isEnabled => { s with isLogoutEnabled := isEnabled }
  | .setLocale locale => { s with locale }
  | .time | .timeZone _ | .visibility _ | .density => s

/-- The event that is told of a change, if any is. -/
def Status.eventOf (s : Status) : Change → Option Event
  | .time => some .time
  | .timeZone zone => some (.timeZone zone)
  | .visibility isShowing => some (.visibility isShowing)
  | .wake => some .wake
  | .sleep why => some (.sleep why)
  | .userSwitch user => some (.userSwitch user)
  | .setLogoutEnabled isEnabled =>
    if isEnabled = s.isLogoutEnabled then none else some .logoutEnabled
  | .density => some .density
  | .setLocale locale => if locale = s.locale then none else some (.locale locale)

end DeviceStatus.Device
