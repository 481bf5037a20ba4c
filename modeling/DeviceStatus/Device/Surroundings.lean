import DeviceStatus.Lockscreen.Request
import DeviceStatus.Resources

/-!
# Fixed surroundings

Everything that the status view asks of its surroundings, as plain data: stored settings, resources,
owner information, what the widgets report, and how the user manager answers.
-/

namespace DeviceStatus.Device

open Lockscreen

/-- Owner information as it is stored. -/
structure OwnerInfo where
  /-- The text of the owner of the device. -/
  device : Option String := none
  /-- For some users, whether the information is on, and its text. -/
  users : List (Int32 × Bool × Option String) := []

/-- What is stored for a user; for other users the information is off. -/
def OwnerInfo.ofUser (o : OwnerInfo) (user : Int32) : Bool × Option String :=
  (o.users.lookup user).getD (false, none)

/-- What the status view is shown in. -/
structure Surroundings where
  /-- Stored settings, latest first; without a user a value is shared by all users. -/
  settings : List ((Settings.Setting × Option Int32) × Int32) := []
  /-- The resources. -/
  resources : Resources := .fixed
  /-- The owner information. -/
  ownerInfo : OwnerInfo := {}
  /-- Whether the status area shows a header. -/
  hasHeader : Bool := false
  /-- The colour that the text of the clock has by itself. -/
  textColor : UInt32 := 0xff000000
  /-- Why switching users fails, if it does. -/
  switchError : Option String := none
  /-- Why stopping a user fails, if it does. -/
  stopError : Option String := none
  /-- The generator of patterns. -/
  bestPattern : String → String → String

namespace Surroundings

/-- The value stored for a setting: the user's own comes before the shared one. -/
def setting (s : Surroundings) (setting : Settings.Setting) (user : Int32) : Option Int32 :=
  (s.settings.lookup (setting, some user)).or (s.settings.lookup (setting, none))

/-- Stores a value for a setting, of one user or of all. -/
def store (s : Surroundings) (setting : Settings.Setting) (user : Option Int32) (value : Int32) :
    Surroundings :=
  { s with settings := ((setting, user), value) :: s.settings }

/-- The outcome of an order that may fail for a reason. -/
def outcome : Option String → Except String Unit
  | some cause => .error cause
  | none => .ok ()

/-- The answer to a question. -/
def answerQuery (s : Surroundings) : (q : Query) → q.Answer
  | .clockTextColor => s.textColor
  | .hasHeader => s.hasHeader
  | .setting setting user => s.setting setting user
  | .dimension d => s.resources.dimension d
  | .label l => s.resources.label l
  | .accent => s.resources.accent
  | .deviceOwnerInfo => s.ownerInfo.device
  | .isOwnerInfoEnabled user => (s.ownerInfo.ofUser user).1
  | .ownerInfo user => (s.ownerInfo.ofUser user).2
  | .bestPattern locale skeleton => s.bestPattern locale skeleton

/-- The answer to an order to the user manager. -/
def answerUserOrder (s : Surroundings) : UserOrder → Except String Unit
  | .switchUser _ => outcome s.switchError
  | .stopUser .. => outcome s.stopError

/-- The answer to a question about a device that is asleep, of the system user, and offers no
logout. -/
def idleFact : (f : Fact) → f.Answer
  | .isInteractive => false
  | .isLogoutEnabled => false
  | .currentUser => 0

/-- The answers to all requests; questions about the device are answered by the device itself. -/
def answers (s : Surroundings) : Answers
  | .fact f => idleFact f
  | .query q => s.answerQuery q
  | .command _ => ()
  | .user o => s.answerUserOrder o
  | .log _ => ()

end Surroundings

end DeviceStatus.Device
