import DeviceStatus.Failure

/-!
# Notices

What is worth a line in the log: a stored setting without a meaning, which is replaced by a default,
a timer that fires unasked, and a logout that fails. A `Choice` is the meaning found for a stored
setting together with the notice it gives rise to.
-/

namespace DeviceStatus

/-- Something worth a line in the log. -/
inductive Notice where
  /-- No clock has this number. -/
  | unknownClock (value : Int32)
  /-- No date style has this number. -/
  | unknownDate (value : Int32)
  /-- No alignment has this number. -/
  | unknownAlignment (value : Int32)
  /-- No typeface has this number. -/
  | unknownFont (value : Int32)
  /-- The marquee timer fired while it was not running. -/
  | idleMarqueeTimer
  /-- The current user could not be logged out. -/
  | logoutFailed (failure : Failure)
deriving DecidableEq, Repr

/-- How grave a notice is. -/
inductive Severity where
  /-- Work goes on as usual. -/
  | warning
  /-- Something was not done. -/
  | error
deriving DecidableEq, Repr

/-- How grave a notice is. -/
def Notice.severity : Notice → Severity
  | logoutFailed _ => .error
  | _ => .warning

/-- The notice in words. -/
def Notice.message : Notice → String
  | unknownClock value => s!"unknown clock selection {value.toInt}, using default"
  | unknownDate value => s!"unknown date selection {value.toInt}, using default"
  | unknownAlignment value => s!"unknown text clock alignment {value.toInt}, using start"
  | unknownFont value => s!"unknown font index {value.toInt}, using default"
  | idleMarqueeTimer => "Marquee timer fired with nothing pending"
  | logoutFailed failure => "Failed to logout user: " ++ failure.report

/-- The meaning of a stored setting. -/
structure Choice (α : Type) where
  /-- What the setting means. -/
  value : α
  /-- What is to be said about it. -/
  notice : Option Notice := none
deriving DecidableEq, Repr

/-- The meaning that was found, or else a default with a notice. -/
def Choice.ofOption (found : Option α) (default : α) (notice : Notice) : Choice α :=
  match found with
  | some value => ⟨value, none⟩
  | none => ⟨default, some notice⟩

end DeviceStatus
