import DeviceStatus.Text.Lines

/-!
# Failures and their causes

A failure says what could not be done and lists the chain of causes, from the nearest to the most
remote. Its report numbers the causes when there are several.
-/

namespace DeviceStatus

/-- What could not be done, and why. -/
structure Failure where
  /-- What could not be done. -/
  headline : String
  /-- The causes, nearest first. -/
  causes : List String
deriving DecidableEq, Repr

/-- The causes, numbered from `n` on, each on lines of its own. -/
def numberedCauses (n : Nat) : List String → String
  | [] => ""
  | cause :: causes =>
    "\n" ++ Text.indent s!"    {n}: " "       " cause ++ numberedCauses (n + 1) causes

/-- The whole failure in words. -/
def Failure.report (failure : Failure) : String :=
  match failure.causes with
  | [] => failure.headline
  | [cause] => failure.headline ++ "\n\nCaused by:\n" ++ Text.indent "    " "    " cause
  | causes => failure.headline ++ "\n\nCaused by:" ++ numberedCauses 0 causes

end DeviceStatus
