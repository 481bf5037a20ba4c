/-!
# Faults of a JSON text

Why a text cannot be read as the value it should hold. The first thing that is wrong, reading from
left to right, decides.
-/

namespace DeviceStatus.Json

/-- Why a JSON text cannot be read. -/
inductive Fault where
  /-- It is not JSON, or it says something that no value can hold. -/
  | malformed
  /-- It ends too early. -/
  | cutShort
  /-- It is JSON, but not of the expected type or range. -/
  | mismatched
deriving DecidableEq, Repr

/-- What a part of a text amounts to, by the use that is made of it: less is asked of what is only
passed over. -/
structure Verdict (α : Type) where
  /-- The value, if it is needed. -/
  kept : Except Fault α
  /-- Whether the part can be passed over. -/
  skipped : Except Fault Unit

namespace Verdict

/-- A part that is fine. -/
def ok (value : α) : Verdict α := ⟨.ok value, .ok ()⟩

/-- A part that is wrong in any use. -/
def fault (f : Fault) : Verdict α := ⟨.error f, .error f⟩

/-- The fault of a part that stands where something else is expected: its own, or else that it is of
the wrong type. -/
def mismatch (v : Verdict α) : Fault :=
  match v.kept with
  | .ok _ => .mismatched
  | .error f => f

end Verdict

end DeviceStatus.Json
