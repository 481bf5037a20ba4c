import DeviceStatus.Device.Surroundings
import DeviceStatus.Device.System

/-!
# Rehearsals

A rehearsal is a system whose listeners and answerers follow cues. A cue is a condition and a
number: at the n-th occurrence that meets the condition, its deeds are done, which are actions on
the device or changes of the surroundings. A listener has cues of its own for what it hears; the
cues of the rehearsal are for the requests of the view.
-/

namespace DeviceStatus.Device

open Lockscreen

/-- What a cue says is to be done. -/
inductive Deed (ℓ : Type) where
  /-- An action on the device. -/
  | act (a : Action ℓ)
  /-- A change of the surroundings. -/
  | adjust (f : Surroundings → Surroundings)

/-- Deeds that wait for an occurrence. -/
structure Cue (ο ℓ : Type) where
  /-- The occurrences that count. -/
  isMet : ο → Bool
  /-- How many occurrences are missing; none are once the cue has been taken. -/
  countdown : Nat
  /-- What is done at the last of them. -/
  deeds : List (Deed ℓ)

/-- The deeds of a cue at an occurrence, and the cue after it. -/
def Cue.at {ο ℓ : Type} (c : Cue ο ℓ) (o : ο) : List (Deed ℓ) × Cue ο ℓ :=
  if c.isMet o then
    (if c.countdown = 1 then c.deeds else [], { c with countdown := c.countdown - 1 })
  else ([], c)

/-- The deeds of cues at an occurrence, in order, and the cues after it. -/
def Cue.allAt {ο ℓ : Type} (o : ο) : List (Cue ο ℓ) → List (Deed ℓ) × List (Cue ο ℓ)
  | [] => ([], [])
  | c :: rest =>
    let (deeds, c) := c.at o
    let (later, rest) := Cue.allAt o rest
    (deeds ++ later, c :: rest)

/-- A listener that follows cues. -/
inductive Part where
  /-- A listener has a name, may keep silent about what it hears, and has cues for it. -/
  | mk (name : String) (isSilent : Bool) (cues : List (Cue Event Part))

namespace Part

/-- The name of a listener. -/
def name : Part → String
  | mk name _ _ => name

/-- Whether a listener keeps silent about what it hears. -/
def isSilent : Part → Bool
  | mk _ isSilent _ => isSilent

/-- The cues of a listener that has heard nothing. -/
def cues : Part → List (Cue Event Part)
  | mk _ _ cues => cues

end Part

/-- A system whose listeners and answerers follow cues. -/
structure Rehearsal where
  /-- The system. -/
  system : System Part
  /-- What the status view is shown in. -/
  surroundings : Surroundings
  /-- The cues for the requests of the view. -/
  cues : List (Cue Request Part) := []
  /-- The cues of the listeners that have heard something, by source and number. -/
  listenerCues : List ((Source × Nat) × List (Cue Event Part)) := []
  /-- What the listeners and answerers at work still have to do, innermost first. -/
  pending : List (List (Deed Part)) := []

namespace Rehearsal

/-- The rehearsal after an input. -/
def feed (r : Rehearsal) (i : Input Part) : Rehearsal := { r with system := r.system.feed i }

/-- A listener or answerer that has just begun takes up its cues. -/
def enter (r : Rehearsal) : Rehearsal :=
  match r.system.stack with
  | .listening id l event :: _ =>
    let key := (event.source, id)
    let (deeds, cues) := Cue.allAt event ((r.listenerCues.lookup key).getD l.cues)
    { r with
      listenerCues := (key, cues) :: r.listenerCues.filter (·.1 ≠ key)
      pending := deeds :: r.pending }
  | .asked request _ :: _ =>
    let (deeds, cues) := Cue.allAt request r.cues
    { r with cues, pending := deeds :: r.pending }
  | _ => { r with pending := [] :: r.pending }

/-- A listener or answerer has done everything and returns. -/
def leave (r : Rehearsal) : Rehearsal :=
  match r.system.stack with
  | .asked .. :: _ => r.feed (.reply r.surroundings.answers)
  | _ => r.feed .done

/-- Does a deed. -/
def perform (r : Rehearsal) : Deed Part → Rehearsal
  | .act a => r.feed (.act a)
  | .adjust f => { r with surroundings := f r.surroundings }

/-- The next step: something internal, a deed, or the end of a turn. -/
def step (r : Rehearsal) : Rehearsal :=
  if !r.system.isTurn then r.feed .tick
  else if r.pending.length < r.system.depth then r.enter
  else
    match r.pending with
    | (deed :: rest) :: outer => { r with pending := rest :: outer }.perform deed
    | [] :: outer => { r with pending := outer }.leave
    | [] => r

/-- The rehearsal when it has come to rest, within a number of steps. -/
def settle : Nat → Rehearsal → Rehearsal
  | 0, r => r
  | fuel + 1, r => if r.system.isAtRest then r else settle fuel r.step

/-- The rehearsal after a deed of the host, at rest. -/
def after (fuel : Nat) (r : Rehearsal) (d : Deed Part) : Rehearsal := settle fuel (r.perform d)

/-- What has happened since an earlier moment, oldest first. -/
def since (r earlier : Rehearsal) : List (Occurrence Part) :=
  (r.system.journal.take (r.system.journal.length - earlier.system.journal.length)).reverse

end Rehearsal

end DeviceStatus.Device
