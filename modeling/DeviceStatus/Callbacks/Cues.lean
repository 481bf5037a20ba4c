import DeviceStatus.Callbacks.Session

/-!
# Callbacks that follow cues

A part is a callback with a list of cues: when it is called for the n-th time, it does what the cues
for that call say. A performance is a session whose callbacks are such parts. It finds the next
input of the session; since every callback has finitely many cues it comes to rest.
-/

namespace DeviceStatus.Callbacks

/-- A callback with a name, and what it does at which of its calls. -/
inductive Part (α : Type) where
  /-- Each cue is the number of a call, from 1 on, and what is done then. -/
  | mk (name : String) (cues : List (Nat × List (Action (Part α) String α)))

namespace Part

variable {α : Type}

/-- The name of a part. -/
def name : Part α → String
  | mk name _ => name

/-- What a part does at its n-th call. -/
def atCall (n : Nat) : Part α → List (Action (Part α) String α)
  | mk _ cues => cues.flatMap fun (nth, actions) => if nth = n then actions else []

end Part

/-- A session whose callbacks follow cues. -/
structure Performance (α : Type) where
  /-- The session. -/
  session : Session (Part α) String α := {}
  /-- The registrations that have been called, one for each call. -/
  calls : List Nat := []
  /-- What the calls and releases in progress still have to do, innermost first. -/
  pending : List (List (Action (Part α) String α)) := []

namespace Performance

variable {α : Type}

/-- A call or release that has just begun takes up its cues. -/
def enter (p : Performance α) : Performance α :=
  match p.session.stack with
  | .call _ _ entry _ :: _ =>
    let calls := entry.id :: p.calls
    { p with calls, pending := entry.callback.body.atCall (calls.count entry.id) :: p.pending }
  | _ => { p with pending := [] :: p.pending }

/-- The performance after an input. -/
def feed (p : Performance α) (i : Input (Part α) String α) : Performance α :=
  { p with session := p.session.feed i }

/-- The next step: something internal, a cue, or the end of a call or release. -/
def step (p : Performance α) : Performance α :=
  if !p.session.isTurn then p.feed .tick
  else if p.pending.length < p.session.depth then p.enter
  else
    match p.pending with
    | (action :: rest) :: outer => { p with pending := rest :: outer }.feed (.act action)
    | [] :: outer => { p with pending := outer }.feed .done
    | [] => p

/-- The performance when it has come to rest, within a number of steps. -/
def settle : Nat → Performance α → Performance α
  | 0, p => p
  | fuel + 1, p => if p.session.isAtRest || p.session.hasFailed then p else settle fuel p.step

/-- The performance after an action of the host, at rest. -/
def perform (fuel : Nat) (p : Performance α) (a : Action (Part α) String α) : Performance α :=
  settle fuel (p.feed (.act a))

/-- What has happened since an earlier moment, oldest first. -/
def since (p earlier : Performance α) : List (Occurrence (Part α) String α) :=
  (p.session.journal.take (p.session.journal.length - earlier.session.journal.length)).reverse

end Performance

end DeviceStatus.Callbacks
