import DeviceStatus.Callbacks.Registry

/-!
# A list of callbacks in use

A host registers callbacks with one list, calls them all, and ends their registrations; the
callbacks may do the same while they are being called. A session is what there is at one moment,
with a stack of what is going on. Whenever the host or a callback is free to act, the session waits
for its next `Action`, or for `done` when the callback returns; everything between is internal and
goes on one `tick` at a time. The behaviour of all callbacks together is thus the list of inputs
that a session is fed, and what holds for all lists of inputs holds for all callbacks.

Every registration is held by a subscription, which ends it once. A callback is an object that lives
as long as somebody refers to it: the list, a call in progress, or the host. It may own
subscriptions, which end with it.

Changing the list takes hold of it for as long as the change lasts. A callback that goes away during
the change takes its subscriptions along, and if one of these reaches for the same list, the session
fails.
-/

namespace DeviceStatus.Callbacks

/-- A callback object. -/
structure Callback (β : Type) where
  /-- The number of the object: callbacks with the same number are the same object. -/
  object : Nat
  /-- What the host knows the callback by. -/
  body : β
deriving DecidableEq, Repr

/-- What happens when a subscription ends. -/
inductive Release (ρ : Type) where
  /-- The registration with this number is taken out of the list. -/
  | entry (id : Nat)
  /-- The host does something of its own. -/
  | custom (label : ρ)
deriving DecidableEq, Repr

/-- What keeps a callback registered. -/
structure Subscription (ρ : Type) where
  /-- The number of the subscription. -/
  number : Nat
  /-- What happens when it ends; absent once it has ended. -/
  release : Option (Release ρ)
deriving DecidableEq, Repr

/-- The subscription after its end. -/
def Subscription.ended {ρ : Type} (s : Subscription ρ) : Subscription ρ :=
  { s with release := none }

/-- Whether the subscription has not ended. -/
def Subscription.isActive {ρ : Type} (s : Subscription ρ) : Bool := s.release.isSome

/-- What the host or a callback may do. Subscriptions are kept under names. -/
inductive Action (β ρ α : Type) where
  /-- Registers a callback and keeps the subscription. -/
  | register (name : String) (callback : Callback β)
  /-- Makes a subscription with a release of the host's own, and keeps it. -/
  | own (name : String) (label : ρ)
  /-- Ends the subscription with a name. -/
  | release (name : String)
  /-- Lets go of the subscription with a name. -/
  | drop (name : String)
  /-- Looks at the subscription with a name. -/
  | inspect (name : String)
  /-- Hands the subscription with a name over to a callback object. -/
  | give (name : String) (object : Nat)
  /-- Refers to a callback object from now on. -/
  | keep (object : Nat)
  /-- Refers to a callback object no longer. -/
  | forget (object : Nat)
  /-- Calls all registered callbacks with a value. -/
  | each (value : α)
  /-- Counts the registered callbacks. -/
  | count
  /-- Lets go of the list. -/
  | dropList

/-- What an action answers. -/
inductive Answer where
  /-- A subscription is kept, perhaps in place of another one. -/
  | stored (replaced : Bool)
  /-- The host has let go of the list. -/
  | noList
  /-- There is no such subscription or object. -/
  | unknown
  /-- The subscription has been ended. -/
  | released
  /-- The subscription has been let go of. -/
  | dropped
  /-- Whether the subscription is active. -/
  | active (isActive : Bool)
  /-- The subscription belongs to the object now. -/
  | given
  /-- The host refers to the object. -/
  | kept
  /-- The host refers to the object no longer. -/
  | forgotten
  /-- The callbacks have been called. -/
  | called
  /-- The number of registered callbacks. -/
  | count (n : Nat)
  /-- The host has let go of the list. -/
  | listDropped
deriving DecidableEq, Repr

/-- Something that is going on. -/
inductive Frame (β ρ α : Type) where
  /-- A callback is being called; the callbacks `rest` come after it. -/
  | call (dispatch : Nat) (value : α) (current : Entry (Callback β))
      (rest : List (Entry (Callback β)))
  /-- The callbacks `rest` are still to be called. -/
  | deliver (dispatch : Nat) (value : α) (rest : List (Entry (Callback β)))
  /-- The host's own release of a subscription is at work. -/
  | releasing (number : Nat) (label : ρ)
  /-- A subscription is to end, if it has not. -/
  | finish (s : Subscription ρ)
  /-- An object is to go away, if nobody refers to it. -/
  | sweep (object : Nat)
  /-- A change of the list is under way. -/
  | changing
  /-- An action is to be answered. -/
  | answer (a : Answer)

/-- Something that has happened. -/
inductive Occurrence (β ρ α : Type) where
  /-- A registration was made, held by the subscription with a number. -/
  | registered (entry : Entry (Callback β)) (subscription : Nat)
  /-- Calling all callbacks began, with these registrations. -/
  | began (dispatch : Nat) (ids : List Nat)
  /-- A callback was called. -/
  | called (dispatch : Nat) (entry : Entry (Callback β)) (value : α)
  /-- Calling all callbacks ended. -/
  | ended (dispatch : Nat)
  /-- A subscription ended. -/
  | released (subscription : Nat) (release : Release ρ)
  /-- An action was answered, with so many calls and releases in progress. -/
  | answered (depth : Nat) (a : Answer)

/-- What the host or a callback does next, or that what is internal goes on. -/
inductive Input (β ρ α : Type) where
  /-- What is internal goes on. -/
  | tick
  /-- An action. -/
  | act (a : Action β ρ α)
  /-- The callback or release in progress returns. -/
  | done

/-- One list of callbacks in use. -/
structure Session (β ρ α : Type) where
  /-- The list. -/
  registry : Registry (Callback β) := {}
  /-- Whether the host has the list. -/
  isHeld : Bool := true
  /-- Whether the list exists. -/
  isAlive : Bool := true
  /-- The subscriptions that the host keeps, under their names. -/
  shelf : List (String × Subscription ρ) := []
  /-- The subscriptions that objects own. -/
  owned : List (Nat × Subscription ρ) := []
  /-- The objects that the host refers to. -/
  kept : List Nat := []
  /-- The number of the next subscription. -/
  nextSubscription : Nat := 0
  /-- The number of the next call of all callbacks. -/
  nextDispatch : Nat := 0
  /-- What is going on, innermost first. -/
  stack : List (Frame β ρ α) := []
  /-- What has happened, latest first. -/
  journal : List (Occurrence β ρ α) := []
  /-- Whether a change of the list was attempted during another one. -/
  hasFailed : Bool := false

variable {β ρ α : Type}

/-- The objects that something going on refers to. -/
def Frame.objects : Frame β ρ α → List Nat
  | call _ _ current rest => current.callback.object :: rest.map (·.callback.object)
  | deliver _ _ rest => rest.map (·.callback.object)
  | _ => []

/-- Whether something going on keeps the list in existence. -/
def Frame.usesList : Frame β ρ α → Bool
  | call .. | deliver .. | changing => true
  | _ => false

/-- Whether the host or a callback is to act next. -/
def Frame.isTurn : Frame β ρ α → Bool
  | call .. | releasing .. => true
  | _ => false

/-- Whether something going on is a change of the list. -/
def Frame.isChange : Frame β ρ α → Bool
  | changing => true
  | _ => false

namespace Session

/-- The number of calls and releases in progress. -/
def depth (s : Session β ρ α) : Nat := s.stack.countP Frame.isTurn

/-- Whether the host or a callback is to act next. -/
def isTurn (s : Session β ρ α) : Bool :=
  match s.stack with
  | [] => true
  | f :: _ => f.isTurn

/-- Whether a change of the list is under way. -/
def isChanging (s : Session β ρ α) : Bool := s.stack.any Frame.isChange

/-- Whether somebody refers to an object. -/
def refersTo (s : Session β ρ α) (object : Nat) : Bool :=
  s.registry.entries.any (·.callback.object = object) || s.kept.contains object ||
    s.stack.any (·.objects.contains object)

/-- The session with something more to do first. -/
def push (s : Session β ρ α) (frames : List (Frame β ρ α)) : Session β ρ α :=
  { s with stack := frames ++ s.stack }

/-- The session with one more occurrence. -/
def note (s : Session β ρ α) (o : Occurrence β ρ α) : Session β ρ α :=
  { s with journal := o :: s.journal }

/-- The session after an attempt to use the list during a change. -/
def fail (s : Session β ρ α) : Session β ρ α := { s with hasFailed := true }

/-- Ends the list once nobody has it or uses it: its registrations go, and with them the objects
that nobody else refers to. -/
def settleList (s : Session β ρ α) : Session β ρ α :=
  if s.isAlive && !s.isHeld && !s.stack.any Frame.usesList then
    let objects := s.registry.entries.map (·.callback.object)
    { s with
      isAlive := false
      registry := { s.registry with entries := [] }
      stack := objects.map .sweep ++ s.stack }
  else s

/-- Keeps a new subscription under a name; one that was there before ends. -/
def store (s : Session β ρ α) (name : String) (release : Release ρ) : Session β ρ α :=
  let subscription : Subscription ρ := ⟨s.nextSubscription, some release⟩
  let replaced := s.shelf.lookup name
  let s := { s with
    nextSubscription := s.nextSubscription + 1
    shelf := (name, subscription) :: s.shelf.filter (·.1 ≠ name) }
  s.push ((replaced.toList.map .finish) ++ [.answer (.stored replaced.isSome)])

/-- Takes the subscription with a name off the shelf. -/
def unshelve (s : Session β ρ α) (name : String) : Session β ρ α :=
  { s with shelf := s.shelf.filter (·.1 ≠ name) }

/-- Does something with the subscription of a name, if there is one. -/
def withSubscription (s : Session β ρ α) (name : String)
    (f : Subscription ρ → Session β ρ α) : Session β ρ α :=
  match s.shelf.lookup name with
  | some subscription => f subscription
  | none => s.push [.answer .unknown]

/-- Does something with the list, if the host has it. -/
def withList (s : Session β ρ α) (f : Session β ρ α) : Session β ρ α :=
  if !s.isHeld then s.push [.answer .noList]
  else if s.isChanging then s.fail
  else f

/-- An action of the host or of a callback. -/
def act (s : Session β ρ α) : Action β ρ α → Session β ρ α
  | .register name callback =>
    s.withList
      ((({ s with registry := s.registry.register callback }).note
        (.registered ⟨s.registry.nextId, callback⟩ s.nextSubscription)).store name
          (.entry s.registry.nextId))
  | .own name label => s.store name (.custom label)
  | .release name => s.withSubscription name fun subscription =>
    (s.unshelve name).push [.finish subscription, .finish subscription.ended, .answer .released]
  | .drop name => s.withSubscription name fun subscription =>
    (s.unshelve name).push [.finish subscription, .answer .dropped]
  | .inspect name => s.withSubscription name fun subscription =>
    s.push [.answer (.active subscription.isActive)]
  | .give name object =>
    if s.refersTo object then
      s.withSubscription name fun subscription =>
        ({ s.unshelve name with owned := s.owned ++ [(object, subscription)] }).push
          [.answer .given]
    else s.push [.answer .unknown]
  | .keep object =>
    if s.refersTo object then ({ s with kept := object :: s.kept }).push [.answer .kept]
    else s.push [.answer .unknown]
  | .forget object =>
    ({ s with kept := s.kept.filter (· ≠ object) }).push [.sweep object, .answer .forgotten]
  | .each value =>
    s.withList
      ((({ s with nextDispatch := s.nextDispatch + 1 }).note
        (.began s.nextDispatch (s.registry.entries.map Entry.id))).push
          [.deliver s.nextDispatch value s.registry.entries, .answer .called])
  | .count => s.withList (s.push [.answer (.count s.registry.size)])
  | .dropList =>
    ({ s with isHeld := false }.push [.answer .listDropped]).settleList

/-- The callback or release in progress returns: the call lets go of its callback. -/
def returned (s : Session β ρ α) : Session β ρ α :=
  match s.stack with
  | .call dispatch value current rest :: below =>
    { s with stack := .sweep current.callback.object :: .deliver dispatch value rest :: below }
  | .releasing .. :: below => { s with stack := below }
  | _ => s

/-- Takes a registration out of the list; the object goes while the list is being changed. -/
def removeEntry (s : Session β ρ α) (id : Nat) : Session β ρ α :=
  if !s.isAlive then s
  else if s.isChanging then s.fail
  else
    match s.registry.find? id with
    | some entry =>
      ({ s with registry := s.registry.remove id }).push
        [.sweep entry.callback.object, .changing]
    | none => s

/-- An object goes away: the subscriptions that it owns end. -/
def endObject (s : Session β ρ α) (object : Nat) : Session β ρ α :=
  let gone : List (Nat × Subscription ρ) := s.owned.filter (·.1 = object)
  { s with
    owned := s.owned.filter (·.1 ≠ object)
    stack := gone.map (fun o => Frame.finish o.2) ++ s.stack }

/-- What is innermost on the stack goes on, if it is internal. -/
def tick (s : Session β ρ α) : Session β ρ α :=
  match s.stack with
  | .deliver dispatch value (entry :: rest) :: below =>
    ({ s with stack := .call dispatch value entry rest :: below }).note
      (.called dispatch entry value)
  | .deliver dispatch _ [] :: below =>
    (({ s with stack := below }).note (.ended dispatch)).settleList
  | .finish subscription :: below =>
    let s := { s with stack := below }
    match subscription.release with
    | none => s
    | some (.entry id) =>
      (s.note (.released subscription.number (.entry id))).removeEntry id
    | some (.custom label) =>
      (s.note (.released subscription.number (.custom label))).push
        [.releasing subscription.number label]
  | .sweep object :: below =>
    let s := { s with stack := below }
    if s.refersTo object then s else s.endObject object
  | .changing :: below => { s with stack := below }.settleList
  | .answer a :: below =>
    let s := { s with stack := below }
    s.note (.answered s.depth a)
  | _ => s

/-- The session after one input; an input that does not fit changes nothing, and nothing changes
after a failure. -/
def feed (s : Session β ρ α) : Input β ρ α → Session β ρ α
  | .tick => if s.hasFailed then s else s.tick
  | .act a => if s.hasFailed || !s.isTurn then s else s.act a
  | .done => if s.hasFailed then s else s.returned

/-- The session after a list of inputs. -/
def run (s : Session β ρ α) (inputs : List (Input β ρ α)) : Session β ρ α := inputs.foldl feed s

/-- What holds of a session and of everything that an input may make of it holds after every
input. -/
theorem feed_of {P : Session β ρ α → Prop} {s : Session β ρ α} (same : P s)
    (tick : s.hasFailed = false → P s.tick)
    (act : ∀ a, s.hasFailed = false → s.isTurn = true → P (s.act a))
    (returned : s.hasFailed = false → P s.returned) (i : Input β ρ α) : P (s.feed i) := by
  cases i with
  | tick =>
    simp only [feed]
    split
    · exact same
    · next hfailed => exact tick (by simpa using hfailed)
  | act a =>
    simp only [feed]
    split
    · exact same
    · next hfree =>
      obtain ⟨hfailed, hturn⟩ : s.hasFailed = false ∧ s.isTurn = true := by simpa using hfree
      exact act a hfailed hturn
  | done =>
    simp only [feed]
    split
    · exact same
    · next hfailed => exact returned (by simpa using hfailed)

/-- What every input preserves holds after all of them. -/
theorem run_of {P : Session β ρ α → Prop} (feed : ∀ s i, P s → P (s.feed i))
    {s : Session β ρ α} (h : P s) (inputs : List (Input β ρ α)) : P (s.run inputs) := by
  induction inputs generalizing s with
  | nil => exact h
  | cons i inputs ih => exact ih (feed s i h)

/-- Whether nothing is going on. -/
def isAtRest (s : Session β ρ α) : Bool := s.stack.isEmpty

end Session

end DeviceStatus.Callbacks
