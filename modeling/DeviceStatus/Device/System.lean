import DeviceStatus.Callbacks.Registry
import DeviceStatus.Lockscreen.Events

/-!
# The device at work

A device tells its events to the callbacks registered with their source: listeners of the host, and
the status view of the lock screen, as often as it is attached. Callbacks are told one after
another, those that were registered when the telling began. A listener may act on the device while
it is being told, and so may everything that answers a request of the view; what it does may be told
at once, in the middle of what is going on.

The view handles one event at a time. An event that reaches it while it is at work is put off, and
the events put off are handled, in the order of their arrival, before the next event that reaches
the view when it is free, and after a logout. A view that is let go while it is at work ends what it
is doing, and is gone then.

A system is all this at one moment, with a stack of what is going on. Whenever a listener or an
answerer is free to act, the system waits for its next `Action`, or for it to return; everything
between is internal and goes on one `tick` at a time. So the behaviour of the host, of all listeners
and of everything that the view asks is the list of inputs that the system is fed.
-/

namespace DeviceStatus.Device

open Callbacks (Registry Entry)
open Lockscreen

/-- What is registered for events. -/
inductive Subscriber (ℓ : Type) where
  /-- The status view, by one of its attachments. -/
  | statusView
  /-- A listener of the host. -/
  | listener (l : ℓ)
deriving DecidableEq, Repr

/-- An event on its way to the view. -/
structure Delivery where
  /-- The number of the arrival: events that arrive later have greater numbers. -/
  ticket : Nat
  /-- The event. -/
  event : Event
  /-- Whether the view was at work when the event arrived, so that it was put off. -/
  isDeferred : Bool
deriving DecidableEq, Repr

/-- The two registrations by which the view is attached. -/
structure Attachment where
  /-- With the monitor. -/
  monitor : Nat
  /-- With the configuration. -/
  configuration : Nat
deriving DecidableEq, Repr

/-- The status view, if there is one. -/
inductive ViewSlot where
  /-- There has not been one. -/
  | empty
  /-- There is one, with these fields after its last operation. -/
  | present (v : View)
  /-- There is none any more. -/
  | gone
deriving DecidableEq

/-- The view that there is. -/
def ViewSlot.view? : ViewSlot → Option View
  | present v => some v
  | _ => none

/-- Something that is going on. -/
inductive Frame (ℓ : Type) where
  /-- An event is still to be told to these callbacks. -/
  | notify (event : Event) (rest : List (Entry (Subscriber ℓ)))
  /-- A listener is being told an event. -/
  | listening (id : Nat) (l : ℓ) (event : Event)
  /-- The events put off are to be handled, until there are none. -/
  | replay
  /-- These events have been put off and are to be handled now. -/
  | batch (rest : List Delivery)
  /-- The view is to handle an event. -/
  | handle (d : Delivery)
  /-- The view is at work. -/
  | program (p : Program View)
  /-- The view waits for an answer. -/
  | asked (r : Request) (next : r.Answer → Program View)
  /-- The view is to be free again. -/
  | free

/-- Something that has happened. -/
inductive Occurrence (ℓ : Type) where
  /-- An event began to be told. -/
  | announced (event : Event)
  /-- A listener was told an event; its registration with the source has this number. -/
  | heard (id : Nat) (l : ℓ) (event : Event)
  /-- An event reached the view. -/
  | arrived (d : Delivery)
  /-- The view began to handle an event. -/
  | handled (d : Delivery)
  /-- The view made a request. -/
  | requested (r : Request)

/-- What the host, a listener or an answerer may do. -/
inductive Action (ℓ : Type) where
  /-- Something happens to the device. -/
  | change (c : Change)
  /-- Registers a listener, under a name; one that was there before goes. -/
  | listen (name : String) (source : Source) (l : ℓ)
  /-- Takes out the listener with a name. -/
  | unlisten (name : String)
  /-- Makes the status view, for a locale; if none is given, for that of the configuration. -/
  | create (locale : Option String := none)
  /-- Attaches the view, under a name; an attachment that was there before goes. -/
  | attach (name : String)
  /-- Takes out the attachment with a name. -/
  | detach (name : String)
  /-- Does something with the view. -/
  | perform (o : Operation)
  /-- Lets go of the view; if it is at work, it stays until it is free. -/
  | dropView

/-- What is done next. -/
inductive Input (ℓ : Type) where
  /-- What is internal goes on. -/
  | tick
  /-- An action. -/
  | act (a : Action ℓ)
  /-- The listener returns. -/
  | done
  /-- The request is answered. -/
  | reply (answers : Answers)

/-- A device with its callbacks and its status view. -/
structure System (ℓ : Type) where
  /-- What is known of the device. -/
  status : Status
  /-- The callbacks registered with the monitor. -/
  monitor : Registry (Subscriber ℓ) := {}
  /-- The callbacks registered with the configuration. -/
  configuration : Registry (Subscriber ℓ) := {}
  /-- The registrations of listeners, by name. -/
  listeners : List (String × Source × Nat) := []
  /-- The attachments of the view, by name. -/
  attachments : List (String × Attachment) := []
  /-- The status view. -/
  view : ViewSlot := .empty
  /-- Whether the view is at work. -/
  isBusy : Bool := false
  /-- Whether the view has been let go while it was at work. -/
  isLetGo : Bool := false
  /-- The events put off, in the order of their arrival. -/
  deferred : List Delivery := []
  /-- The number of the next arrival. -/
  nextTicket : Nat := 0
  /-- What is going on, innermost first. -/
  stack : List (Frame ℓ) := []
  /-- What has happened, latest first. -/
  journal : List (Occurrence ℓ) := []

variable {ℓ : Type}

/-- Whether a listener or an answerer is to act next. -/
def Frame.isTurn : Frame ℓ → Bool
  | listening .. | asked .. => true
  | _ => false

namespace System

/-- The number of listeners and answerers at work. -/
def depth (s : System ℓ) : Nat := s.stack.countP Frame.isTurn

/-- Whether the host, a listener or an answerer is to act next. -/
def isTurn (s : System ℓ) : Bool :=
  match s.stack with
  | [] => true
  | f :: _ => f.isTurn

/-- Whether nothing is going on. -/
def isAtRest (s : System ℓ) : Bool := s.stack.isEmpty

/-- The system with something more to do first. -/
def push (s : System ℓ) (frames : List (Frame ℓ)) : System ℓ :=
  { s with stack := frames ++ s.stack }

/-- The system with one more occurrence. -/
def note (s : System ℓ) (o : Occurrence ℓ) : System ℓ := { s with journal := o :: s.journal }

/-- The callbacks registered with a source. -/
def registry (s : System ℓ) : Source → Registry (Subscriber ℓ)
  | .monitor => s.monitor
  | .configuration => s.configuration

/-- The system with other callbacks registered with a source. -/
def setRegistry (s : System ℓ) (source : Source) (r : Registry (Subscriber ℓ)) : System ℓ :=
  match source with
  | .monitor => { s with monitor := r }
  | .configuration => { s with configuration := r }

/-- Registers a callback with a source. -/
def register (s : System ℓ) (source : Source) (callback : Subscriber ℓ) : System ℓ :=
  s.setRegistry source ((s.registry source).register callback)

/-- Takes out the registration with a number. -/
def unregister (s : System ℓ) (source : Source) (id : Nat) : System ℓ :=
  s.setRegistry source ((s.registry source).remove id)

/-- The answer to a question about the device. -/
def answerFact (s : System ℓ) : (f : Fact) → f.Answer
  | .isInteractive => s.status.isInteractive
  | .isLogoutEnabled => s.status.isLogoutEnabled
  | .currentUser => s.status.currentUser

/-- Takes out a registration of a listener that is given. -/
def endListener (s : System ℓ) : Option (Source × Nat) → System ℓ
  | some (source, id) => s.unregister source id
  | none => s

/-- Takes out the registrations of an attachment that is given. -/
def endAttachment (s : System ℓ) : Option Attachment → System ℓ
  | some a => (s.unregister .monitor a.monitor).unregister .configuration a.configuration
  | none => s

/-- Tells an event to all callbacks registered with its source. -/
def announce (s : System ℓ) (event : Event) : System ℓ :=
  (s.note (.announced event)).push [.notify event (s.registry event.source).entries]

/-- Begins something that the view does; afterwards it is free again. -/
def begin (s : System ℓ) (frames : List (Frame ℓ)) : System ℓ :=
  { s.push (frames ++ [.free]) with isBusy := true }

/-- The view, if it is there and not at work. -/
def freeView? (s : System ℓ) : Option View := if s.isBusy then none else s.view.view?

/-- An action; one that is not possible changes nothing. -/
def act (s : System ℓ) : Action ℓ → System ℓ
  | .change c =>
    let told := { s with status := s.status.after c }
    match s.status.eventOf c with
    | some event => told.announce event
    | none => told
  | .listen name source l =>
    let id := (s.registry source).nextId
    let replaced := s.listeners.lookup name
    ({ s.register source (.listener l) with
      listeners := (name, source, id) :: s.listeners.filter (·.1 ≠ name) }).endListener replaced
  | .unlisten name =>
    ({ s with listeners := s.listeners.filter (·.1 ≠ name) }).endListener (s.listeners.lookup name)
  | .create locale =>
    match s.view, s.isBusy with
    | .empty, false => s.begin [.program (View.create (locale.getD s.status.locale))]
    | _, _ => s
  | .attach name =>
    match s.freeView? with
    | some _ =>
      let attachment : Attachment := ⟨s.monitor.nextId, s.configuration.nextId⟩
      let replaced := s.attachments.lookup name
      ({ (s.register .monitor .statusView).register .configuration .statusView with
        attachments := (name, attachment) :: s.attachments.filter (·.1 ≠ name) }).endAttachment
          replaced
    | none => s
  | .detach name =>
    ({ s with attachments := s.attachments.filter (·.1 ≠ name) }).endAttachment
      (s.attachments.lookup name)
  | .perform o =>
    match s.freeView? with
    | some v => s.begin (.program (o.handler.after v) :: if o.replays then [.replay] else [])
    | none => s
  | .dropView =>
    match s.view, s.isBusy with
    | .present _, false => { s with view := .gone }
    | .present _, true => { s with isLetGo := true }
    | _, _ => s

/-- An event reaches the view. If the view is free, the events put off come first; if it is at work,
the event is put off. -/
def deliver (s : System ℓ) (event : Event) : System ℓ :=
  match s.view with
  | .present _ =>
    let d : Delivery := ⟨s.nextTicket, event, s.isBusy⟩
    let s := { s with nextTicket := s.nextTicket + 1 }.note (.arrived d)
    if s.isBusy then { s with deferred := s.deferred ++ [d] }
    else s.begin [.replay, .handle d]
  | _ => s

/-- Tells an event to one callback. -/
def tell (s : System ℓ) (event : Event) (entry : Entry (Subscriber ℓ)) : System ℓ :=
  match entry.callback with
  | .statusView => s.deliver event
  | .listener l => (s.note (.heard entry.id l event)).push [.listening entry.id l event]

/-- The view goes on with its work: a question about the device is answered at once, a line in the
log is written, and any other request is left to its answerer. -/
def goOn (s : System ℓ) : Program View → System ℓ
  | .done v => { s with view := .present v }
  | .ask (.fact f) next => s.push [.program (next (s.answerFact f))]
  | .ask (.log n) next => (s.note (.requested (.log n))).push [.program (next ())]
  | .ask r next => (s.note (.requested r)).push [.asked r next]

/-- The view is free again, or gone if it has been let go meanwhile. -/
def setFree (s : System ℓ) : System ℓ :=
  match s.view, s.isLetGo with
  | .present _, true => { s with isBusy := false, view := .gone }
  | _, _ => { s with isBusy := false }

/-- What is innermost on the stack goes on, if it is internal. -/
def tick (s : System ℓ) : System ℓ :=
  match s.stack with
  | .notify _ [] :: below => { s with stack := below }
  | .notify event (entry :: rest) :: below =>
    { s with stack := .notify event rest :: below }.tell event entry
  | .replay :: below =>
    match s.deferred with
    | [] => { s with stack := below }
    | deferred => { s with deferred := [], stack := .batch deferred :: s.stack }
  | .batch [] :: below => { s with stack := below }
  | .batch (d :: rest) :: below => { s with stack := .handle d :: .batch rest :: below }
  | .handle d :: below =>
    match s.view with
    | .present v =>
      ({ s with stack := .program ((View.handle d.event).after v) :: below }).note (.handled d)
    | _ => { s with stack := below }
  | .program p :: below => { s with stack := below }.goOn p
  | .free :: below => { s with stack := below }.setFree
  | _ => s

/-- The listener returns. -/
def returned (s : System ℓ) : System ℓ :=
  match s.stack with
  | .listening .. :: below => { s with stack := below }
  | _ => s

/-- The request is answered. -/
def replied (s : System ℓ) (answers : Answers) : System ℓ :=
  match s.stack with
  | .asked r next :: below => { s with stack := .program (next (answers r)) :: below }
  | _ => s

/-- The system after one input; an input that does not fit changes nothing. -/
def feed (s : System ℓ) : Input ℓ → System ℓ
  | .tick => s.tick
  | .act a => if s.isTurn then s.act a else s
  | .done => s.returned
  | .reply answers => s.replied answers

/-- The system after a list of inputs. -/
def run (s : System ℓ) (inputs : List (Input ℓ)) : System ℓ := inputs.foldl feed s

/-- A device in a locale, with nothing registered. -/
def start (locale : String) : System ℓ := { status := { locale } }

end System

end DeviceStatus.Device
