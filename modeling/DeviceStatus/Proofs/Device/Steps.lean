import DeviceStatus.Proofs.Device.Moves

/-!
# What an input does

`Step` lists everything that one input may do to a system, each with what it takes and with the
system after it; `Shaped.step_feed` says that there is nothing else. Whatever is kept by every step
is proved by its cases, without a look at the system itself.
-/

namespace DeviceStatus.Lockscreen

/-- Whether a request is answered by the device itself. -/
def Request.isInternal : Request → Bool
  | fact _ | log _ => true
  | query _ | command _ | user _ => false

end DeviceStatus.Lockscreen

namespace DeviceStatus.Device

open Callbacks (Entry)
open Lockscreen

variable {ℓ : Type} {s : System ℓ}

/-- Whether an action only changes what is registered. -/
def Action.isRegistration : Action ℓ → Bool
  | listen .. | unlisten _ | attach _ | detach _ => true
  | change _ | create _ | perform _ | dropView => false

/-- The operation of the view that an input begins, if it does. -/
def System.begun? (s : System ℓ) : Input ℓ → Option Operation
  | .act (.perform o) => if s.isTurn then s.freeView?.map fun _ => o else none
  | _ => none

/-- What an input may do to a system, with the operation of the view that it begins. -/
inductive Step (s : System ℓ) : Option Operation → System ℓ → Prop
  /-- Nothing. -/
  | stay : Step s none s
  /-- The device changes, and this is told. -/
  | change (c : Change) {event : Event} (hevent : s.status.eventOf c = some event)
    (hturn : s.isTurn = true) :
    Step s none (({ s with status := s.status.after c } : System ℓ).announce event)
  /-- Registrations change. -/
  | register (a : Action ℓ) (ha : a.isRegistration = true) : Step s none (s.act a)
  /-- A view is made. -/
  | create (locale : String) (hview : s.view = .empty) (hfree : s.isBusy = false) :
    Step s none (s.begin [.program (View.create locale)])
  /-- The owner of the view does something with it. -/
  | perform (o : Operation) {v : View} (hview : s.view = .present v) (hfree : s.isBusy = false) :
    Step s (some o) (s.begin (.program (o.handler.after v) :: if o.replays then [.replay] else []))
  /-- The owner of the view lets go of it. -/
  | dropView {v : View} (hview : s.view = .present v) (hfree : s.isBusy = false) :
    Step s none { s with view := .gone }
  /-- The owner of the view lets go of it while it is at work. -/
  | letGo {v : View} (hview : s.view = .present v) (hbusy : s.isBusy = true) :
    Step s none { s with isLetGo := true }
  /-- An event has been told, or heard. -/
  | told {f : Frame ℓ} {below : List (Frame ℓ)} (hstack : s.stack = f :: below)
    (hf : f.isTelling = true) (hrest : ∀ event rest, f = .notify event rest → rest = []) :
    Step s none { s with stack := below }
  /-- A listener is told an event. -/
  | hear {event : Event} {id : Nat} {l : ℓ} {rest : List (Entry (Subscriber ℓ))}
    {below : List (Frame ℓ)}
    (hstack : s.stack = .notify event (⟨id, .listener l⟩ :: rest) :: below) :
    Step s none { s with
      stack := .listening id l event :: .notify event rest :: below
      journal := .heard id l event :: s.journal }
  /-- An event reaches the view. -/
  | reach {event : Event} {id : Nat} {rest : List (Entry (Subscriber ℓ))} {below : List (Frame ℓ)}
    (hstack : s.stack = .notify event (⟨id, .statusView⟩ :: rest) :: below) :
    Step s none (({ s with stack := .notify event rest :: below } : System ℓ).deliver event)
  /-- The events put off have all been handled. -/
  | replayed {below : List (Frame ℓ)} (hstack : s.stack = .replay :: below)
    (hdeferred : s.deferred = []) : Step s none { s with stack := below }
  /-- The events put off are the next batch. -/
  | take {below : List (Frame ℓ)} (hstack : s.stack = .replay :: below) :
    Step s none { s with deferred := [], stack := .batch s.deferred :: s.stack }
  /-- A batch has been handled. -/
  | batched {below : List (Frame ℓ)} (hstack : s.stack = .batch [] :: below) :
    Step s none { s with stack := below }
  /-- The next event of a batch is to be handled. -/
  | next {d : Delivery} {rest : List Delivery} {below : List (Frame ℓ)}
    (hstack : s.stack = .batch (d :: rest) :: below) :
    Step s none { s with stack := .handle d :: .batch rest :: below }
  /-- The view begins to handle an event. -/
  | handle {d : Delivery} {v : View} {below : List (Frame ℓ)}
    (hstack : s.stack = .handle d :: below) (hview : s.view = .present v) :
    Step s none { s with
      stack := .program ((View.handle d.event).after v) :: below
      journal := .handled d :: s.journal }
  /-- The view has ended its work. -/
  | done {v : View} {below : List (Frame ℓ)} (hstack : s.stack = .program (.done v) :: below) :
    Step s none { s with stack := below, view := .present v }
  /-- A question about the device is answered. -/
  | fact {f : Fact} {next : f.Answer → Program View} {below : List (Frame ℓ)}
    (hstack : s.stack = .program (.ask (.fact f) next) :: below) :
    Step s none { s with stack := .program (next (s.answerFact f)) :: below }
  /-- A line is written in the log. -/
  | log {n : Notice} {next : Unit → Program View} {below : List (Frame ℓ)}
    (hstack : s.stack = .program (.ask (.log n) next) :: below) :
    Step s none { s with
      stack := .program (next ()) :: below
      journal := .requested (.log n) :: s.journal }
  /-- The view makes a request of its surroundings. -/
  | ask {r : Request} {next : r.Answer → Program View} {below : List (Frame ℓ)}
    (hr : r.isInternal = false) (hstack : s.stack = .program (.ask r next) :: below) :
    Step s none { s with stack := .asked r next :: below, journal := .requested r :: s.journal }
  /-- The request is answered. -/
  | answer {r : Request} {next : r.Answer → Program View} {below : List (Frame ℓ)}
    (answer : r.Answer) (hstack : s.stack = .asked r next :: below) :
    Step s none { s with stack := .program (next answer) :: below }
  /-- The view is free again. -/
  | free {below : List (Frame ℓ)} (hstack : s.stack = .free :: below)
    (hstays : s.isLetGo = true → ∀ v, s.view ≠ .present v) :
    Step s none { s with isBusy := false, stack := below }
  /-- The view has been let go, and is gone instead. -/
  | leave {v : View} {below : List (Frame ℓ)} (hstack : s.stack = .free :: below)
    (hview : s.view = .present v) (hgo : s.isLetGo = true) :
    Step s none { s with isBusy := false, stack := below, view := .gone }

theorem step_tick_notify {event : Event} {rest : List (Entry (Subscriber ℓ))}
    {below : List (Frame ℓ)} (hstack : s.stack = .notify event rest :: below) :
    Step s none s.tick := by
  cases rest with
  | nil =>
    have htick : s.tick = { s with stack := below } := by simp [System.tick, hstack]
    exact htick ▸ .told hstack rfl (by simp)
  | cons entry rest =>
    obtain ⟨id, callback⟩ := entry
    cases callback with
    | statusView =>
      have htick : s.tick =
          ({ s with stack := .notify event rest :: below } : System ℓ).deliver event := by
        simp [System.tick, hstack, System.tell]
      exact htick ▸ .reach hstack
    | listener l =>
      have htick : s.tick = { s with
          stack := .listening id l event :: .notify event rest :: below
          journal := .heard id l event :: s.journal } := by
        simp [System.tick, hstack, System.tell, System.note, System.push]
      exact htick ▸ .hear hstack

theorem step_tick_program {p : Program View} {below : List (Frame ℓ)}
    (hstack : s.stack = .program p :: below) : Step s none s.tick := by
  have htick : s.tick = ({ s with stack := below } : System ℓ).goOn p := by
    simp [System.tick, hstack]
  rw [htick]
  cases p with
  | done v => exact .done hstack
  | ask r next =>
    cases r with
    | fact f => exact .fact hstack
    | log n => exact .log hstack
    | query q => exact .ask rfl hstack
    | command c => exact .ask rfl hstack
    | user o => exact .ask rfl hstack

theorem Shaped.step_tick (h : Shaped s) : Step s none s.tick := by
  cases hstack : s.stack with
  | nil =>
    have htick : s.tick = s := by simp [System.tick, hstack]
    rw [htick]
    exact .stay
  | cons f below =>
    cases f with
    | notify event rest => exact step_tick_notify hstack
    | program p => exact step_tick_program hstack
    | replay =>
      cases hdeferred : s.deferred with
      | nil =>
        have htick : s.tick = { s with stack := below } := by
          simp [System.tick, hstack, hdeferred]
        exact htick ▸ .replayed hstack hdeferred
      | cons d rest =>
        have htick : s.tick = { s with deferred := [], stack := .batch s.deferred :: s.stack } := by
          simp [System.tick, hstack, hdeferred]
        exact htick ▸ .take hstack
    | batch rest =>
      cases rest with
      | nil =>
        have htick : s.tick = { s with stack := below } := by simp [System.tick, hstack]
        exact htick ▸ .batched hstack
      | cons d rest =>
        have htick : s.tick = { s with stack := .handle d :: .batch rest :: below } := by
          simp [System.tick, hstack]
        exact htick ▸ .next hstack
    | handle d =>
      obtain ⟨v, hview⟩ := h.view (.handle d) (by simp [hstack]) rfl
      have htick : s.tick = { s with
          stack := .program ((View.handle d.event).after v) :: below
          journal := .handled d :: s.journal } := by
        simp [System.tick, hstack, hview, System.note]
      exact htick ▸ .handle hstack hview
    | free =>
      have htick : s.tick = ({ s with stack := below } : System ℓ).setFree := by
        simp [System.tick, hstack]
      rw [htick]
      rcases setFree_cases ({ s with stack := below } : System ℓ) with
        ⟨hstays, hfree⟩ | ⟨hgo, ⟨v, hview⟩, hfree⟩
      · rw [hfree]
        exact .free hstack hstays
      · rw [hfree]
        exact .leave hstack hview hgo
    | listening | asked =>
      have htick : s.tick = s := by simp [System.tick, hstack]
      rw [htick]
      exact .stay

/-- A change that is not told is none. -/
theorem after_of_eventOf_eq_none {status : Status} {c : Change} (h : status.eventOf c = none) :
    status.after c = status := by
  cases c with
  | setLogoutEnabled isEnabled =>
    have hsame : isEnabled = status.isLogoutEnabled := by simpa [Status.eventOf] using h
    simp [Status.after, hsame]
  | setLocale locale =>
    have hsame : locale = status.locale := by simpa [Status.eventOf] using h
    simp [Status.after, hsame]
  | time | timeZone | visibility | wake | sleep | userSwitch | density => simp [Status.eventOf] at h

theorem step_act (hturn : s.isTurn = true) (a : Action ℓ) :
    Step s (s.begun? (.act a)) (s.act a) := by
  cases a with
  | change c =>
    cases hevent : s.status.eventOf c with
    | none =>
      have hact : s.act (.change c) = s := by
        simp [System.act, hevent, after_of_eventOf_eq_none hevent]
      rw [hact]
      exact .stay
    | some event =>
      have hact : s.act (.change c) =
          ({ s with status := s.status.after c } : System ℓ).announce event := by
        simp [System.act, hevent]
      exact hact ▸ .change c hevent hturn
  | listen name source l => exact .register _ rfl
  | unlisten name => exact .register _ rfl
  | attach name => exact .register _ rfl
  | detach name => exact .register _ rfl
  | create locale =>
    simp only [System.act]
    split
    · next hview hfree => exact .create _ hview hfree
    · exact .stay
  | perform o =>
    cases hview : s.freeView? with
    | none =>
      have hbegun : s.begun? (.act (.perform o)) = none := by simp [System.begun?, hview]
      have hact : s.act (.perform o) = s := by simp [System.act, hview]
      rw [hbegun, hact]
      exact .stay
    | some v =>
      have hbegun : s.begun? (.act (.perform o)) = some o := by simp [System.begun?, hview, hturn]
      have hact : s.act (.perform o) =
          s.begin (.program (o.handler.after v) :: if o.replays then [.replay] else []) := by
        simp [System.act, hview]
      rw [hbegun, hact]
      exact .perform o (view_of_freeView? hview).2 (view_of_freeView? hview).1
  | dropView =>
    simp only [System.act]
    split
    · next hview hfree => exact .dropView hview hfree
    · next hview hbusy => exact .letGo hview hbusy
    · exact .stay

theorem sameWork_register {a : Action ℓ} (ha : a.isRegistration = true) : SameWork s (s.act a) := by
  cases a with
  | listen name source l =>
    have hregistered : SameWork s (s.register source (.listener l)) :=
      sameWork_setRegistry s source _
    exact (hregistered.listeners _).trans (sameWork_endListener _ _)
  | unlisten name => exact ((SameWork.refl s).listeners _).trans (sameWork_endListener _ _)
  | attach name =>
    simp only [System.act]
    split
    · have hmonitor : SameWork s (s.register .monitor .statusView) :=
        sameWork_setRegistry s .monitor _
      have hboth : SameWork s
          ((s.register .monitor .statusView).register .configuration .statusView) :=
        hmonitor.trans (sameWork_setRegistry _ .configuration _)
      exact (hboth.attachments _).trans (sameWork_endAttachment _ _)
    · exact .refl s
  | detach name => exact ((SameWork.refl s).attachments _).trans (sameWork_endAttachment _ _)
  | change | create | perform | dropView => simp [Action.isRegistration] at ha

/-- Every input makes one of the steps. -/
theorem Shaped.step_feed (h : Shaped s) (input : Input ℓ) :
    Step s (s.begun? input) (s.feed input) := by
  cases input with
  | tick => exact h.step_tick
  | act a =>
    by_cases hturn : s.isTurn = true
    · have hfeed : s.feed (.act a) = s.act a := by simp [System.feed, hturn]
      rw [hfeed]
      exact step_act hturn a
    · have hfeed : s.feed (.act a) = s := by simp [System.feed, hturn]
      have hbegun : s.begun? (.act a) = none := by cases a <;> simp [System.begun?, hturn]
      rw [hfeed, hbegun]
      exact .stay
  | done =>
    simp only [System.feed, System.returned]
    split
    · next hstack => exact .told hstack rfl (by simp)
    · exact .stay
  | reply answers =>
    simp only [System.feed, System.replied]
    split
    · next hstack => exact .answer _ hstack
    · exact .stay

/-! ## What is known of the device -/

theorem status_setRegistry (source : Source) (r : Callbacks.Registry (Subscriber ℓ)) :
    (s.setRegistry source r).status = s.status := by
  cases source <;> rfl

theorem status_endListener (l : Option (Source × Nat)) : (s.endListener l).status = s.status := by
  cases l with
  | none => rfl
  | some l => exact status_setRegistry l.1 _

theorem status_endAttachment (a : Option Attachment) : (s.endAttachment a).status = s.status := by
  cases a with
  | none => rfl
  | some a => rfl

theorem status_deliver (event : Event) : (s.deliver event).status = s.status := by
  unfold System.deliver
  split
  · dsimp only
    split <;> rfl
  · rfl

theorem status_setFree : s.setFree.status = s.status := by
  rcases setFree_cases s with ⟨-, hfree⟩ | ⟨-, -, hfree⟩ <;> rw [hfree]

theorem status_tick : s.tick.status = s.status := by
  unfold System.tick
  split
  · rfl
  · next event entry rest below _ =>
    unfold System.tell
    split
    · exact status_deliver event
    · rfl
  · split <;> rfl
  · rfl
  · rfl
  · split <;> rfl
  · next p _ _ =>
    cases p with
    | done v => rfl
    | ask r next => cases r <;> rfl
  · exact status_setFree
  · rfl

/-- What is known of the device changes by changes only. -/
theorem status_feed {input : Input ℓ} (hinput : ∀ c, input ≠ .act (.change c)) :
    (s.feed input).status = s.status := by
  cases input with
  | tick => exact status_tick
  | done =>
    simp only [System.feed, System.returned]
    split <;> rfl
  | reply answers =>
    simp only [System.feed, System.replied]
    split <;> rfl
  | act a =>
    simp only [System.feed]
    split
    · cases a with
      | change c => exact absurd rfl (hinput c)
      | listen name source l =>
        exact (status_endListener _).trans (status_setRegistry source _)
      | unlisten name => exact status_endListener _
      | attach name =>
        simp only [System.act]
        split
        · exact status_endAttachment _
        · rfl
      | detach name => exact status_endAttachment _
      | create | perform | dropView =>
        simp only [System.act]
        split <;> rfl
    · rfl

end DeviceStatus.Device
