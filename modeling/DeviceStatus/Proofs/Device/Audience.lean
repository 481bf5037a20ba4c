import DeviceStatus.Proofs.Device.EventStreams
import DeviceStatus.Proofs.Device.Reach

/-!
# The audience of an event

The listeners registered with the source of an event hear it one after another. Those that are
still to hear one stand on the stack, and an event that is announced puts all its audience in front
of them (`Shaped.hearings_feed`); so along every run everybody hears everything (`Served`). The
audience is left alone by whatever happens to the view and its attachments (`Owned.audience_feed`).
-/

namespace DeviceStatus.Device

open Callbacks (Entry)
open Lockscreen

variable {ℓ : Type} {s s' : System ℓ} {input : Input ℓ}

/-! ## What listeners hear -/

/-- What a listener hears, with the number of its registration. -/
abbrev Hearing (ℓ : Type) := Nat × ℓ × Event

/-- What a callback that is told an event hears, if it is a listener. -/
def heardBy? (event : Event) (e : Entry (Subscriber ℓ)) : Option (Hearing ℓ) :=
  match e.callback with
  | .listener l => some (e.id, l, event)
  | .statusView => none

/-- What has been heard at an occurrence. -/
def Occurrence.hearing? : Occurrence ℓ → Option (Hearing ℓ)
  | heard id l event => some (id, l, event)
  | announced _ | arrived _ | handled _ | requested _ => none

/-- What is still to be heard of something that is going on. -/
def Frame.hearings : Frame ℓ → List (Hearing ℓ)
  | notify event rest => rest.filterMap (heardBy? event)
  | listening .. | replay | batch _ | handle _ | program _ | asked .. | free => []

namespace System

/-- What listeners have heard. -/
def hearings (s : System ℓ) : List (Hearing ℓ) := (s.journal.filterMap Occurrence.hearing?).reverse

/-- What listeners are still to hear, in this order if nothing is announced meanwhile. -/
def toHear (s : System ℓ) : List (Hearing ℓ) := s.stack.flatMap Frame.hearings

/-- Who would hear an event, in this order. -/
def audience (s : System ℓ) (event : Event) : List (Hearing ℓ) :=
  (s.registry event.source).entries.filterMap (heardBy? event)

/-- The event that an input announces, if it announces one. -/
def announces? (s : System ℓ) (input : Input ℓ) : Option Event :=
  ((s.change? input).bind s.status.announcement?).map (·.event)

/-- What listeners are to hear by an input. -/
def called (s : System ℓ) (input : Input ℓ) : List (Hearing ℓ) :=
  (s.announces? input).toList.flatMap s.audience

/-- What listeners are to hear by the events that a run announces. -/
def calls (s : System ℓ) : List (Input ℓ) → List (Hearing ℓ)
  | [] => []
  | input :: inputs => s.called input ++ (s.feed input).calls inputs

/-- The events that a run announces. -/
def events (s : System ℓ) : List (Input ℓ) → List Event
  | [] => []
  | input :: inputs => (s.announces? input).toList ++ (s.feed input).events inputs

/-- Whether an input announces no event while one is being told. -/
def isPatient (s : System ℓ) (input : Input ℓ) : Bool :=
  !s.isTelling || (s.announces? input).isNone

/-- Whether an input leaves the registrations of listeners as they are. -/
def sparesListeners (s : System ℓ) (input : Input ℓ) : Bool :=
  (s.assigns? input).all fun assigned => assigned.1.isOfView

end System

theorem hearings_note {o : Occurrence ℓ} (ho : o.hearing? = none) :
    (s.note o).hearings = s.hearings := by
  simp [System.hearings, System.note, ho]

theorem toHear_of_stack {f : Frame ℓ} {below : List (Frame ℓ)} (hstack : s.stack = f :: below) :
    s.toHear = f.hearings ++ below.flatMap Frame.hearings := by
  rw [System.toHear, hstack, List.flatMap_cons]

theorem hearings_of_isTelling {f : Frame ℓ} (hf : f.isTelling = false) : f.hearings = [] := by
  cases f with
  | notify | listening => simp [Frame.isTelling] at hf
  | replay | batch | handle | program | asked | free => rfl

theorem toHear_of_quiet (hquiet : s.isTelling = false) : s.toHear = [] := by
  refine List.flatMap_eq_nil_iff.2 fun f hf => hearings_of_isTelling ?_
  simpa using List.any_eq_false.1 hquiet f hf

/-- Nothing has been heard, and nothing else is to be heard. -/
def SameHearings (s s' : System ℓ) : Prop :=
  s'.hearings ++ s'.toHear = s.hearings ++ s.toHear

theorem SameWork.hearings (h : SameWork s s') : SameHearings s s' := by
  simp only [SameHearings, System.hearings, System.toHear, h.journal, h.stack]

theorem sameHearings_deliver (event : Event) : SameHearings s (s.deliver event) := by
  unfold System.deliver
  split
  · dsimp only
    split <;> rfl
  · rfl

theorem tick_of_isTurn (hturn : s.isTurn = true) : s.tick = s := by
  unfold System.tick
  unfold System.isTurn at hturn
  cases hstack : s.stack with
  | nil => rfl
  | cons f below =>
    rw [hstack] at hturn
    cases f with
    | listening | asked => rfl
    | notify | replay | batch | handle | program | free => simp [Frame.isTurn] at hturn

theorem Shaped.sameHearings_tick (h : Shaped s) : SameHearings s s.tick := by
  by_cases hturn : s.isTurn = true
  · rw [tick_of_isTurn hturn]
    rfl
  have hstep := h.step_tick
  generalize s.tick = s' at hstep ⊢
  have hpop : ∀ {f : Frame ℓ} {below : List (Frame ℓ)}, s.stack = f :: below →
      f.hearings = [] → below.flatMap Frame.hearings = s.toHear := by
    intro f below hstack hf
    rw [toHear_of_stack hstack, hf]
    rfl
  cases hstep with
  | change _ _ hturn' => exact absurd hturn' hturn
  | register a ha => exact (sameWork_register ha).hearings
  | stay | create | dropView | letGo | take => rfl
  | @told f below hstack hf hrest =>
    have hnothing : f.hearings = [] := by
      cases f with
      | notify event rest => simp [Frame.hearings, hrest event rest rfl]
      | listening | replay | batch | handle | program | asked | free => rfl
    exact congrArg (s.hearings ++ ·) (hpop hstack hnothing)
  | @hear event id l rest below hstack =>
    have hheard : (s.note (.heard id l event)).hearings = s.hearings ++ [(id, l, event)] := by
      simp [System.hearings, System.note, Occurrence.hearing?]
    have hfirst : s.toHear = (id, l, event) :: (rest.filterMap (heardBy? event) ++
        below.flatMap Frame.hearings) := by
      simp [toHear_of_stack hstack, Frame.hearings, heardBy?]
    show (s.note (.heard id l event)).hearings ++ (rest.filterMap (heardBy? event) ++
      below.flatMap Frame.hearings) = s.hearings ++ s.toHear
    rw [hheard, hfirst, List.append_assoc, List.singleton_append]
  | @reach event id rest below hstack =>
    have hrest : rest.filterMap (heardBy? event) ++ below.flatMap Frame.hearings = s.toHear := by
      rw [toHear_of_stack hstack, Frame.hearings, List.filterMap_cons_none rfl]
    have hsame : SameHearings s { s with stack := .notify event rest :: below } :=
      congrArg (s.hearings ++ ·) hrest
    exact (sameHearings_deliver event).trans hsame
  | replayed hstack | batched hstack | next hstack | handle hstack | done hstack | fact hstack
  | log hstack | ask _ hstack | answer _ hstack | free hstack | leave hstack =>
    have hbelow := hpop hstack rfl
    exact congrArg (s.hearings ++ ·) hbelow

theorem sameHearings_act {a : Action ℓ} (ha : ∀ c, a ≠ .change c) : SameHearings s (s.act a) := by
  cases a with
  | change c => exact absurd rfl (ha c)
  | listen | unlisten | attach | detach => exact (sameWork_register rfl).hearings
  | create | dropView =>
    simp only [System.act]
    split <;> rfl
  | perform o =>
    simp only [System.act]
    split
    · unfold System.begin
      cases o.replays <;> rfl
    · rfl

/-- As long as nothing is announced, what is heard is the first of what is still to be heard. -/
theorem Shaped.sameHearings_feed (h : Shaped s) (hinput : s.change? input = none) :
    SameHearings s (s.feed input) := by
  cases input with
  | tick => exact h.sameHearings_tick
  | act a =>
    simp only [System.feed]
    split
    · next hturn =>
      refine sameHearings_act ?_
      rintro c rfl
      simp [System.change?, hturn] at hinput
    · rfl
  | done =>
    simp only [System.feed, System.returned]
    split
    · next hstack => exact congrArg (s.hearings ++ ·) (toHear_of_stack hstack).symm
    · rfl
  | reply answers =>
    simp only [System.feed, System.replied]
    split
    · next hstack => exact congrArg (s.hearings ++ ·) (toHear_of_stack hstack).symm
    · rfl

/-- What is announced is to be heard before everything else. -/
theorem Shaped.hearings_feed (h : Shaped s) (input : Input ℓ) :
    (s.feed input).hearings ++ (s.feed input).toHear =
      s.hearings ++ (s.called input ++ s.toHear) := by
  unfold System.called System.announces?
  cases hchange : s.change? input with
  | none => exact h.sameHearings_feed hchange
  | some c =>
    rw [feed_of_change? hchange, Option.bind_some, Status.announcement?]
    by_cases hcounts : s.status.counts c = true
    · let changed : System ℓ := { s with status := s.status.after c }
      have hheard : (changed.announce c.told).hearings = s.hearings :=
        hearings_note (s := changed) rfl
      have hstack : (changed.announce c.told).stack =
          .notify c.told (s.registry c.told.source).entries :: s.stack := rfl
      have htoHear : (changed.announce c.told).toHear = s.audience c.told ++ s.toHear :=
        toHear_of_stack hstack
      rw [if_pos hcounts, if_pos hcounts, hheard, htoHear]
      simp
    · rw [if_neg hcounts, if_neg hcounts]
      rfl

/-- What has been heard stays heard, and what is heard next is announced now or was to be heard. -/
theorem Shaped.hears (h : Shaped s) (input : Input ℓ) :
    ∃ new, (s.feed input).hearings = s.hearings ++ new ∧
      new ++ (s.feed input).toHear = s.called input ++ s.toHear := by
  obtain ⟨new, hjournal, -⟩ := h.moved (h.step_feed input)
  have hheard : (s.feed input).hearings =
      s.hearings ++ (new.filterMap Occurrence.hearing?).reverse := by
    simp [System.hearings, hjournal]
  refine ⟨_, hheard, ?_⟩
  have hall := h.hearings_feed input
  rw [hheard, List.append_assoc] at hall
  exact List.append_cancel_left hall

/-! ## Along a run -/

/-- In every run all that is announced is heard, apart from what is still to be heard. -/
theorem Shaped.hearings_run (h : Shaped s) (inputs : List (Input ℓ)) :
    ((s.run inputs).hearings ++ (s.run inputs).toHear).Perm
      (s.hearings ++ s.toHear ++ s.calls inputs) := by
  induction inputs generalizing s with
  | nil => simp [System.run, System.calls]
  | cons input inputs ih =>
    have hlater := ih (h.feed input).1
    rw [h.hearings_feed input] at hlater
    refine hlater.trans ?_
    have hexchange : (s.called input ++ s.toHear).Perm (s.toHear ++ s.called input) :=
      List.perm_append_comm
    have hall := (hexchange.append_left s.hearings).append_right ((s.feed input).calls inputs)
    rw [System.calls]
    simpa only [List.append_assoc] using hall

/-- If no event is announced while another one is told, everything is heard in the order in which it
is announced. -/
theorem Shaped.hearings_inOrder (h : Shaped s) {inputs : List (Input ℓ)}
    (hpatient : s.throughout System.isPatient inputs = true) :
    (s.run inputs).hearings ++ (s.run inputs).toHear =
      s.hearings ++ s.toHear ++ s.calls inputs := by
  induction inputs generalizing s with
  | nil => simp [System.run, System.calls]
  | cons input inputs ih =>
    obtain ⟨hnow, hothers⟩ := (Bool.and_eq_true _ _).mp hpatient
    have hcommute : s.called input ++ s.toHear = s.toHear ++ s.called input := by
      by_cases hquiet : s.isTelling = false
      · rw [toHear_of_quiet hquiet, List.append_nil, List.nil_append]
      · have hnone : s.announces? input = none := by simpa [System.isPatient, hquiet] using hnow
        simp [System.called, hnone]
    have hlater := ih (h.feed input).1 hothers
    rw [h.hearings_feed input, hcommute] at hlater
    show ((s.feed input).run inputs).hearings ++ ((s.feed input).run inputs).toHear = _
    rw [hlater, System.calls]
    simp only [List.append_assoc]

/-! ## Who is there to hear -/

theorem filterMap_filter_of_none {α β : Type} {p : α → Bool} {f : α → Option β} {l : List α}
    (h : ∀ a ∈ l, p a = false → f a = none) : (l.filter p).filterMap f = l.filterMap f := by
  rw [List.filterMap_filter]
  refine List.filterMap_congr fun a ha => ?_
  cases hp : p a with
  | false => simp [h a ha hp]
  | true => simp

theorem heardBy?_of_isView {e : Entry (Subscriber ℓ)} (he : e.callback.isView = true)
    (event : Event) : heardBy? event e = none := by
  obtain ⟨id, callback⟩ := e
  cases callback with
  | statusView => rfl
  | listener l => simp [Subscriber.isView] at he

/-- Attachments have nothing to do with the audience of an event. -/
theorem Owned.audience_feed (h : Owned s) (hinput : s.sparesListeners input = true)
    (event : Event) :
    (s.feed input).audience event = s.audience event := by
  unfold System.audience
  cases hassigns : s.assigns? input with
  | none => rw [(sameRegistrations_feed hassigns).registry]
  | some assigned =>
    obtain ⟨handle, new⟩ := assigned
    cases handle with
    | listener name => simp [System.sparesListeners, hassigns, Handle.isOfView] at hinput
    | attachment name =>
      have hnew : ∀ e ∈ (new.filter (·.source = event.source)).map (·.entry),
          heardBy? event e = none := by
        intro e he
        obtain ⟨r, hr, rfl⟩ := List.mem_map.1 he
        exact heardBy?_of_isView (isView_of_assigns? hassigns (List.mem_filter.1 hr).1) event
      have hkept : ∀ e ∈ (s.registry event.source).entries,
          (event.source, e.id) ∈ s.held (.attachment name) → heardBy? event e = none := by
        intro e he hheld
        exact heardBy?_of_isView (h.matching event.source e he _ hheld) event
      rw [(assigned_feed hassigns).entries, filterMap_filter_of_none, List.filterMap_append,
        List.filterMap_eq_nil_iff.2 hnew, List.append_nil]
      intro e he hgone
      obtain he | he := List.mem_append.1 he
      · exact hkept e he (by simpa using hgone)
      · exact hnew e he

/-- The audience of an event stands in the order of the registrations. -/
theorem Numbered.audience_increasing (h : Numbered s) (event : Event) :
    (s.audience event).Pairwise (·.1 < ·.1) := by
  have hincreasing := (h.registry event.source).increasing
  refine List.Pairwise.filterMap _ ?_ hincreasing
  intro e e' hlt heard hheard heard' hheard'
  have hnumber : ∀ {e : Entry (Subscriber ℓ)} {heard : Hearing ℓ},
      heardBy? event e = some heard → heard.1 = e.id := by
    intro e heard hheard
    obtain ⟨id, callback⟩ := e
    cases callback with
    | statusView => simp [heardBy?] at hheard
    | listener l =>
      obtain rfl := Option.some.inj hheard
      rfl
  rw [hnumber hheard, hnumber hheard']
  exact hlt

/-- A listener that is kept is in the audience of the events of its source. -/
theorem HeldBy.mem_audience {h : Handle} {r : Registrant ℓ} (hheld : HeldBy s h r) {l : ℓ}
    (hl : r.entry.callback = .listener l) {event : Event} (hevent : event.source = r.source) :
    (r.entry.id, l, event) ∈ s.audience event := by
  refine List.mem_filterMap.2 ⟨r.entry, ?_, ?_⟩
  · rw [hevent]
    exact hheld.registered
  · simp [heardBy?, hl]

theorem HeldBy.run {h : Handle} {r : Registrant ℓ} (hheld : HeldBy s h r) (hshaped : Shaped s)
    (hkept : Kept s) {inputs : List (Input ℓ)}
    (hkeeps : (s.throughout fun s input => !s.assigns h input) inputs = true) :
    HeldBy (s.run inputs) h r := by
  have hboth : Kept (s.run inputs) ∧ HeldBy (s.run inputs) h r := by
    refine hshaped.throughout_induction (P := fun s => Kept s ∧ HeldBy s h r) ?_ ⟨hkept, hheld⟩
      hkeeps
    intro s hshaped hs input hinput
    exact ⟨hs.1.feed hshaped input, hs.2.feed hs.1 (by simpa using hinput)⟩
  exact hboth.2

theorem Owned.calls_eq (h : Owned s) (hkept : Kept s) (hshaped : Shaped s)
    {inputs : List (Input ℓ)} (hspares : s.throughout System.sparesListeners inputs = true) :
    s.calls inputs = (s.events inputs).flatMap s.audience := by
  induction inputs generalizing s with
  | nil => rfl
  | cons input inputs ih =>
    obtain ⟨hnow, hothers⟩ := (Bool.and_eq_true _ _).mp hspares
    have hlater := ih (h.feed hkept input) (hkept.feed hshaped input) (hshaped.feed input).1 hothers
    have hsame : (s.feed input).audience = s.audience := funext (h.audience_feed hnow)
    rw [System.calls, System.events, List.flatMap_append, hlater, hsame]
    rfl

/-- Everybody registered hears of what happens during a run. -/
structure Served (s : System ℓ) (inputs : List (Input ℓ)) : Prop where
  /-- Each event that is announced is heard by all its audience, or is still to be heard. -/
  all : ((s.run inputs).hearings ++ (s.run inputs).toHear).Perm
    (s.hearings ++ s.toHear ++ s.calls inputs)
  /-- It is heard in the order in which it is announced, and by the audience in its order, if none
  is announced while another one is being told. -/
  inOrder : s.throughout System.isPatient inputs = true →
    (s.run inputs).hearings ++ (s.run inputs).toHear = s.hearings ++ s.toHear ++ s.calls inputs
  /-- Otherwise what is announced last is heard first: at each moment the next to be heard comes
  from what is announced then, or else from what was still to be heard. -/
  next : ∀ earlier input rest, inputs = earlier ++ input :: rest →
    ∃ new, ((s.run earlier).feed input).hearings = (s.run earlier).hearings ++ new ∧
      new ++ ((s.run earlier).feed input).toHear =
        (s.run earlier).called input ++ (s.run earlier).toHear
  /-- When nothing is being told, all has been heard. -/
  done : (s.run inputs).isTelling = false → (s.run inputs).toHear = []
  /-- The audience is in the order of the registrations. -/
  increasing : ∀ earlier rest, inputs = earlier ++ rest →
    ∀ event, ((s.run earlier).audience event).Pairwise (·.1 < ·.1)
  /-- Whoever stays registered stays in the audience. -/
  kept : ∀ name r l, HeldBy s (.listener name) r → r.entry.callback = .listener l →
    (s.throughout fun s input => !s.assigns (.listener name) input) inputs = true →
      ∀ earlier rest, inputs = earlier ++ rest → ∀ event, event.source = r.source →
        (r.entry.id, l, event) ∈ (s.run earlier).audience event
  /-- The audience stays the same if no listener comes or goes. -/
  same : s.throughout System.sparesListeners inputs = true →
    s.calls inputs = (s.events inputs).flatMap s.audience

/-- What has been heard, if nobody came or went, nothing was announced in between, and nothing is
still to be heard. -/
theorem Served.hearings_eq {inputs : List (Input ℓ)} (h : Served s inputs)
    (hpatient : s.throughout System.isPatient inputs = true)
    (hspares : s.throughout System.sparesListeners inputs = true)
    (hquiet : (s.run inputs).isTelling = false) :
    (s.run inputs).hearings = s.hearings ++ s.toHear ++ (s.events inputs).flatMap s.audience := by
  have hall := h.inOrder hpatient
  rw [h.done hquiet, h.same hspares, List.append_nil] at hall
  exact hall

theorem served_run (locale : String) (early inputs : List (Input ℓ)) :
    Served ((System.start locale).run early) inputs := by
  have hshaped : Shaped ((System.start (ℓ := ℓ) locale).run early) := (shaped_run locale early).1
  have hkept := kept_run (ℓ := ℓ) locale early
  constructor
  · exact hshaped.hearings_run inputs
  · exact hshaped.hearings_inOrder
  · rintro earlier input rest -
    exact (hshaped.run earlier).hears input
  · exact toHear_of_quiet
  · rintro earlier rest - event
    rw [← System.run_append]
    exact (numbered_run locale _).audience_increasing event
  · rintro name r l hheld hl hkeeps earlier rest rfl event hevent
    rw [throughout_append, Bool.and_eq_true] at hkeeps
    exact (hheld.run hshaped hkept hkeeps.1).mem_audience hl hevent
  · exact (owned_run locale early).calls_eq hkept hshaped

end DeviceStatus.Device
