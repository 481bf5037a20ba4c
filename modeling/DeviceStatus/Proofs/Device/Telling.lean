import DeviceStatus.Proofs.Device.Steps
import DeviceStatus.Proofs.Lockscreen.LogoutButton

/-!
# What callbacks are told

What is registered has a number with its source, and under its registration it is called with the
events of the source. The calls that are still to be made are on the stack (`System.untold`), in the
order in which they will be made: an input that does not change the device makes the first of them
or none (`tells_feed`), and a change puts an event in front of them (`untold_announce`).
-/

namespace DeviceStatus.Device

open Callbacks (Entry)
open Lockscreen

variable {ℓ : Type}

/-- A registration: the source, and the number there. -/
abbrev Registration := Source × Nat

/-! ## Calls -/

/-- A call of a callback, with an event. -/
abbrev Call (ℓ : Type) := Subscriber ℓ × Event

/-- What a listener hears by a call. -/
def Call.heard? (call : Call ℓ) : Option (ℓ × Event) :=
  match call.1 with
  | .listener l => some (l, call.2)
  | .statusView => none

/-- What a listener hears at an occurrence under a registration. -/
def Occurrence.heard? (r : Registration) : Occurrence ℓ → Option (ℓ × Event)
  | heard id l event => if (event.source, id) = r then some (l, event) else none
  | announced _ | arrived _ | handled _ | requested _ => none

/-- The calls that are still to be made under a registration by something that is going on. -/
def Frame.untold (r : Registration) : Frame ℓ → List (Call ℓ)
  | notify event rest =>
    if event.source = r.1 then (rest.filter (·.id = r.2)).map fun e => (e.callback, event) else []
  | listening .. | replay | batch _ | handle _ | program _ | asked .. | free => []

/-- The call under a registration that something that is going on makes next, if it makes one. -/
def Frame.next? (r : Registration) : Frame ℓ → Option (Call ℓ)
  | notify event (e :: _) => if (event.source, e.id) = r then some (e.callback, event) else none
  | _ => none

namespace System

/-- Whether a callback is being told an event, or is still to be told one. -/
def isTelling (s : System ℓ) : Bool := s.stack.any Frame.isTelling

/-- The change that an input makes, if it makes one. -/
def change? (s : System ℓ) : Input ℓ → Option Change
  | .act (.change c) => if s.isTurn then some c else none
  | .act _ | .tick | .done | .reply _ => none

/-- The call under a registration that an input makes, if it makes one. -/
def told? (s : System ℓ) (r : Registration) : Input ℓ → Option (Call ℓ)
  | .tick => s.stack.head?.bind (Frame.next? r)
  | .act _ | .done | .reply _ => none

/-- What has been heard under a registration by listeners. -/
def heard (s : System ℓ) (r : Registration) : List (ℓ × Event) :=
  (s.journal.filterMap (Occurrence.heard? r)).reverse

/-- The calls that are still to be made under a registration. -/
def untold (s : System ℓ) (r : Registration) : List (Call ℓ) := s.stack.flatMap (Frame.untold r)

/-- What is registered under a number. -/
def callbacks (s : System ℓ) (r : Registration) : List (Subscriber ℓ) :=
  ((s.registry r.1).entries.filter (·.id = r.2)).map (·.callback)

end System

variable {s s' : System ℓ} {r : Registration}

/-! ## Numbers of registrations -/

/-- The registrations with both sources are numbered. -/
structure Numbered (s : System ℓ) : Prop where
  monitor : s.monitor.WellNumbered
  configuration : s.configuration.WellNumbered

namespace Numbered

variable (h : Numbered s)

include h

theorem register (source : Source) (callback : Subscriber ℓ) :
    Numbered (s.register source callback) := by
  cases source with
  | monitor => exact ⟨h.monitor.register callback, h.configuration⟩
  | configuration => exact ⟨h.monitor, h.configuration.register callback⟩

theorem unregister (source : Source) (id : Nat) : Numbered (s.unregister source id) := by
  cases source with
  | monitor => exact ⟨h.monitor.remove id, h.configuration⟩
  | configuration => exact ⟨h.monitor, h.configuration.remove id⟩

theorem endListener (l : Option (Source × Nat)) : Numbered (s.endListener l) := by
  cases l with
  | none => exact h
  | some l => exact h.unregister l.1 l.2

theorem endAttachment (a : Option Attachment) : Numbered (s.endAttachment a) := by
  cases a with
  | none => exact h
  | some a => exact (h.unregister .monitor a.monitor).unregister .configuration a.configuration

theorem deliver (event : Event) : Numbered (s.deliver event) := by
  unfold System.deliver
  split
  · dsimp only
    split
    · exact ⟨h.monitor, h.configuration⟩
    · exact ⟨h.monitor, h.configuration⟩
  · exact h

theorem act {a : Action ℓ} (ha : a.isRegistration = true) : Numbered (s.act a) := by
  cases a with
  | listen name source l =>
    have hregistered := h.register source (.listener l)
    refine endListener ?_ _
    exact ⟨hregistered.monitor, hregistered.configuration⟩
  | unlisten name =>
    refine endListener ?_ _
    exact ⟨h.monitor, h.configuration⟩
  | attach name =>
    simp only [System.act]
    split
    · have hregistered := (h.register .monitor .statusView).register .configuration .statusView
      refine endAttachment ?_ _
      exact ⟨hregistered.monitor, hregistered.configuration⟩
    · exact h
  | detach name =>
    refine endAttachment ?_ _
    exact ⟨h.monitor, h.configuration⟩
  | change | create | perform | dropView => simp [Action.isRegistration] at ha

theorem step {s' : System ℓ} {begun : Option Operation} (hstep : Step s begun s') :
    Numbered s' := by
  cases hstep with
  | register a ha => exact h.act ha
  | reach =>
    refine deliver ?_ _
    exact ⟨h.monitor, h.configuration⟩
  | stay | change | create | perform | dropView | letGo | told | hear | replayed | take | batched
  | next | handle | done | fact | log | ask | answer | free | leave =>
    exact ⟨h.monitor, h.configuration⟩

end Numbered

theorem numbered_run (locale : String) (inputs : List (Input ℓ)) :
    Numbered ((System.start (ℓ := ℓ) locale).run inputs) := by
  refine (shaped_start locale).run_induction ?_ ?_ inputs
  · exact fun s hshaped h input => h.step (hshaped.step_feed input)
  · exact ⟨Callbacks.Registry.wellNumbered_empty, Callbacks.Registry.wellNumbered_empty⟩

theorem Numbered.registry (h : Numbered s) (source : Source) :
    (s.registry source).WellNumbered := by
  cases source with
  | monitor => exact h.monitor
  | configuration => exact h.configuration

/-- Nothing else has the number of a registration. -/
theorem callbacks_of_mem (h : Numbered s) {source : Source} {e : Entry (Subscriber ℓ)}
    (he : e ∈ (s.registry source).entries) : s.callbacks (source, e.id) = [e.callback] := by
  have honce : ∀ {entries : List (Entry (Subscriber ℓ))},
      (entries.Pairwise fun a b => a.id < b.id) → e ∈ entries →
        entries.filter (·.id = e.id) = [e] := by
    intro entries hincreasing hmem
    induction hincreasing with
    | nil => simp at hmem
    | @cons first rest hlater _ ih =>
      rcases List.mem_cons.1 hmem with rfl | hmem
      · -- the later numbers are greater
        have hnone : rest.filter (·.id = e.id) = [] := by
          rw [List.filter_eq_nil_iff]
          intro later hmem
          have hlt := hlater later hmem
          simp only [decide_eq_true_eq]
          omega
        simp [hnone]
      · have hlt := hlater e hmem
        have hne : first.id ≠ e.id := by omega
        simp [hne, ih hmem]
  show (((s.registry source).entries.filter (·.id = e.id)).map (·.callback)) = [e.callback]
  rw [honce (h.registry source).increasing he]
  rfl

/-! ## What is told -/

theorem untold_cons {f : Frame ℓ} {below : List (Frame ℓ)} (hstack : s.stack = f :: below) :
    s.untold r = f.untold r ++ ({ s with stack := below } : System ℓ).untold r := by
  simp [System.untold, hstack]

theorem untold_pop {f : Frame ℓ} {below : List (Frame ℓ)} (hstack : s.stack = f :: below)
    (hf : f.untold r = []) : ({ s with stack := below } : System ℓ).untold r = s.untold r := by
  rw [untold_cons hstack, hf]
  rfl

theorem untold_eq_nil (h : s.isTelling = false) : s.untold r = [] := by
  refine List.flatMap_eq_nil_iff.2 fun f hf => ?_
  have hf := List.any_eq_false.1 h f hf
  cases f with
  | notify | listening => simp [Frame.isTelling] at hf
  | replay | batch | handle | program | asked | free => rfl

theorem untold_notify_cons (event : Event) (entry : Entry (Subscriber ℓ))
    (rest : List (Entry (Subscriber ℓ))) :
    (Frame.notify event (entry :: rest)).untold r =
      ((Frame.notify event (entry :: rest)).next? r).toList ++
        (Frame.notify event rest).untold r := by
  obtain ⟨source, id⟩ := r
  by_cases hsource : event.source = source
  · by_cases hid : entry.id = id
    · simp [Frame.untold, Frame.next?, hsource, hid]
    · simp [Frame.untold, Frame.next?, hsource, hid]
  · simp [Frame.untold, Frame.next?, hsource]

/-- A call, if there is one, is the next of those still to be made, and a listener that is called
hears it. -/
structure Tells (r : Registration) (s s' : System ℓ) (call? : Option (Call ℓ)) : Prop where
  untold : call?.toList ++ s'.untold r = s.untold r
  heard : s'.heard r = s.heard r ++ call?.toList.filterMap Call.heard?

theorem Tells.nothing (huntold : s'.untold r = s.untold r) (hheard : s'.heard r = s.heard r) :
    Tells r s s' none where
  untold := huntold
  heard := by simp [hheard]

theorem tells_deliver (event : Event) : Tells r s (s.deliver event) none := by
  unfold System.deliver
  split
  · dsimp only
    split <;> exact .nothing rfl rfl
  · exact .nothing rfl rfl

theorem tells_goOn (p : Program View) : Tells r s (s.goOn p) none := by
  cases p with
  | done v => exact .nothing rfl rfl
  | ask request next => cases request <;> exact .nothing rfl rfl

theorem tells_tick_notify {event : Event} {entry : Entry (Subscriber ℓ)}
    {rest : List (Entry (Subscriber ℓ))} {below : List (Frame ℓ)}
    (hstack : s.stack = .notify event (entry :: rest) :: below) :
    Tells r s s.tick ((Frame.notify event (entry :: rest)).next? r) := by
  let t : System ℓ := { s with stack := .notify event rest :: below }
  have htick : s.tick = t.tell event entry := by simp [System.tick, hstack, t]
  have huntold : ((Frame.notify event (entry :: rest)).next? r).toList ++ t.untold r =
      s.untold r := by
    rw [untold_cons (s := t) rfl, ← List.append_assoc, ← untold_notify_cons, ← untold_cons hstack]
  rw [htick]
  obtain ⟨id, callback⟩ := entry
  cases callback with
  | statusView =>
    have hdelivered := tells_deliver (r := r) (s := t) event
    refine ⟨?_, ?_⟩
    · rw [← huntold]
      exact congrArg (_ ++ ·) hdelivered.untold
    · refine hdelivered.heard.trans ?_
      simp only [Frame.next?]
      split <;> rfl
  | listener l =>
    refine ⟨huntold, ?_⟩
    show (List.filterMap (Occurrence.heard? r) (.heard id l event :: s.journal)).reverse = _
    by_cases hr : (event.source, id) = r
    · simp [Frame.next?, Occurrence.heard?, Call.heard?, System.heard, hr]
    · simp [Frame.next?, Occurrence.heard?, System.heard, hr]

theorem tells_tick : Tells r s s.tick (s.told? r .tick) := by
  cases hstack : s.stack with
  | nil =>
    have htick : s.tick = s := by simp [System.tick, hstack]
    have htold : s.told? r .tick = none := by simp [System.told?, hstack]
    rw [htick, htold]
    exact .nothing rfl rfl
  | cons f below =>
    have htold : s.told? r .tick = f.next? r := by simp [System.told?, hstack]
    have hpop : f.untold r = [] →
        ({ s with stack := below } : System ℓ).untold r = s.untold r := untold_pop hstack
    rw [htold]
    cases f with
    | notify event rest =>
      cases rest with
      | nil =>
        have htick : s.tick = { s with stack := below } := by simp [System.tick, hstack]
        rw [htick]
        exact .nothing (hpop (by simp [Frame.untold])) rfl
      | cons entry rest => exact tells_tick_notify hstack
    | listening | asked =>
      have htick : s.tick = s := by simp [System.tick, hstack]
      rw [htick]
      exact .nothing rfl rfl
    | replay =>
      simp only [System.tick, hstack]
      split
      · exact .nothing (hpop rfl) rfl
      · exact .nothing (hpop rfl) rfl
    | batch rest =>
      simp only [System.tick, hstack]
      cases rest with
      | nil => exact .nothing (hpop rfl) rfl
      | cons d rest => exact .nothing (hpop rfl) rfl
    | handle d =>
      simp only [System.tick, hstack]
      split
      · exact .nothing (hpop rfl) rfl
      · exact .nothing (hpop rfl) rfl
    | program p =>
      simp only [System.tick, hstack]
      obtain ⟨huntold, hheard⟩ := tells_goOn (r := r) (s := { s with stack := below }) p
      exact ⟨huntold.trans (hpop rfl), hheard⟩
    | free =>
      simp only [System.tick, hstack]
      rcases setFree_cases ({ s with stack := below } : System ℓ) with ⟨-, hfree⟩ | ⟨-, -, hfree⟩
      · rw [hfree]
        exact .nothing (hpop rfl) rfl
      · rw [hfree]
        exact .nothing (hpop rfl) rfl

theorem tells_register {a : Action ℓ} (ha : a.isRegistration = true) :
    Tells r s (s.act a) none := by
  have hsame := sameWork_register (s := s) ha
  refine .nothing ?_ ?_
  · unfold System.untold
    rw [hsame.stack]
  · unfold System.heard
    rw [hsame.journal]

theorem tells_act {a : Action ℓ} (ha : ∀ c, a ≠ .change c) : Tells r s (s.act a) none := by
  cases a with
  | change c => exact absurd rfl (ha c)
  | listen | unlisten | attach | detach => exact tells_register rfl
  | create =>
    simp only [System.act]
    split <;> exact .nothing rfl rfl
  | perform o =>
    simp only [System.act]
    split
    · unfold System.begin
      cases o.replays <;> exact .nothing rfl rfl
    · exact .nothing rfl rfl
  | dropView =>
    simp only [System.act]
    split <;> exact .nothing rfl rfl

theorem eq_change_of_change? {input : Input ℓ} {c : Change} (h : s.change? input = some c) :
    input = .act (.change c) ∧ s.isTurn = true := by
  cases input with
  | tick | done | reply => simp [System.change?] at h
  | act a =>
    cases a with
    | change c' =>
      by_cases hturn : s.isTurn = true
      · obtain rfl : c' = c := by simpa [System.change?, hturn] using h
        exact ⟨rfl, hturn⟩
      · simp [System.change?, hturn] at h
    | listen | unlisten | create | attach | detach | perform | dropView =>
      simp [System.change?] at h

/-- As long as the device does not change, what is told was still to be told. -/
theorem tells_feed {input : Input ℓ} (hinput : s.change? input = none) :
    Tells r s (s.feed input) (s.told? r input) := by
  cases input with
  | tick => exact tells_tick
  | act a =>
    show Tells r s (s.feed (.act a)) none
    by_cases hturn : s.isTurn = true
    · have hfeed : s.feed (.act a) = s.act a := by simp [System.feed, hturn]
      rw [hfeed]
      refine tells_act ?_
      rintro c rfl
      simp [System.change?, hturn] at hinput
    · have hfeed : s.feed (.act a) = s := by simp [System.feed, hturn]
      rw [hfeed]
      exact .nothing rfl rfl
  | done =>
    show Tells r s s.returned none
    unfold System.returned
    split
    · next hstack => exact .nothing (untold_pop hstack rfl) rfl
    · exact .nothing rfl rfl
  | reply answers =>
    show Tells r s (s.replied answers) none
    unfold System.replied
    split
    · next hstack =>
      refine .nothing ?_ rfl
      rw [untold_cons hstack]
      rfl
    · exact .nothing rfl rfl

/-! ## Changes -/

/-- Whether a change is told: a policy or a locale is, if it differs from the one before. -/
def Status.counts (status : Status) : Change → Bool
  | .setLogoutEnabled isEnabled => isEnabled != status.isLogoutEnabled
  | .setLocale locale => locale != status.locale
  | .time | .timeZone _ | .visibility _ | .wake | .sleep _ | .userSwitch _ | .density => true

theorem Status.eventOf_eq (status : Status) (c : Change) :
    status.eventOf c = if status.counts c then some c.told else none := by
  cases c with
  | setLogoutEnabled isEnabled =>
    by_cases hsame : isEnabled = status.isLogoutEnabled <;>
      simp [Status.eventOf, Status.counts, Change.told, hsame]
  | setLocale locale =>
    by_cases hsame : locale = status.locale <;>
      simp [Status.eventOf, Status.counts, Change.told, hsame]
  | time | timeZone | visibility | wake | sleep | userSwitch | density => rfl

theorem feed_of_change? {input : Input ℓ} {c : Change} (h : s.change? input = some c) :
    s.feed input = if s.status.counts c
      then ({ s with status := s.status.after c } : System ℓ).announce c.told else s := by
  obtain ⟨rfl, hturn⟩ := eq_change_of_change? h
  have hfeed : s.feed (.act (.change c)) = s.act (.change c) := by simp [System.feed, hturn]
  have hevent := s.status.eventOf_eq c
  rw [hfeed]
  by_cases hcounts : s.status.counts c = true
  · rw [if_pos hcounts] at hevent ⊢
    simp [System.act, hevent]
  · rw [if_neg hcounts] at hevent ⊢
    simp [System.act, hevent, after_of_eventOf_eq_none hevent]

theorem status_of_change? {input : Input ℓ} {c : Change} (h : s.change? input = some c) :
    (s.feed input).status = s.status.after c := by
  rw [feed_of_change? h]
  split
  · rfl
  · next hcounts =>
    refine (after_of_eventOf_eq_none ?_).symm
    rw [Status.eventOf_eq, if_neg hcounts]

theorem status_of_change?_eq_none {input : Input ℓ} (h : s.change? input = none) :
    (s.feed input).status = s.status := by
  by_cases hturn : s.isTurn = true
  · refine status_feed ?_
    rintro c rfl
    simp [System.change?, hturn] at h
  · cases input with
    | act a =>
      have hfeed : s.feed (.act a) = s := by simp [System.feed, hturn]
      rw [hfeed]
    | tick | done | reply => exact status_feed (by simp)

theorem told?_of_change? {input : Input ℓ} {c : Change} (h : s.change? input = some c) :
    s.told? r input = none := by
  obtain ⟨rfl, -⟩ := eq_change_of_change? h
  rfl

/-- An event is to be told once to everything that is registered with its source. -/
theorem untold_announce (event : Event) :
    (s.announce event).untold r =
      (if event.source = r.1 then (s.callbacks r).map (·, event) else []) ++ s.untold r := by
  have hstack : (s.announce event).stack =
      .notify event (s.registry event.source).entries :: s.stack := rfl
  rw [untold_cons hstack]
  refine congrArg (· ++ _) ?_
  by_cases hsource : event.source = r.1
  · simp [Frame.untold, System.callbacks, hsource]
  · simp [Frame.untold, hsource]

theorem heard_announce (event : Event) : (s.announce event).heard r = s.heard r := rfl

/-- What listeners hear by an input is what they are called with. -/
theorem heard_feed (input : Input ℓ) :
    (s.feed input).heard r = s.heard r ++ (s.told? r input).toList.filterMap Call.heard? := by
  cases hchange : s.change? input with
  | none => exact (tells_feed hchange).heard
  | some c =>
    rw [told?_of_change? hchange, feed_of_change? hchange]
    split
    · rw [heard_announce]
      exact (List.append_nil _).symm
    · exact (List.append_nil _).symm

/-! ## Runs -/

theorem System.run_append (s : System ℓ) (inputs later : List (Input ℓ)) :
    s.run (inputs ++ later) = (s.run inputs).run later :=
  List.foldl_append

end DeviceStatus.Device
