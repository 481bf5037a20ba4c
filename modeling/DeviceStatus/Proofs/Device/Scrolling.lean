import DeviceStatus.Proofs.Device.LogoutButton
import DeviceStatus.Proofs.Device.MarqueeTimer
import DeviceStatus.Proofs.Device.Telling
import DeviceStatus.Proofs.Lockscreen.Scrolling

/-!
# Scrolling while the device is in use

The owner information is to scroll, or to be about to, while the device is in use. The view learns
of this by events alone, so it is in line with the device as long as each of these events finds it
free and is handled before the device changes again (`Timely`): whatever tells of the device is told
while nothing else goes on. What is still to be told, or will be put right by the end of the work of
the view, is `InLine`; at rest this is what `scrolls_while_interactive` says.
-/

namespace DeviceStatus.Device

open Callbacks (Entry)
open Lockscreen

variable {ℓ : Type} {s s' : System ℓ} {begun : Option Operation}

/-! ## Steps -/

/-- What the view begins to handle is on top of the stack. -/
theorem Step.stack_of_handled {d : Delivery} (hstep : Step s begun s')
    (hjournal : s'.journal = .handled d :: s.journal) : ∃ below, s.stack = .handle d :: below := by
  cases hstep with
  | handle hstack =>
    have hd := (List.cons.inj hjournal).1
    injection hd with hd
    exact ⟨_, hd ▸ hstack⟩
  | register a ha =>
    rw [(sameWork_register ha).journal] at hjournal
    simp at hjournal
  | @reach event id rest below =>
    obtain ⟨new, hnew, hview⟩ :=
      journal_deliver (s := ({ s with stack := .notify event rest :: below } : System ℓ)) event
    rw [hnew] at hjournal
    have hhandled : new = [.handled d] := List.append_cancel_right hjournal
    have hnot := hview (.handled d) (by simp [hhandled])
    simp [Occurrence.isOfView] at hnot
  | stay | change | create | perform | dropView | letGo | told | hear | replayed | take | batched
  | next | done | fact | log | ask | answer | free | leave =>
    simp [System.announce, System.note, System.push, System.begin] at hjournal

/-- Where others act, nothing is noted but what is announced. -/
theorem journal_feed_of_isTurn (hturn : s.isTurn = true) {input : Input ℓ}
    (hinput : s.change? input = none) : (s.feed input).journal = s.journal := by
  cases input with
  | tick =>
    show s.tick.journal = s.journal
    cases hstack : s.stack with
    | nil => simp [System.tick, hstack]
    | cons f below =>
      cases f with
      | listening | asked => simp [System.tick, hstack]
      | notify | replay | batch | handle | program | free =>
        simp [System.isTurn, hstack, Frame.isTurn] at hturn
  | done =>
    simp only [System.feed, System.returned]
    split <;> rfl
  | reply answers =>
    simp only [System.feed, System.replied]
    split <;> rfl
  | act a =>
    simp only [System.feed, hturn, if_true]
    cases a with
    | change c => simp [System.change?, hturn] at hinput
    | listen | unlisten | attach | detach => exact (sameWork_register rfl).journal
    | create | perform | dropView =>
      simp only [System.act]
      split <;> rfl

/-! ## Events in time -/

/-- An event on the stack that tells of the device tells what is true of it, it has not been put
off, and it is told while nothing else goes on. -/
def Frame.IsTimely (isInteractive : Bool) (below : List (Frame ℓ)) : Frame ℓ → Prop
  | notify event _ => ∀ told, event.interactive? = some told → told = isInteractive ∧ below = []
  | handle d => ∀ told, d.event.interactive? = some told → told = isInteractive
  | batch rest => ∀ d ∈ rest, d.event.interactive? = none
  | listening .. | replay | program _ | asked .. | free => True

/-- Everything on a stack is told in time. -/
def IsTimely (isInteractive : Bool) : List (Frame ℓ) → Prop
  | [] => True
  | f :: below => f.IsTimely isInteractive below ∧ IsTimely isInteractive below

/-- Whether the device is in use is told in time. -/
structure Timely (s : System ℓ) : Prop where
  /-- What is on its way is true. -/
  stack : IsTimely s.status.isInteractive s.stack
  /-- Nothing of this is put off. -/
  deferred : ∀ d ∈ s.deferred, d.event.interactive? = none

/-- An event that is told while nothing else goes on finds the view free. -/
theorem Shaped.free_of_bottom (h : Shaped s) {f : Frame ℓ} (hstack : s.stack = [f])
    (hf : f.isTelling = true) : s.isBusy = false := by
  cases hbusy : s.isBusy with
  | false => rfl
  | true =>
    have hshape := h.busy hbusy
    rw [hstack] at hshape
    cases hshape with
    | resting h => cases h <;> simp [Frame.isTelling] at hf
    | program h => cases h
    | interrupted h =>
      cases h with
      | asked h => cases h
      | telling hf h => cases h

theorem Timely.top (h : Timely s) {f : Frame ℓ} {below : List (Frame ℓ)}
    (hstack : s.stack = f :: below) :
    f.IsTimely s.status.isInteractive below ∧ IsTimely s.status.isInteractive below := by
  have hstacked := h.stack
  rwa [hstack] at hstacked

theorem Timely.deliver (h : Timely s) {event : Event} (hevent : ∀ told,
    event.interactive? = some told → told = s.status.isInteractive ∧ s.isBusy = false) :
    Timely (s.deliver event) := by
  cases hview : s.view with
  | empty | gone =>
    have hsame : s.deliver event = s := by simp [System.deliver, hview]
    rw [hsame]
    exact h
  | present v =>
    by_cases hbusy : s.isBusy = true
    · have hnone : event.interactive? = none := by
        rw [Option.eq_none_iff_forall_ne_some]
        intro told htold
        obtain ⟨-, hfree⟩ := hevent told htold
        simp [hbusy] at hfree
      rw [deliver_of_isBusy hview hbusy]
      refine ⟨h.stack, fun d hd => ?_⟩
      rcases List.mem_append.1 hd with hd | hd
      · exact h.deferred d hd
      · rw [List.mem_singleton.1 hd]
        exact hnone
    · rw [deliver_of_free hview (by simpa using hbusy)]
      exact ⟨⟨trivial, fun told htold => (hevent told htold).1, trivial, h.stack⟩, h.deferred⟩

/-- What tells of the device reaches a view that is free. -/
theorem Timely.reach (h : Timely s) (hshaped : Shaped s) {event : Event} {id : Nat}
    {rest : List (Entry (Subscriber ℓ))} {below : List (Frame ℓ)}
    (hstack : s.stack = .notify event (⟨id, .statusView⟩ :: rest) :: below) :
    Timely (({ s with stack := .notify event rest :: below } : System ℓ).deliver event) := by
  obtain ⟨hevent, hbelow⟩ := h.top hstack
  have htelling : Timely ({ s with stack := .notify event rest :: below } : System ℓ) :=
    ⟨⟨hevent, hbelow⟩, h.deferred⟩
  refine htelling.deliver fun told htold => ?_
  obtain ⟨htrue, rfl⟩ := hevent told htold
  exact ⟨htrue, hshaped.free_of_bottom hstack rfl⟩

/-- What is told in time is told in time after every step that does not announce anything. -/
theorem Timely.step (h : Timely s) (hshaped : Shaped s) (hstep : Step s begun s')
    (hstatus : s'.status = s.status)
    (hquiet : s.isTurn = true → s'.journal = s.journal) : Timely s' := by
  cases hstep with
  | stay | dropView | letGo => exact ⟨h.stack, h.deferred⟩
  | change c hevent hturn =>
    have hjournal := hquiet hturn
    simp [System.announce, System.note, System.push] at hjournal
  | register a ha =>
    have hsame := sameWork_register (s := s) ha
    refine ⟨?_, ?_⟩
    · rw [hstatus, hsame.stack]
      exact h.stack
    · rw [hsame.deferred]
      exact h.deferred
  | create => exact ⟨⟨trivial, trivial, h.stack⟩, h.deferred⟩
  | perform o =>
    refine ⟨?_, h.deferred⟩
    cases o.replays with
    | true => exact ⟨trivial, trivial, trivial, h.stack⟩
    | false => exact ⟨trivial, trivial, h.stack⟩
  | told hstack | batched hstack | done hstack | free hstack | leave hstack =>
    exact ⟨(h.top hstack).2, h.deferred⟩
  | replayed hstack hdeferred => exact ⟨(h.top hstack).2, h.deferred⟩
  | hear hstack => exact ⟨⟨trivial, (h.top hstack).1, (h.top hstack).2⟩, h.deferred⟩
  | reach hstack => exact h.reach hshaped hstack
  | take => exact ⟨⟨h.deferred, h.stack⟩, by simp⟩
  | next hstack =>
    obtain ⟨hbatch, hbelow⟩ := h.top hstack
    obtain ⟨hd, hrest⟩ := List.forall_mem_cons.1 hbatch
    refine ⟨⟨?_, hrest, hbelow⟩, h.deferred⟩
    intro told htold
    simp [hd] at htold
  | handle hstack | fact hstack | log hstack | ask hr hstack | answer answer hstack =>
    exact ⟨⟨trivial, (h.top hstack).2⟩, h.deferred⟩

/-! ## Runs -/

/-- Whether an input, if it tells of the device being in use, does this as it should: a change is
made while nothing goes on, and finds the view attached if there is one; and what the owner tells
the view is true. -/
def System.tellsInTime (s : System ℓ) : Input ℓ → Bool
  | .act (.change c) =>
    !s.isTurn || c.told.interactive?.isNone ||
      s.isAtRest && (s.view.view?.isNone || s.isAttached)
  | .act (.perform o) => o.agreesWith s.status.isInteractive
  | .act _ | .tick | .done | .reply _ => true

theorem Status.isInteractive_after (status : Status) (c : Change) :
    (status.after c).isInteractive = c.told.interactive?.getD status.isInteractive := by
  cases c <;> rfl

theorem Timely.announce (h : Timely s) {c : Change}
    (hrest : ∀ told, c.told.interactive? = some told → s.stack = []) :
    Timely (({ s with status := s.status.after c } : System ℓ).announce c.told) := by
  have hstatus := s.status.isInteractive_after c
  cases htold : c.told.interactive? with
  | none =>
    rw [htold, Option.getD_none] at hstatus
    refine ⟨⟨?_, ?_⟩, h.deferred⟩
    · intro told h
      simp [htold] at h
    · show IsTimely (s.status.after c).isInteractive s.stack
      rw [hstatus]
      exact h.stack
  | some told =>
    have hstack := hrest told htold
    rw [htold, Option.getD_some] at hstatus
    refine ⟨⟨?_, ?_⟩, h.deferred⟩
    · intro told' h
      obtain rfl : told = told' := Option.some.inj (htold.symm.trans h)
      exact ⟨hstatus.symm, hstack⟩
    · show IsTimely _ s.stack
      rw [hstack]
      trivial

/-- The owner information scrolls while the device is in use, or will when the view has ended its
work, or the view is still to be told what is true of the device. -/
def InLine (s : System ℓ) : Prop :=
  s.owes (·.interactive? == some s.status.isInteractive) = true ∨
    s.work.Meets (.interactive s.status.isInteractive)
      (View.ScrollsWhile s.status.isInteractive) s.screen

theorem fits_interactive (s : System ℓ) : Fits (.interactive s.status.isInteractive) s := by
  refine fits_screen fun f => ?_
  cases f with
  | isInteractive => rfl
  | isLogoutEnabled | currentUser => trivial

theorem Event.source_of_interactive? {e : Event} {told : Bool} (he : e.interactive? = some told) :
    e.source = .monitor := by
  cases e <;> first | rfl | simp [Event.interactive?] at he

theorem InLine.announce (h : InLine s) {c : Change} (hrest : ∀ told,
    c.told.interactive? = some told → s.stack = [] ∧ (s.view.view? = none ∨ s.isAttached = true)) :
    InLine (({ s with status := s.status.after c } : System ℓ).announce c.told) := by
  have hmonitor : ∀ told, (c.told.interactive? == some told) = true → c.told.source = .monitor :=
    fun told htold => Event.source_of_interactive? (eq_of_beq htold)
  have hstatus := s.status.isInteractive_after c
  unfold InLine
  rw [owes_announce (hmonitor _), work_announce]
  show (_ = true) ∨ s.work.Meets (.interactive (s.status.after c).isInteractive)
    (View.ScrollsWhile (s.status.after c).isInteractive) s.screen
  cases htold : c.told.interactive? with
  | none =>
    rw [htold, Option.getD_none] at hstatus
    refine h.imp (fun howes => ?_) fun hmeets => ?_
    · rw [Bool.or_eq_true]
      right
      show s.owes (·.interactive? == some (s.status.after c).isInteractive) = true
      rw [hstatus]
      exact howes
    · rw [hstatus]
      exact hmeets
  | some told =>
    obtain ⟨hstack, hnone | hattached⟩ := hrest told htold
    · -- nobody is there to be told
      right
      have hwork : s.work = .idle s.view := work_of_stack hstack rfl
      rw [hwork]
      intro v hv
      simp [hv, ViewSlot.view?] at hnone
    · left
      rw [htold, Option.getD_some] at hstatus
      have hsame : ({ s with status := s.status.after c } : System ℓ).isAttached = true := hattached
      simp [hsame, System.announce, System.note, System.push, hstatus]

theorem InLine.feed_other (h : InLine s) (houtset : Outset s) (hshaped : Shaped s)
    (htimely : Timely s) {input : Input ℓ} (hinput : s.change? input = none)
    (hbegun : ∀ o, s.begun? input = some o → o.agreesWith s.status.isInteractive = true) :
    InLine (s.feed input) := by
  have hmonitor : ∀ e : Event, (e.interactive? == some s.status.isInteractive) = true →
      e.source = .monitor := fun e he => Event.source_of_interactive? (eq_of_beq he)
  have hstep := hshaped.step_feed input
  unfold InLine
  rw [status_of_change?_eq_none hinput]
  -- what is on its way stays so, unless the view begins to handle it and then is brought in line
  rcases h with howes | hmeets
  · rcases hstep.owes hmonitor (fun hempty => (houtset.empty hempty).2 _ hmonitor) houtset.gone
      howes with howes | hgone | ⟨d, v, hd, hwork⟩
    · exact .inl howes
    · right
      rw [hgone]
      intro v hv
      simp at hv
    · right
      rw [hwork]
      exact (Handler.ensures_after ..).2 (View.scrollsWhile_handle (eq_of_beq hd) v _)
  · right
    obtain ⟨new, hjournal, hmove⟩ := hshaped.moved hstep
    rw [screen_eq _ hjournal]
    refine hmove.meets_handled (fits_interactive s) (fun _ => hmeets) ?_ ?_ ?_
    · exact fun _ _ locale => View.ensures_create_scrollsWhile locale _
    · intro o v hbegan hwork
      rw [hwork] at hmeets
      have hkeeps := Operation.scrollsWhile (hbegun o hbegan)
      exact (Handler.ensures_after ..).2 (hkeeps v _ (hmeets v rfl))
    · intro d v hnew hscrolls
      obtain ⟨below, hstack⟩ := hstep.stack_of_handled (hjournal.trans (congrArg (· ++ _) hnew))
      have htrue : ∀ told, d.event.interactive? = some told → told = s.status.isInteractive :=
        (htimely.top hstack).1
      have hagrees : (Operation.event d.event).agreesWith s.status.isInteractive = true := by
        cases htold : d.event.interactive? with
        | none => simp [Operation.agreesWith, htold]
        | some told => simp [Operation.agreesWith, htold, htrue told htold]
      exact (Handler.ensures_after ..).2 (Operation.scrollsWhile hagrees v _ hscrolls)

/-- The view is in line with the device, and what tells of the device is told in time. -/
structure Following (s : System ℓ) : Prop where
  outset : Outset s
  timely : Timely s
  inLine : InLine s

theorem Following.feed (h : Following s) (hshaped : Shaped s) {input : Input ℓ}
    (hinput : s.tellsInTime input = true) : Following (s.feed input) := by
  cases hchange : s.change? input with
  | some c =>
    obtain ⟨rfl, hturn⟩ := eq_change_of_change? hchange
    have hrest : ∀ told, c.told.interactive? = some told →
        s.stack = [] ∧ (s.view.view? = none ∨ s.isAttached = true) := by
      intro told htold
      simpa [System.tellsInTime, hturn, htold, System.isAtRest] using hinput
    have houtset := h.outset.feed hshaped (.act (.change c))
    rw [feed_of_change? hchange] at houtset ⊢
    by_cases hcounts : s.status.counts c = true
    · rw [if_pos hcounts] at houtset ⊢
      exact ⟨houtset, h.timely.announce fun told htold => (hrest told htold).1,
        h.inLine.announce hrest⟩
    · rwa [if_neg hcounts]
  | none =>
    have hbegun : ∀ o, s.begun? input = some o →
        o.agreesWith s.status.isInteractive = true := by
      intro o hbegun
      unfold System.begun? at hbegun
      split at hbegun
      · next o' =>
        have ho : o' = o := by simp_all
        rw [← ho]
        exact hinput
      · simp at hbegun
    exact ⟨h.outset.feed hshaped input,
      h.timely.step hshaped (hshaped.step_feed input) (status_of_change?_eq_none hchange)
        fun hturn => journal_feed_of_isTurn hturn hchange,
      h.inLine.feed_other h.outset hshaped h.timely hchange hbegun⟩

theorem following_start (locale : String) : Following (System.start (ℓ := ℓ) locale) where
  outset := outset_start locale
  timely := ⟨trivial, by simp [System.start]⟩
  inLine := by
    right
    intro v hv
    simp [System.start] at hv

theorem following_run (locale : String) {inputs : List (Input ℓ)}
    (hinputs : (System.start locale).throughout System.tellsInTime inputs = true) :
    Following ((System.start (ℓ := ℓ) locale).run inputs) :=
  (shaped_start locale).throughout_induction (fun _ hshaped h _ hinput => h.feed hshaped hinput)
    (following_start locale) hinputs

/-- The owner information scrolls while the device is in use. Let the device wake up and go to sleep
only while nothing is going on and, if there is a view, only while it is attached, and let nobody
else tell the view so against the truth. Then, whatever else is done and whenever the timer fires,
between operations the device is in use exactly if the marquee timer is pending or the owner
information scrolls; and the view is right about the timer. So nothing is pending and nothing
scrolls in a sleeping device. -/
theorem scrolls_while_interactive (locale : String) {inputs : List (Input ℓ)}
    (hinputs : (System.start locale).throughout System.tellsInTime inputs = true) :
    let s := (System.start locale).run inputs
    let isPending := Alarm.isPending ((System.start (ℓ := ℓ) locale).chronicle inputs)
    s.isAtRest = true → ∀ v, s.view = .present v →
      (s.status.isInteractive = true ↔
        v.isMarqueePending = true ∨ s.screen.ownerInfoMarquee = some true) ∧
      v.isMarqueePending = isPending ∧
      (s.status.isInteractive = false →
        isPending = false ∧ s.screen.ownerInfoMarquee ≠ some true) := by
  intro s isPending hrest v hview
  have hstack : s.stack = [] := List.isEmpty_iff.1 hrest
  have hwork : s.work = .idle (.present v) := by rw [work_of_stack hstack rfl, hview]
  have hfollowing : Following s := following_run locale hinputs
  have hscrolls : v.ScrollsWhile s.status.isInteractive s.screen := by
    rcases hfollowing.inLine with howes | hmeets
    · -- nothing is on its way at rest, and nothing of this has been put off
      have hnone : s.owes (·.interactive? == some s.status.isInteractive) = false := by
        rw [System.owes, hstack, List.any_nil, Bool.false_or, List.any_eq_false]
        intro d hd
        simp [hfollowing.timely.deferred d hd]
      simp [hnone] at howes
    · rw [hwork] at hmeets
      exact hmeets v rfl
  have hpending : v.isMarqueePending = isPending := by
    have hmeets := (inStep_run locale inputs).meets
    rw [show ((System.start locale).run inputs).work = _ from hwork] at hmeets
    exact hmeets v rfl
  have hiff : s.status.isInteractive = true ↔
      v.isMarqueePending = true ∨ s.screen.ownerInfoMarquee = some true := by
    rw [← hscrolls, Bool.or_eq_true, beq_iff_eq]
  refine ⟨hiff, hpending, fun hasleep => ?_⟩
  have hnone : ¬ (v.isMarqueePending = true ∨ s.screen.ownerInfoMarquee = some true) := by
    rw [← hiff, hasleep]
    exact Bool.false_ne_true
  obtain ⟨hidle, hstill⟩ := not_or.1 hnone
  exact ⟨hpending ▸ Bool.eq_false_iff.2 hidle, hstill⟩

/-! ## A device that wakes up and goes to sleep -/

/-- The device wakes up, and the marquee timer fires. -/
def wakeAndFire : List (Input Empty) :=
  .act .create :: uneventful 70 ++ [.act (.attach "a"), .act (.change .wake)] ++ uneventful 10 ++
    [.act (.perform .marqueeTimerFired)] ++ uneventful 10

/-- The device wakes up again, and goes to sleep. -/
def wakeAndSleep : List (Input Empty) :=
  wakeAndFire ++ [.act (.change .wake)] ++ uneventful 10 ++
    [.act (.change (.sleep 0))] ++ uneventful 12

/-- After the timer has fired, the information scrolls; in the sleep it does not, and the timer that
was started by the second wake is not pending. -/
theorem scrolls_while_interactive_awake_and_asleep :
    let awake := (System.start "en").run wakeAndFire
    let asleep := (System.start "en").run wakeAndSleep
    awake.screen.ownerInfoMarquee = some true ∧
      Alarm.isPending ((System.start "en").chronicle wakeAndSleep) = false ∧
        asleep.screen.ownerInfoMarquee ≠ some true := by
  intro awake asleep
  obtain ⟨v, hv⟩ : ∃ v, awake.view = .present v := ViewSlot.exists_present (by decide +kernel)
  obtain ⟨w, hw⟩ : ∃ w, asleep.view = .present w := ViewSlot.exists_present (by decide +kernel)
  obtain ⟨hawake, hfired, -⟩ :=
    scrolls_while_interactive "en" (by decide +kernel) (by decide +kernel) v hv
  obtain ⟨-, -, hasleep⟩ :=
    scrolls_while_interactive "en" (by decide +kernel) (by decide +kernel) w hw
  refine ⟨?_, hasleep (by decide +kernel)⟩
  have hidle : Alarm.isPending ((System.start "en").chronicle wakeAndFire) = false := by
    decide +kernel
  rcases hawake.1 (by decide +kernel) with hpending | hscrolls
  · rw [hfired, hidle] at hpending
    cases hpending
  · exact hscrolls

end DeviceStatus.Device
