import DeviceStatus.Proofs.Device.Delivery
import DeviceStatus.Proofs.Device.Steps

/-!
# What is left when the view is free again

An event that finds the view free lets in the events put off before it is handled, and nothing lets
in those that are put off while it is handled: they are left when the view is free again, until some
later event arrives. A logout lets them in at its end and leaves none.
-/

namespace DeviceStatus.Device

open Lockscreen

variable {ℓ : Type} {s s' : System ℓ} {d : Delivery} {inputs : List (Input ℓ)}

/-- The view is at work until it has been fed these inputs, and is free then. -/
def System.BusyUntil (s : System ℓ) : List (Input ℓ) → Prop
  | [] => s.isBusy = false
  | input :: inputs => s.isBusy = true ∧ (s.feed input).BusyUntil inputs

instance System.decidableBusyUntil :
    (s : System ℓ) → (inputs : List (Input ℓ)) → Decidable (s.BusyUntil inputs)
  | s, [] => inferInstanceAs (Decidable (s.isBusy = false))
  | s, input :: inputs =>
    have := System.decidableBusyUntil (s.feed input) inputs
    inferInstanceAs (Decidable (s.isBusy = true ∧ (s.feed input).BusyUntil inputs))

namespace Mailbox

variable {m m' : Mailbox}

/-- What has happened is not forgotten. -/
theorem Step.history (h : Step m m') : ∃ new, m'.history = m.history ++ new := by
  cases h with
  | receive | putOff | handleNext | handleWaiting => exact ⟨[_], rfl⟩
  | stay | begin | take | replayed | finish => exact ⟨[], (List.append_nil _).symm⟩

/-- Where the events put off are not let in, an event may only be put off. -/
theorem Step.putOff_only (h : Step m m') (hbusy : m.isBusy = true) (hwaiting : m.waiting = [])
    (hreplays : m.replays = 0) (hbatch : m.batch = []) (hbatch' : m'.replays = 0 → m'.batch = []) :
    ∃ new, m'.history = m.history ++ new.map .arrived ∧ m'.deferred = m.deferred ++ new ∧
      m'.waiting = [] ∧ m'.replays = 0 := by
  cases h with
  | stay | finish => exact ⟨[], by simp, by simp, hwaiting, hreplays⟩
  | begin n hfree | receive event hfree => simp [hbusy] at hfree
  | putOff event => exact ⟨[_], rfl, rfl, hwaiting, hreplays⟩
  | take =>
    have hdeferred : m.deferred = [] := hbatch' hreplays
    exact ⟨[], by simp, by simp [hdeferred], hwaiting, hreplays⟩
  | handleNext h => simp [hbatch] at h
  | handleWaiting h => simp [hwaiting] at h
  | replayed => exact ⟨[], by simp, by simp, hwaiting, by simp [hreplays]⟩

/-- An event waits only if it has just found the view free. -/
theorem Step.received (h : Step m m') (hwaiting : m.waiting = []) (hwaiting' : m'.waiting = [d]) :
    m'.history = m.history ++ [.arrived d] := by
  cases h with
  | receive event =>
    obtain rfl := List.singleton_inj.1 hwaiting'
    rfl
  | handleWaiting => simp at hwaiting'
  | stay | begin | putOff | take | handleNext | replayed | finish =>
    exact absurd (hwaiting.symm.trans hwaiting') (by simp)

/-- No event comes to wait while the view is at work. -/
theorem Step.waiting_eq_nil (h : Step m m') (hbusy : m.isBusy = true) (hwaiting : m.waiting = []) :
    m'.waiting = [] := by
  cases h with
  | handleWaiting => rfl
  | receive event hfree => simp [hbusy] at hfree
  | stay | begin | putOff | take | handleNext | replayed | finish => exact hwaiting

end Mailbox

/-! ## The event that found the view free is handled -/

theorem Idle.replays {stack : List (Frame ℓ)} (h : Idle stack) :
    stack.countP Frame.isReplay = 0 := by
  refine List.countP_eq_zero.2 ?_
  intro f hf
  simp [isReplay_of_needsView (needsView_of_isTelling (h f hf))]

/-- An event that finds the view at work does not change what goes on. -/
theorem stack_deliver (hbusy : s.isBusy = true) (event : Event) :
    (s.deliver event).stack = s.stack ∧ (s.deliver event).isBusy = true := by
  cases hview : s.view with
  | empty | gone => simp [System.deliver, hview, hbusy]
  | present v =>
    rw [deliver_of_isBusy hview hbusy]
    exact ⟨rfl, hbusy⟩

theorem Resting.taken {stack : List (Frame ℓ)} (h : Resting stack)
    (hreplays : stack.countP Frame.isReplay = 0) : stack.flatMap Frame.taken = [] := by
  cases h with
  | free h => simpa [Frame.taken] using h.taken
  | replay h => simp [Frame.isReplay] at hreplays
  | batch hrest h => simp [Frame.isReplay] at hreplays

theorem Interrupted.taken {stack : List (Frame ℓ)} (h : Interrupted stack)
    (hreplays : stack.countP Frame.isReplay = 0) : stack.flatMap Frame.taken = [] := by
  induction h with
  | asked h => exact h.taken (by simpa [Frame.isReplay] using hreplays)
  | @telling f below hf h ih =>
    have hneeds := needsView_of_isTelling hf
    rw [List.countP_cons, isReplay_of_needsView hneeds] at hreplays
    simpa [taken_of_needsView hneeds] using ih (by simpa using hreplays)

/-- A batch is only handled where the events put off are let in. -/
theorem Shaped.batch_eq_nil (h : Shaped s) (hreplays : s.mailbox.replays = 0) :
    s.mailbox.batch = [] := by
  change s.stack.countP Frame.isReplay = 0 at hreplays
  show s.stack.flatMap Frame.taken = []
  by_cases hbusy : s.isBusy = true
  · have hshape := h.busy hbusy
    generalize s.stack = stack at hshape hreplays
    cases hshape with
    | resting h => exact h.taken hreplays
    | program h => exact h.taken (by simpa [Frame.isReplay] using hreplays)
    | interrupted h => exact h.taken hreplays
    | next hd h =>
      cases h with
      | batch => simp [Frame.isReplay] at hreplays
    | last hd hdeferred hidle => simpa [Frame.taken, hd] using hidle.taken
  · exact (h.idle (by simpa using hbusy)).taken

/-- While the event that found the view free is handled, and nothing else is left to be handled, the
events that arrive are put off and stay so. -/
theorem Shaped.left (h : Shaped s) (hwaiting : s.mailbox.waiting = [])
    (hreplays : s.mailbox.replays = 0) (hbusy : s.BusyUntil inputs) :
    ∃ during, (s.run inputs).mailbox.history = s.mailbox.history ++ during.map .arrived ∧
      (s.run inputs).deferred = s.deferred ++ during := by
  induction inputs generalizing s with
  | nil => exact ⟨[], by simp [System.run], by simp [System.run]⟩
  | cons input inputs ih =>
    obtain ⟨hbusy, hlater⟩ := hbusy
    obtain ⟨hshaped, hstep⟩ := h.feed input
    obtain ⟨new, hhistory, hdeferred, hwaiting', hreplays'⟩ :=
      hstep.putOff_only hbusy hwaiting hreplays (h.batch_eq_nil hreplays) hshaped.batch_eq_nil
    obtain ⟨during, hhistory', hdeferred'⟩ := ih hshaped hwaiting' hreplays' hlater
    change (s.feed input).deferred = s.deferred ++ new at hdeferred
    refine ⟨new ++ during, ?_, ?_⟩
    · show ((s.feed input).run inputs).mailbox.history = _
      rw [hhistory', hhistory, List.map_append, List.append_assoc]
    · show ((s.feed input).run inputs).deferred = _
      rw [hdeferred', hdeferred, List.append_assoc]

/-- While an event waits, it is handled when the events put off have been let in, or goes on to
wait. -/
theorem Shaped.step_waiting (h : Shaped s) {begun : Option Operation} (hstep : Step s begun s')
    (hbusy : s.isBusy = true) (hwaiting : s.mailbox.waiting = [d]) :
    s'.isBusy = true ∧ (s'.mailbox.waiting = [d] ∨
      s'.mailbox.waiting = [] ∧ s'.mailbox.replays = 0 ∧ s'.deferred = [] ∧
        s'.mailbox.history = s.mailbox.history ++ [.handled d]) := by
  change s.stack.flatMap Frame.waiting = [d] at hwaiting
  cases hstep with
  | stay | letGo => exact ⟨hbusy, .inl hwaiting⟩
  | change c => exact ⟨hbusy, .inl hwaiting⟩
  | register a ha =>
    have hsame := sameWork_register (s := s) ha
    refine ⟨hsame.isBusy.trans hbusy, .inl ?_⟩
    show (s.act a).stack.flatMap Frame.waiting = [d]
    rw [hsame.stack]
    exact hwaiting
  | create _ hview hfree | perform o hview hfree | dropView hview hfree => simp [hbusy] at hfree
  | told hstack hf =>
    have hnone := waiting_of_needsView (needsView_of_isTelling hf)
    refine ⟨hbusy, .inl ?_⟩
    simpa [System.mailbox, hstack, hnone] using hwaiting
  | @reach event id rest below hstack =>
    have hbelow : below.flatMap Frame.waiting = [d] := by
      simpa [hstack, Frame.waiting] using hwaiting
    obtain ⟨hstack', hbusy'⟩ := stack_deliver
      (s := { s with stack := .notify event rest :: below }) hbusy event
    refine ⟨hbusy', .inl ?_⟩
    show (System.deliver _ event).stack.flatMap Frame.waiting = [d]
    rw [hstack']
    exact hbelow
  | @handle d' v below hstack hview =>
    refine ⟨hbusy, ?_⟩
    cases h.busy_cons hstack rfl with
    | resting h => cases h
    | interrupted h =>
      cases h with
      | telling hf => simp [Frame.isTelling] at hf
    | next hd hresting =>
      left
      simpa [System.mailbox, hstack, Frame.waiting, hd] using hwaiting
    | last hd hdeferred hidle =>
      right
      obtain rfl : d' = d := by simpa [hstack, Frame.waiting, hd, hidle.waiting] using hwaiting
      refine ⟨?_, ?_, hdeferred, ?_⟩
      · simpa [System.mailbox, Frame.waiting] using hidle.waiting
      · simpa [System.mailbox, Frame.isReplay] using hidle.replays
      · simp [System.mailbox, Occurrence.note?]
  | free hstack | leave hstack =>
    cases h.busy_cons hstack rfl with
    | resting h =>
      cases h with
      | free hidle => simp [hstack, Frame.waiting, hidle.waiting] at hwaiting
    | interrupted h =>
      cases h with
      | telling hf => simp [Frame.isTelling] at hf
  | @next d' rest below hstack =>
    have hd : d'.isDeferred = true := by
      cases (h.busy_cons hstack rfl).resting_of_isRest rfl with
      | batch hrest => exact hrest d' List.mem_cons_self
    exact ⟨hbusy, .inl (by simpa [System.mailbox, hstack, Frame.waiting, hd] using hwaiting)⟩
  | hear hstack | replayed hstack | take hstack | batched hstack | done hstack | fact hstack
  | log hstack | ask hr hstack | answer answer hstack =>
    exact ⟨hbusy, .inl (by simpa [System.mailbox, hstack, Frame.waiting] using hwaiting)⟩

/-- The event that found the view free is handled in the end; what is left then are the events that
arrived after that. -/
theorem Shaped.left_waiting (h : Shaped s) (hwaiting : s.mailbox.waiting = [d])
    (hbusy : s.BusyUntil inputs) :
    ∃ before during, (s.run inputs).mailbox.history =
        s.mailbox.history ++ before ++ .handled d :: during.map .arrived ∧
      (s.run inputs).deferred = during := by
  induction inputs generalizing s with
  | nil =>
    have hnone : s.mailbox.waiting = [] := (h.idle hbusy).waiting
    simp [hnone] at hwaiting
  | cons input inputs ih =>
    obtain ⟨hbusy, hlater⟩ := hbusy
    obtain ⟨hshaped, hstep⟩ := h.feed input
    obtain ⟨-, hwaiting' | ⟨hwaiting', hreplays, hdeferred, hhandled⟩⟩ :=
      h.step_waiting (h.step_feed input) hbusy hwaiting
    · obtain ⟨new, hnew⟩ := hstep.history
      obtain ⟨before, during, hhistory, hduring⟩ := ih hshaped hwaiting' hlater
      refine ⟨new ++ before, during, ?_, hduring⟩
      show ((s.feed input).run inputs).mailbox.history = _
      rw [hhistory, hnew]
      simp only [List.append_assoc]
    · obtain ⟨during, hhistory, hduring⟩ := hshaped.left hwaiting' hreplays hlater
      refine ⟨[], during, ?_, ?_⟩
      · show ((s.feed input).run inputs).mailbox.history = _
        rw [hhistory, hhandled]
        simp
      · show ((s.feed input).run inputs).deferred = _
        rw [hduring, hdeferred, List.nil_append]

/-! ## After a logout -/

/-- The events put off are let in before the view is free again, or there are none. -/
def LetsIn (s : System ℓ) : Prop :=
  s.mailbox.waiting = [] ∧
    (0 < s.mailbox.replays ∨ ∃ outer, s.stack = .free :: outer ∧ s.deferred = [])

theorem Shaped.step_replays (h : Shaped s) {o : Operation} (hstep : Step s (some o) s')
    (hreplays : o.replays = true) : s'.isBusy = true ∧ LetsIn s' := by
  cases hstep with
  | perform o hview hfree =>
    have hidle := h.idle hfree
    refine ⟨rfl, ?_, .inl ?_⟩
    · simpa [System.mailbox, System.begin, System.push, hreplays, Frame.waiting] using hidle.waiting
    · simp [System.mailbox, System.begin, System.push, hreplays, Frame.isReplay]

/-- They are let in as long as this has not ended, and when it has there are none. -/
theorem Shaped.step_replaying (h : Shaped s) {begun : Option Operation} (hstep : Step s begun s')
    (hbusy : s.isBusy = true) (hwaiting' : s'.mailbox.waiting = [])
    (hreplays : 0 < s.mailbox.replays) : s'.isBusy = true ∧ LetsIn s' := by
  change 0 < s.stack.countP Frame.isReplay at hreplays
  cases hstep with
  | stay | letGo => exact ⟨hbusy, hwaiting', .inl hreplays⟩
  | change c => exact ⟨hbusy, hwaiting', .inl hreplays⟩
  | register a ha =>
    have hsame := sameWork_register (s := s) ha
    refine ⟨hsame.isBusy.trans hbusy, hwaiting', .inl ?_⟩
    show 0 < (s.act a).stack.countP Frame.isReplay
    rw [hsame.stack]
    exact hreplays
  | create _ hview hfree | perform o hview hfree | dropView hview hfree => simp [hbusy] at hfree
  | told hstack hf =>
    have hnone := isReplay_of_needsView (needsView_of_isTelling hf)
    refine ⟨hbusy, hwaiting', .inl ?_⟩
    simpa [System.mailbox, hstack, hnone] using hreplays
  | @reach event id rest below hstack =>
    have hbelow : 0 < below.countP Frame.isReplay := by
      simpa [hstack, Frame.isReplay] using hreplays
    obtain ⟨hstack', hbusy'⟩ := stack_deliver
      (s := { s with stack := .notify event rest :: below }) hbusy event
    refine ⟨hbusy', hwaiting', .inl ?_⟩
    show 0 < (System.deliver _ event).stack.countP Frame.isReplay
    rw [hstack']
    exact hbelow
  | replayed hstack hdeferred =>
    refine ⟨hbusy, hwaiting', .inr ?_⟩
    cases (h.busy_cons hstack rfl).resting_of_isRest rfl with
    | replay hclosing =>
      cases hclosing with
      | @free outer hidle => exact ⟨outer, rfl, hdeferred⟩
      | waiting hd hidle => simp [System.mailbox, Frame.waiting, hd] at hwaiting'
  | free hstack | leave hstack =>
    cases (h.busy_cons hstack rfl).resting_of_isRest rfl with
    | free hidle => simp [hstack, Frame.isReplay, hidle.replays] at hreplays
  | take hstack =>
    exact ⟨hbusy, hwaiting', .inl (by simp [System.mailbox, hstack, Frame.isReplay])⟩
  | hear hstack | batched hstack | next hstack | handle hstack | done hstack | fact hstack
  | log hstack | ask hr hstack | answer answer hstack =>
    refine ⟨hbusy, hwaiting', .inl ?_⟩
    simpa [System.mailbox, hstack, Frame.isReplay] using hreplays

/-- The view has ended its work, and only becomes free. -/
theorem step_freeing {begun : Option Operation} (hstep : Step s begun s') (hbusy : s.isBusy = true)
    {outer : List (Frame ℓ)} (hstack : s.stack = .free :: outer) :
    s'.deferred = s.deferred ∧ (s'.isBusy = true → s'.stack = .free :: outer) := by
  cases hstep with
  | stay | letGo => exact ⟨rfl, fun _ => hstack⟩
  | free | leave => exact ⟨rfl, by simp⟩
  | register a ha =>
    have hsame := sameWork_register (s := s) ha
    exact ⟨hsame.deferred, fun _ => hsame.stack.trans hstack⟩
  | change c hevent hturn => simp [System.isTurn, hstack, Frame.isTurn] at hturn
  | create _ hview hfree | perform o hview hfree | dropView hview hfree => simp [hbusy] at hfree
  | told hstack' hf =>
    rw [hstack] at hstack'
    obtain ⟨rfl, -⟩ := List.cons.inj hstack'
    simp [Frame.isTelling] at hf
  | hear hstack' | reach hstack' | replayed hstack' | take hstack' | batched hstack'
  | next hstack' | handle hstack' | done hstack' | fact hstack' | log hstack' | ask hr hstack'
  | answer answer hstack' => simp [hstack] at hstack'

theorem Shaped.none_left (h : Shaped s) (hin : LetsIn s) (hbusy : s.isBusy = true)
    (hlater : s.BusyUntil inputs) : (s.run inputs).deferred = [] := by
  induction inputs generalizing s with
  | nil => exact absurd (hbusy.symm.trans hlater) (by simp)
  | cons input inputs ih =>
    obtain ⟨-, hlater⟩ := hlater
    obtain ⟨hshaped, hmailbox⟩ := h.feed input
    have hstep := h.step_feed input
    obtain ⟨hwaiting, hreplays | ⟨outer, hstack, hdeferred⟩⟩ := hin
    · obtain ⟨hbusy', hin'⟩ := h.step_replaying hstep hbusy
        (hmailbox.waiting_eq_nil hbusy hwaiting) hreplays
      exact ih hshaped hin' hbusy' hlater
    · obtain ⟨hdeferred', hstack'⟩ := step_freeing hstep hbusy hstack
      by_cases hbusy' : (s.feed input).isBusy = true
      · exact ih hshaped ⟨hmailbox.waiting_eq_nil hbusy hwaiting, .inr
          ⟨outer, hstack' hbusy', hdeferred'.trans hdeferred⟩⟩ hbusy' hlater
      · cases inputs with
        | nil => exact hdeferred'.trans hdeferred
        | cons input' inputs => exact absurd hlater.1 hbusy'

/-! ## What is left -/

/-- What is left when the view is free again. After an event that found the view free, the events
left are exactly those that arrived since it began to be handled; those put off before, and those
that arrived while these were handled, have been handled. After a logout, and after the events put
off have been let in by the owner of the view, none are left. -/
theorem deferred_when_free (locale : String) (earlier : List (Input ℓ)) (input : Input ℓ)
    (inputs : List (Input ℓ)) :
    let s := (System.start locale).run earlier
    let s' := (s.feed input).run inputs
    s.isBusy = false → (s.feed input).BusyUntil inputs →
      (∀ d, (s.feed input).mailbox.waiting = [d] →
        ∃ before during, s'.mailbox.history =
            s.mailbox.history ++ .arrived d :: before ++ .handled d :: during.map .arrived ∧
          s'.deferred = during) ∧
      ∀ o, s.begun? input = some o → o.replays = true → s'.deferred = [] := by
  intro s s' hfree hbusy
  obtain ⟨hshaped, hsound⟩ := shaped_run locale earlier
  obtain ⟨hshaped', hstep⟩ := hshaped.feed input
  refine ⟨?_, ?_⟩
  · intro d hwaiting
    obtain ⟨before, during, hhistory, hduring⟩ := hshaped'.left_waiting hwaiting hbusy
    have harrived := hstep.received (hsound.free hfree) hwaiting
    refine ⟨before, during, ?_, hduring⟩
    rw [hhistory, harrived]
    simp only [List.append_assoc, List.cons_append]
    rfl
  · intro o hbegun hreplays
    have hbegin : Step s (some o) (s.feed input) := hbegun ▸ hshaped.step_feed input
    obtain ⟨hbusy', hin⟩ := hshaped.step_replays hbegin hreplays
    exact hshaped'.none_left hin hbusy' hbusy

/-! ## An event that is left -/

/-- The time changes while the view is free. -/
def beforeTime : List (Input Empty) :=
  .act .create :: uneventful 70 ++ [.act (.attach "a"), .act (.change .time)]

/-- The time zone changes while the view handles this, up to the moment when it is free again. -/
def duringTime : List (Input Empty) :=
  [.tick, .tick, .tick, .act (.change (.timeZone "Late"))] ++ uneventful 5 ++ [.tick]

/-- The change of the time zone. -/
def lateZone : Delivery := ⟨1, .timeZone "Late", true⟩

/-- The change of the time has been told. -/
def afterTime : List (Input Empty) := beforeTime ++ .tick :: duringTime ++ [.tick]

/-- A logout, up to the moment when the view is free again. -/
def duringLogout : List (Input Empty) := uneventful 11 ++ [.tick]

/-- The change of the time zone is left, since it arrived while the change of the time was handled.
A logout after that handles it. -/
theorem deferred_when_free_late :
    let s := (System.start "en").run beforeTime
    let s' := (s.feed .tick).run duringTime
    let later := (System.start "en").run afterTime
    (∃ before, s'.mailbox.history =
        s.mailbox.history ++ .arrived ⟨0, .time, false⟩ :: before ++
          [.handled ⟨0, .time, false⟩, .arrived lateZone] ∧
      s'.deferred = [lateZone]) ∧
    later.deferred = [lateZone] ∧
      ((later.feed (.act (.perform .logOut))).run duringLogout).deferred = [] := by
  intro s s' later
  have hdeferred : ((((System.start "en").run beforeTime).feed .tick).run duringTime).deferred =
      [lateZone] := by
    decide +kernel
  have hlater : ((System.start "en").run afterTime).deferred = [lateZone] := by decide +kernel
  obtain ⟨hleft, -⟩ := deferred_when_free "en" beforeTime .tick duringTime (by decide +kernel)
    (by decide +kernel)
  obtain ⟨before, during, hhistory, hduring⟩ := hleft ⟨0, .time, false⟩ (by decide +kernel)
  obtain rfl : during = [lateZone] := hduring.symm.trans hdeferred
  obtain ⟨-, hnone⟩ := deferred_when_free "en" afterTime (.act (.perform .logOut)) duringLogout
    (by decide +kernel) (by decide +kernel)
  refine ⟨⟨before, hhistory, hdeferred⟩, hlater, hnone .logOut ?_ rfl⟩
  have hturn : ((System.start "en").run afterTime).isTurn = true := by decide +kernel
  have hview : ((System.start "en").run afterTime).freeView?.isSome = true := by decide +kernel
  obtain ⟨v, hview⟩ := Option.isSome_iff_exists.1 hview
  simp [System.begun?, hturn, hview]

/-- So events may be left when an event that found the view free has been handled. -/
theorem not_none_left_when_free :
    ¬ ∀ (locale : String) (earlier : List (Input Empty)) (input : Input Empty)
        (inputs : List (Input Empty)) (d : Delivery),
      ((System.start locale).run earlier).isBusy = false →
      (((System.start locale).run earlier).feed input).mailbox.waiting = [d] →
      (((System.start locale).run earlier).feed input).BusyUntil inputs →
        ((((System.start locale).run earlier).feed input).run inputs).deferred = [] := by
  intro h
  have hnone := h "en" beforeTime .tick duringTime ⟨0, .time, false⟩ (by decide +kernel)
    (by decide +kernel) (by decide +kernel)
  exact absurd hnone (by decide +kernel)

end DeviceStatus.Device
