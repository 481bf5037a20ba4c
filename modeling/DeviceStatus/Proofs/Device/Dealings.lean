import DeviceStatus.Proofs.Device.Draining
import DeviceStatus.Proofs.Device.MarqueeTimer
import DeviceStatus.Proofs.Lockscreen.Footprints

/-!
# The dealings of the view with the user manager

What counts in a logout: the orders to the user manager and its answers, the failures that are
logged, and the events that the view handles in between. `System.dealings` lists them along a run,
in their order, and nothing else.

`Program.Deals` is the judgement that a program comes to the right end with everything that has gone
before, whatever it is answered. Unlike a watch, it sees the answers. While the view is at work, its
work goes on to the right end (`Shaped.deals_run`), if any event may be handled at that end.
-/

namespace DeviceStatus.Device

open Lockscreen

variable {ℓ : Type} {s s' : System ℓ}

/-- What counts in a logout. -/
inductive Dealing where
  /-- The user manager is given an order. -/
  | ordered (o : UserOrder)
  /-- The user manager answers. -/
  | answered (outcome : Except String Unit)
  /-- Something has not been done, and is logged. -/
  | failed (n : Notice)
  /-- The view begins to handle an event. -/
  | handled (d : Delivery)
deriving DecidableEq

/-- The event that is handled. -/
def Dealing.handled? : Dealing → Option Delivery
  | handled d => some d
  | ordered _ | answered _ | failed _ => none

end DeviceStatus.Device

namespace DeviceStatus.Lockscreen.Request

open Device

/-- What counts of a request. -/
def dealing? : Request → Option Dealing
  | user o => some (.ordered o)
  | log n =>
    match n.severity with
    | .error => some (.failed n)
    | .warning => none
  | fact _ | query _ | command _ => none

/-- What counts of an answer. -/
def answered? : (r : Request) → r.Answer → Option Dealing
  | user _, outcome => some (.answered outcome)
  | fact _, _ | query _, _ | command _, _ | log _, _ => none

theorem quiet_of_area {r : Request} (hr : r.area ≠ some .users) :
    r.dealing? = none ∧ ∀ answer, r.answered? answer = none := by
  cases r with
  | user o => exact absurd rfl hr
  | log n =>
    refine ⟨?_, fun _ => rfl⟩
    cases n with
    | logoutFailed failure => exact absurd rfl hr
    | unknownClock | unknownDate | unknownAlignment | unknownFont | idleMarqueeTimer => rfl
  | fact | query | command => exact ⟨rfl, fun _ => rfl⟩

end DeviceStatus.Lockscreen.Request

namespace DeviceStatus.Device

open Lockscreen

variable {ℓ : Type} {s s' : System ℓ}

/-! ## Along a run -/

/-- What counts of an occurrence. -/
def Occurrence.dealing? : Occurrence ℓ → Option Dealing
  | requested r => r.dealing?
  | handled d => some (.handled d)
  | announced _ | heard .. | arrived _ => none

namespace System

/-- What counts of the answer that an input gives. -/
def answered? (s : System ℓ) : Input ℓ → Option Dealing
  | .reply answers =>
    match s.stack with
    | .asked r _ :: _ => r.answered? (answers r)
    | _ => none
  | .tick | .act _ | .done => none

/-- The dealings at an input. -/
def dealing (s : System ℓ) (input : Input ℓ) : List Dealing :=
  (s.answered? input).toList ++ (s.occurring input).filterMap Occurrence.dealing?

/-- The dealings along a run. -/
def dealings (s : System ℓ) : List (Input ℓ) → List Dealing
  | [] => []
  | input :: inputs => s.dealing input ++ (s.feed input).dealings inputs

/-- The view is at work until it has been fed these inputs, if not longer. -/
def BusyThrough (s : System ℓ) : List (Input ℓ) → Prop
  | [] => True
  | input :: inputs => s.isBusy = true ∧ (s.feed input).BusyThrough inputs

instance decidableBusyThrough :
    (s : System ℓ) → (inputs : List (Input ℓ)) → Decidable (s.BusyThrough inputs)
  | _, [] => inferInstanceAs (Decidable True)
  | s, input :: inputs =>
    have := decidableBusyThrough (s.feed input) inputs
    inferInstanceAs (Decidable (s.isBusy = true ∧ (s.feed input).BusyThrough inputs))

end System

theorem dealing_eq {input : Input ℓ} {new : List (Occurrence ℓ)}
    (hjournal : (s.feed input).journal = new ++ s.journal) :
    s.dealing input =
      (s.answered? input).toList ++ new.reverse.filterMap Occurrence.dealing? := by
  rw [System.dealing, occurring_eq hjournal]

theorem dealing_eq_nil {new : List (Occurrence ℓ)} (hnew : ∀ o ∈ new, o.isOfView = false) :
    new.reverse.filterMap Occurrence.dealing? = [] := by
  refine List.filterMap_eq_nil_iff.2 ?_
  intro o ho
  have hview := hnew o (List.mem_reverse.1 ho)
  cases o <;> simp_all [Occurrence.isOfView, Occurrence.dealing?]

/-! ## Who answers the view -/

theorem answered?_eq_none (hasked : ∀ r next below, s.stack ≠ .asked r next :: below)
    (input : Input ℓ) : s.answered? input = none := by
  cases input with
  | reply answers =>
    cases hstack : s.stack with
    | nil => simp [System.answered?, hstack]
    | cons f below =>
      cases f with
      | asked r next => exact absurd hstack (hasked r next below)
      | notify | listening | replay | batch | handle | program | free =>
        simp [System.answered?, hstack]
  | tick | done | act => rfl

/-- While the view waits and something else is told meanwhile, it goes on waiting. -/
theorem Shaped.step_waiting_work (h : Shaped s) {begun : Option Operation} (hstep : Step s begun s')
    {r : Request} {next : r.Answer → Program View} (hwork : s.work = .waiting r next)
    (hasked : ∀ r next below, s.stack ≠ .asked r next :: below) : s'.work = s.work := by
  cases hstep with
  | stay | change | letGo | take => rfl
  | register a ha =>
    have hsame := sameWork_register (s := s) ha
    rw [System.work, System.work, hsame.stack, hsame.view]
  | create _ hview hfree | perform o hview hfree | dropView hview hfree =>
    simp [h.work_of_free hfree] at hwork
  | @told f below hstack hf =>
    have hnone : f.work? = none := by cases f <;> simp_all [Frame.isTelling, Frame.work?]
    exact (work_cons hstack hnone).symm
  | hear hstack | replayed hstack | batched hstack | next hstack | free hstack =>
    exact (work_cons hstack rfl).symm
  | reach hstack =>
    rw [work_deliver, work_cons hstack rfl]
    rfl
  | handle hstack => simp [work_of_stack hstack (h.work?_of_handle hstack)] at hwork
  | leave hstack => simp [(h.work_of_leave hstack).1] at hwork
  | done hstack | fact hstack | log hstack | ask hr hstack =>
    simp [work_of_frame hstack rfl] at hwork
  | answer answer hstack => exact absurd hstack (hasked _ _ _)

theorem Shaped.work_act_asked (h : Shaped s) {r : Request} {next : r.Answer → Program View}
    {below : List (Frame ℓ)} (hstack : s.stack = .asked r next :: below) (a : Action ℓ) :
    (s.act a).work = s.work := by
  have hbusy : s.isBusy = true := h.isBusy hstack rfl
  have hview : s.freeView? = none := by simp [System.freeView?, hbusy]
  by_cases ha : a.isRegistration = true
  · have hsame := sameWork_register (s := s) ha
    rw [System.work, System.work, hsame.stack, hsame.view]
  · cases a with
    | change c =>
      simp only [System.act]
      split <;> rfl
    | create => simp [System.act, hbusy]
    | perform o => simp [System.act, hview]
    | dropView =>
      cases hview : s.view with
      | empty | gone => simp [System.act, hview]
      | present v =>
        have hact : s.act .dropView = { s with isLetGo := true } := by
          simp [System.act, hview, hbusy]
        rw [hact]
        rfl
    | listen | unlisten | attach | detach => exact absurd rfl ha

/-- A view that waits goes on when it is answered, and only then. -/
theorem Shaped.feed_waiting (h : Shaped s) {r : Request} {next : r.Answer → Program View}
    (hwork : s.work = .waiting r next) (input : Input ℓ) :
    (∃ answer, (s.feed input).work = .running (next answer) ∧
      s.dealing input = (r.answered? answer).toList) ∨
    (s.feed input).work = .waiting r next ∧ s.dealing input = [] := by
  -- as long as nobody answers, what goes on meanwhile is not of the view
  have hstays : s.answered? input = none → (s.feed input).work = s.work →
      (s.feed input).work = .waiting r next ∧ s.dealing input = [] := by
    intro hnone hsame
    obtain ⟨new, hjournal, hmove⟩ := h.moved (h.step_feed input)
    rw [hsame, hwork] at hmove ⊢
    refine ⟨rfl, ?_⟩
    rw [dealing_eq hjournal, hnone]
    generalize s.begun? input = begun at hmove
    cases hmove with
    | stay _ hnew => exact dealing_eq_nil hnew
  by_cases hasked : ∃ r' next' below, s.stack = .asked r' next' :: below
  · obtain ⟨r', next', below, hstack⟩ := hasked
    have hsame : Work.waiting r' next' = .waiting r next :=
      (work_of_frame hstack rfl).symm.trans hwork
    cases hsame
    cases input with
    | reply answers =>
      left
      have hfeed : s.feed (.reply answers) =
          { s with stack := .program (next (answers r)) :: below } := by
        simp [System.feed, System.replied, hstack]
      refine ⟨answers r, ?_, ?_⟩
      · rw [hfeed]
        exact work_of_frame rfl rfl
      · have hjournal : (s.feed (.reply answers)).journal = [] ++ s.journal := by
          rw [hfeed]
          rfl
        rw [dealing_eq hjournal, System.answered?, hstack]
        simp
    | tick | done =>
      right
      refine hstays rfl ?_
      simp [System.feed, System.tick, System.returned, hstack]
    | act a =>
      right
      refine hstays rfl ?_
      simp only [System.feed]
      split
      · exact h.work_act_asked hstack a
      · rfl
  · right
    have hhead : ∀ r next below, s.stack ≠ .asked r next :: below :=
      fun r next below hstack => hasked ⟨r, next, below, hstack⟩
    exact hstays (answered?_eq_none hhead input)
      (h.step_waiting_work (h.step_feed input) hwork hhead)

/-! ## To the right end -/

end DeviceStatus.Device

namespace DeviceStatus.Lockscreen.Program

open Device

variable {α : Type} {post : List Dealing → Prop}

/-- Whatever a program is answered, it ends as it should with the dealings that have gone before. -/
def Deals (post : List Dealing → Prop) : Program α → List Dealing → Prop
  | done _, past => post past
  | ask r next, past => ∀ answer,
    (next answer).Deals post (past ++ r.dealing?.toList ++ (r.answered? answer).toList)

theorem Deals.of_within {areas : List Area} (ha : .users ∉ areas) {past : List Dealing}
    (hpost : post past) {p : Program α} {w : α → Unit → Prop}
    (h : p.Ensures (.within areas) w ()) : p.Deals post past := by
  induction p with
  | done value => exact hpost
  | ask r next ih =>
    intro answer
    have harea : r.area ≠ some .users := fun hr => ha (h.1 _ hr)
    obtain ⟨hdealing, hanswered⟩ := r.quiet_of_area harea
    rw [hdealing, hanswered, Option.toList_none, List.append_nil, List.append_nil]
    exact ih answer (h.2 answer trivial)

/-- What has been done is the beginning of something that ends as it should. -/
theorem Deals.exists_end {p : Program α} {past : List Dealing} (h : p.Deals post past) :
    ∃ rest, post (past ++ rest) := by
  induction p generalizing past with
  | done value => exact ⟨[], by rw [List.append_nil]; exact h⟩
  | ask r next ih =>
    obtain ⟨answer⟩ := r.nonempty_answer
    obtain ⟨rest, hrest⟩ := ih answer (h answer)
    exact ⟨_, by simpa using hrest⟩

end DeviceStatus.Lockscreen.Program

namespace DeviceStatus.Device

open Lockscreen

variable {ℓ : Type} {s s' : System ℓ} {post : List Dealing → Prop} {past : List Dealing}

/-- The view will have come to the right end when it has ended its work. -/
def Work.Deals (post : List Dealing → Prop) (past : List Dealing) : Work → Prop
  | idle slot => slot ≠ .empty ∧ post past
  | running p => p.Deals post past
  | waiting r next => ∀ answer, (next answer).Deals post (past ++ (r.answered? answer).toList)

theorem dealing_requested (r : Request) :
    [Occurrence.requested r (ℓ := ℓ)].reverse.filterMap Occurrence.dealing? =
      r.dealing?.toList := by
  cases hdealing : r.dealing? <;> simp [Occurrence.dealing?, hdealing]

theorem begun?_of_isBusy (hbusy : s.isBusy = true) (input : Input ℓ) : s.begun? input = none := by
  cases input with
  | act a => cases a <;> simp [System.begun?, System.freeView?, hbusy]
  | tick | done | reply => rfl

theorem Work.Deals.exists_end {work : Work} (h : work.Deals post past) :
    ∃ rest, post (past ++ rest) := by
  cases work with
  | idle slot => exact ⟨[], by rw [List.append_nil]; exact h.2⟩
  | running p => exact Program.Deals.exists_end h
  | waiting r next =>
    obtain ⟨answer⟩ := r.nonempty_answer
    obtain ⟨rest, hrest⟩ := (h answer).exists_end
    exact ⟨_, by rwa [List.append_assoc] at hrest⟩

theorem handle_deals (hpost : post past) (e : Event) (v : View) :
    ((View.handle e).after v).Deals post past := by
  have hareas : .users ∉ e.areas := by cases e <;> simp [Event.areas, Area.ofUser]
  have htouches := (Handler.ensures_after (View.handle e) v
    (fun v' _ => ∀ a, a ∉ e.areas → v.SameIn v' a) ()).2 (View.touches_handle e v)
  exact .of_within hareas hpost htouches

/-- Where nothing is answered, the view goes on to the right end, if an event may be handled
there. -/
theorem Work.Move.deals {work work' : Work} {new : List (Occurrence ℓ)}
    (hmove : Work.Move s work none new work') (hwaiting : ∀ r next, work ≠ .waiting r next)
    (hdeals : work.Deals post past) (hhandle : ∀ past d, post past → post (past ++ [.handled d])) :
    work'.Deals post (past ++ new.reverse.filterMap Occurrence.dealing?) := by
  cases hmove with
  | stay work hnew =>
    rw [dealing_eq_nil hnew, List.append_nil]
    exact hdeals
  | create => exact absurd rfl hdeals.1
  | handle d v => exact handle_deals (hhandle past d hdeals.2) d.event v
  | drop v =>
    obtain ⟨-, hpost⟩ := hdeals
    exact ⟨by simp, by rwa [List.reverse_nil, List.filterMap_nil, List.append_nil]⟩
  | done v =>
    have hpost : post past := hdeals
    exact ⟨by simp, by rwa [List.reverse_nil, List.filterMap_nil, List.append_nil]⟩
  | fact f next =>
    have hnext : (next (s.answerFact f)).Deals post (past ++ [] ++ []) := hdeals _
    rwa [List.append_nil] at hnext
  | log n next =>
    have hnext : (next ()).Deals post (past ++ (Request.log n).dealing?.toList ++ []) := hdeals ()
    rw [List.append_nil] at hnext
    rw [dealing_requested]
    exact hnext
  | @ask r hr next =>
    intro answer
    rw [dealing_requested]
    exact hdeals answer
  | answer next answer => exact absurd rfl (hwaiting _ _)

/-- While the view is at work, an input brings it on to the right end. -/
theorem Shaped.deals_feed (h : Shaped s) (hbusy : s.isBusy = true) (hdeals : s.work.Deals post past)
    (hhandle : ∀ past d, post past → post (past ++ [.handled d])) (input : Input ℓ) :
    (s.feed input).work.Deals post (past ++ s.dealing input) := by
  -- a move of the work does not say what is answered, so a view that waits is a case of its own
  by_cases hwaits : ∃ r next, s.work = .waiting r next
  · obtain ⟨r, next, hwork⟩ := hwaits
    rw [hwork] at hdeals
    rcases h.feed_waiting hwork input with ⟨answer, hwork', hdealing⟩ | ⟨hwork', hdealing⟩
    · rw [hwork', hdealing]
      exact hdeals answer
    · rw [hwork', hdealing, List.append_nil]
      exact hdeals
  · have hwaiting : ∀ r next, s.work ≠ .waiting r next := fun r next h => hwaits ⟨r, next, h⟩
    have hnone : s.answered? input = none :=
      answered?_eq_none (fun r next _ hstack => hwaiting r next (work_of_frame hstack rfl)) input
    have hstep := h.step_feed input
    rw [begun?_of_isBusy hbusy] at hstep
    obtain ⟨new, hjournal, hmove⟩ := h.moved hstep
    rw [dealing_eq hjournal, hnone, Option.toList_none, List.nil_append]
    exact hmove.deals hwaiting hdeals hhandle

theorem Shaped.deals_run (h : Shaped s) {inputs : List (Input ℓ)} (hbusy : s.BusyThrough inputs)
    (hdeals : s.work.Deals post past)
    (hhandle : ∀ past d, post past → post (past ++ [.handled d])) :
    (s.run inputs).work.Deals post (past ++ s.dealings inputs) := by
  induction inputs generalizing s past with
  | nil =>
    rw [System.dealings, List.append_nil]
    exact hdeals
  | cons input inputs ih =>
    obtain ⟨hbusy, hlater⟩ := hbusy
    have hrun := ih (h.feed input).1 hlater (h.deals_feed hbusy hdeals hhandle input)
    rw [List.append_assoc] at hrun
    exact hrun

/-! ## The events put off -/

theorem filterMap_answered? (s : System ℓ) (input : Input ℓ) :
    (s.answered? input).toList.filterMap Dealing.handled? = [] := by
  by_cases hasked : ∃ r next below, s.stack = .asked r next :: below
  · obtain ⟨r, next, below, hstack⟩ := hasked
    cases input with
    | reply answers =>
      rw [System.answered?, hstack]
      cases r <;> rfl
    | tick | done | act => rfl
  · rw [answered?_eq_none fun r next below hstack => hasked ⟨r, next, below, hstack⟩]
    rfl

/-- The events that the view begins to handle are those among the dealings. -/
theorem Shaped.handled_feed (h : Shaped s) (input : Input ℓ) :
    (s.feed input).mailbox.handled =
      s.mailbox.handled ++ (s.dealing input).filterMap Dealing.handled? := by
  obtain ⟨new, hjournal, -⟩ := h.moved (h.step_feed input)
  have hnote : (fun o : Occurrence ℓ => o.note?.bind Note.handled?) =
      fun o => o.dealing?.bind Dealing.handled? := by
    funext o
    cases o with
    | requested r =>
      cases r with
      | log n => cases n <;> rfl
      | fact | query | command | user => rfl
    | announced | heard | arrived | handled => rfl
  rw [dealing_eq hjournal, List.filterMap_append, filterMap_answered?, List.nil_append,
    List.filterMap_filterMap, ← hnote]
  simp [System.mailbox, Mailbox.handled, hjournal, List.filterMap_append, List.filterMap_filterMap]

/-- While the view is at work and no event waits for it, the events that arrive are queued behind
those put off, and the events handled are taken from the front. -/
theorem Mailbox.Step.flow {m m' : Mailbox} (h : Mailbox.Step m m') (hbusy : m.isBusy = true)
    (hwaiting : m.waiting = []) :
    ∃ arrived handled, m'.arrived = m.arrived ++ arrived ∧ m'.handled = m.handled ++ handled ∧
      m.queue ++ arrived = handled ++ m'.queue := by
  cases h with
  | stay | replayed | finish =>
    exact ⟨[], [], by simp [arrived], by simp [handled], by simp [queue]⟩
  | begin n hfree | receive event hfree => simp [hbusy] at hfree
  | putOff event =>
    refine ⟨[⟨m.nextTicket, event, true⟩], [], ?_, ?_, ?_⟩
    · exact arrived_arrive ..
    · exact (handled_arrive ..).trans (List.append_nil _).symm
    · simp [queue, arrive]
  | take hbatch => exact ⟨[], [], by simp [arrived], by simp [handled], by simp [queue, hbatch]⟩
  | @handleNext d rest hbatch =>
    refine ⟨[], [d], ?_, handled_handle .., ?_⟩
    · exact (arrived_handle ..).trans (List.append_nil _).symm
    · simp [queue, hbatch, handle]
  | handleWaiting h => simp [hwaiting] at h

theorem Shaped.flow (h : Shaped s) {inputs : List (Input ℓ)} (hbusy : s.BusyThrough inputs)
    (hwaiting : s.mailbox.waiting = []) :
    ∃ during, (s.run inputs).mailbox.arrived = s.mailbox.arrived ++ during ∧
      s.mailbox.queue ++ during =
        (s.dealings inputs).filterMap Dealing.handled? ++ (s.run inputs).mailbox.queue := by
  induction inputs generalizing s with
  | nil => exact ⟨[], by simp [System.run], by simp [System.run, System.dealings]⟩
  | cons input inputs ih =>
    obtain ⟨hbusy, hlater⟩ := hbusy
    obtain ⟨hshaped, hstep⟩ := h.feed input
    obtain ⟨arrived, handled, harrived, hhandled, hqueue⟩ := hstep.flow hbusy hwaiting
    obtain ⟨during, hduring, hlast⟩ := ih hshaped hlater (hstep.waiting_eq_nil hbusy hwaiting)
    have hdealing : handled = (s.dealing input).filterMap Dealing.handled? :=
      List.append_cancel_left (hhandled.symm.trans (h.handled_feed input))
    refine ⟨arrived ++ during, ?_, ?_⟩
    · show ((s.feed input).run inputs).mailbox.arrived = _
      rw [hduring, harrived, List.append_assoc]
    · show _ = _ ++ ((s.feed input).run inputs).mailbox.queue
      rw [System.dealings, List.filterMap_append, ← hdealing, List.append_assoc, ← hlast,
        ← List.append_assoc, hqueue, List.append_assoc]

end DeviceStatus.Device
