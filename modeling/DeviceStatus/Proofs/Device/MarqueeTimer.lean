import DeviceStatus.Proofs.Device.Delivery
import DeviceStatus.Proofs.Device.Work
import DeviceStatus.Proofs.Lockscreen.Marquee

/-!
# The marquee timer along a run

The timer belongs to the host. It is started and stopped by the view, and when it fires the host
tells the view so. `System.chronicle` is what happens to the timer along a run; the view keeps in
step with it (`marquee_timer_protocol`).
-/

namespace DeviceStatus.Device

open Lockscreen

variable {ℓ : Type} {s : System ℓ} {past : List Alarm}

/-! ## What happens to the timer -/

/-- What happens to the timer at an occurrence. -/
def Occurrence.alarm? (o : Occurrence ℓ) : Option Alarm := o.request?.bind Request.alarm?

namespace System

/-- What happens at an input, oldest first. -/
def occurring (s : System ℓ) (input : Input ℓ) : List (Occurrence ℓ) :=
  ((s.feed input).journal.take ((s.feed input).journal.length - s.journal.length)).reverse

/-- What happens to the timer at an input. -/
def alarms (s : System ℓ) (input : Input ℓ) : List Alarm :=
  (s.begun? input).elim [] Operation.alarms ++ (s.occurring input).filterMap Occurrence.alarm?

/-- What happens to the timer along a run. -/
def chronicle (s : System ℓ) : List (Input ℓ) → List Alarm
  | [] => []
  | input :: inputs => s.alarms input ++ (s.feed input).chronicle inputs

end System

theorem occurring_eq {input : Input ℓ} {new : List (Occurrence ℓ)}
    (hjournal : (s.feed input).journal = new ++ s.journal) : s.occurring input = new.reverse := by
  simp [System.occurring, hjournal]

theorem foldr_follow_alarms (new : List (Occurrence ℓ)) (past : List Alarm) :
    new.foldr (Occurrence.follow .alarms) past =
      past ++ new.reverse.filterMap Occurrence.alarm? := by
  induction new with
  | nil => simp
  | cons o new ih =>
    rw [List.foldr_cons, ih, List.reverse_cons, List.filterMap_append, ← List.append_assoc]
    cases o with
    | requested r =>
      cases hr : r.alarm? <;>
        simp [Occurrence.follow, Watch.alarms, Occurrence.alarm?, Occurrence.request?, hr]
    | announced | heard | arrived | handled =>
      simp [Occurrence.follow, Occurrence.alarm?, Occurrence.request?]

/-! ## The view keeps in step -/

theorem fits_alarms (s : System ℓ) : Fits .alarms s where
  fact := fun _ => trivial
  log := fun _ => trivial
  other := fun _ _ _ => trivial
  silent := fun past _ => List.append_nil past

/-- The view keeps in step with a timer that has gone through alarms. -/
structure InStep (s : System ℓ) (past : List Alarm) : Prop where
  /-- The view is right about the timer when it has ended its work. -/
  meets : s.work.Meets .alarms View.KnowsTimer past
  /-- Nothing happens to the timer before there is a view. -/
  fresh : s.work = .idle .empty → past = []
  /-- The timer is started only while it is not pending. -/
  scheduled : Alarm.ComesWhile .scheduled false past
  /-- It is stopped only while it is pending. -/
  cancelled : Alarm.ComesWhile .cancelled true past
  /-- An idle timer is logged only if it has fired while it was not pending. -/
  log : .requested (.log .idleMarqueeTimer) ∈ s.journal → ¬ Alarm.ComesWhile .fired true past

theorem filterMap_alarm?_eq_nil {new : List (Occurrence ℓ)} (hnew : ∀ o ∈ new, o.isOfView = false) :
    new.reverse.filterMap Occurrence.alarm? = [] := by
  refine List.filterMap_eq_nil_iff.2 ?_
  intro o ho
  have hview := hnew o (List.mem_reverse.1 ho)
  cases o <;> simp_all [Occurrence.isOfView, Occurrence.alarm?, Occurrence.request?]

/-- At an input at most one thing happens to the timer, and it is started and stopped only where
that is permitted. -/
theorem Work.Move.alarms_cases {work work' : Work} {begun : Option Operation}
    {new : List (Occurrence ℓ)} (hmove : Work.Move s work begun new work')
    (h : work.Meets .alarms View.KnowsTimer past) :
    begun.elim [] Operation.alarms ++ new.reverse.filterMap Occurrence.alarm? = [] ∨
      ∃ a, begun.elim [] Operation.alarms ++ new.reverse.filterMap Occurrence.alarm? = [a] ∧
        (a = .scheduled → Alarm.isPending past = false) ∧
        (a = .cancelled → Alarm.isPending past = true) := by
  have hrequest : ∀ r : Request, Watch.alarms.permits past r →
      [Occurrence.requested r (ℓ := ℓ)].reverse.filterMap Occurrence.alarm? = [] ∨
        ∃ a, [Occurrence.requested r (ℓ := ℓ)].reverse.filterMap Occurrence.alarm? = [a] ∧
          (a = .scheduled → Alarm.isPending past = false) ∧
          (a = .cancelled → Alarm.isPending past = true) := by
    intro r hpermits
    cases hr : r.alarm? with
    | none => simp [Occurrence.alarm?, Occurrence.request?, hr]
    | some a =>
      refine .inr ⟨a, ?_, isPending_of_permits hr hpermits⟩
      simp [Occurrence.alarm?, Occurrence.request?, hr]
  cases hmove with
  | stay work hnew => exact .inl (filterMap_alarm?_eq_nil hnew)
  | perform o v => cases o <;> simp [Operation.alarms]
  | log n next => exact hrequest _ h.1
  | ask hr next => exact hrequest _ h.1
  | create | handle | drop | done | fact | answer =>
    simp [Occurrence.alarm?, Occurrence.request?]

theorem InStep.meets_move (h : InStep s past) {begun : Option Operation} {work' : Work}
    {new : List (Occurrence ℓ)} (hmove : Work.Move s s.work begun new work') :
    work'.Meets .alarms View.KnowsTimer
      (past ++ (begun.elim [] Operation.alarms ++ new.reverse.filterMap Occurrence.alarm?)) := by
  rw [← List.append_assoc, ← foldr_follow_alarms]
  refine hmove.meets (fits_alarms s) ?_ ?_ ?_ ?_
  · intro hbegun
    rw [hbegun, Option.elim_none, List.append_nil]
    exact h.meets
  · intro hbegun hwork locale
    rw [hbegun, Option.elim_none, List.append_nil, h.fresh hwork]
    exact View.ensures_create_alarms locale
  · intro o v hbegun hwork
    have hknows := h.meets
    rw [hwork] at hknows
    rw [hbegun, Option.elim_some]
    exact o.ensures_alarms (hknows v rfl)
  · intro e v hknows
    have hensures := (Operation.event e).ensures_alarms hknows
    rwa [Operation.alarms, List.append_nil] at hensures
    simp

theorem InStep.feed (h : InStep s past) (hshaped : Shaped s) (input : Input ℓ) :
    InStep (s.feed input) (past ++ s.alarms input) := by
  obtain ⟨new, hjournal, hmove⟩ := hshaped.moved (hshaped.step_feed input)
  have halarms : s.alarms input =
      (s.begun? input).elim [] Operation.alarms ++ new.reverse.filterMap Occurrence.alarm? := by
    rw [System.alarms, occurring_eq hjournal]
  have hcases := hmove.alarms_cases h.meets
  rw [← halarms] at hcases
  constructor
  · rw [halarms]
    exact h.meets_move hmove
  · intro hwork
    rw [hwork] at hmove
    obtain ⟨hfresh, hbegun, hnew⟩ := hmove.fresh
    rw [halarms, hbegun, filterMap_alarm?_eq_nil hnew, h.fresh hfresh]
    rfl
  · rcases hcases with hnone | ⟨a, ha, hscheduled, -⟩
    · rw [hnone, List.append_nil]
      exact h.scheduled
    · rw [ha]
      exact Alarm.comesWhile_concat.2 ⟨h.scheduled, hscheduled⟩
  · rcases hcases with hnone | ⟨a, ha, -, hcancelled⟩
    · rw [hnone, List.append_nil]
      exact h.cancelled
    · rw [ha]
      exact Alarm.comesWhile_concat.2 ⟨h.cancelled, hcancelled⟩
  · intro hlog hfired
    rw [hjournal] at hlog
    rcases List.mem_append.1 hlog with hlog | hlog
    · exact hmove.permits h.meets hlog hfired.of_append
    · exact h.log hlog hfired.of_append

theorem inStep_start (locale : String) : InStep (System.start (ℓ := ℓ) locale) [] where
  meets := by
    intro v hv
    simp [System.start] at hv
  fresh := fun _ => rfl
  scheduled := Alarm.comesWhile_nil
  cancelled := Alarm.comesWhile_nil
  log := by simp [System.start]

theorem inStep_run (locale : String) (inputs : List (Input ℓ)) :
    InStep ((System.start locale).run inputs) ((System.start locale).chronicle inputs) := by
  have hrun : ∀ (s : System ℓ) past, Shaped s → InStep s past →
      InStep (s.run inputs) (past ++ s.chronicle inputs) := by
    induction inputs with
    | nil =>
      intro s past hshaped h
      rw [System.chronicle, List.append_nil]
      exact h
    | cons input inputs ih =>
      intro s past hshaped h
      rw [System.chronicle, ← List.append_assoc]
      exact ih _ _ (hshaped.feed input).1 (h.feed hshaped input)
  exact hrun _ [] (shaped_start locale) (inStep_start locale)

/-- A timer that is said to fire while it is not pending changes nothing but the log. -/
theorem run_marqueeTimerFired {v : View} (hturn : s.isTurn = true) (hview : s.freeView? = some v)
    (hstays : s.isLetGo = false) (hidle : v.isMarqueePending = false) :
    (s.feed (.act (.perform .marqueeTimerFired))).run [.tick, .tick, .tick] =
      s.note (.requested (.log .idleMarqueeTimer)) := by
  obtain ⟨hfree, hpresent⟩ := view_of_freeView? hview
  have hprogram : View.marqueeTimerFired.after v =
      .ask (.log .idleMarqueeTimer) fun _ => .done v := by
    unfold Handler.after View.marqueeTimerFired
    simp only [StateT.run_bind, StateT.run_get, pure_bind, hidle, Bool.false_eq_true, if_false]
    rfl
  have hbegin : s.feed (.act (.perform .marqueeTimerFired)) =
      s.begin [.program (.ask (.log .idleMarqueeTimer) fun _ => .done v)] := by
    simp only [System.feed, hturn, if_true, System.act, hview]
    rw [← hprogram]
    rfl
  rw [hbegin]
  cases s
  subst hfree hpresent hstays
  rfl

/-- The view and the marquee timer. Along every run, whatever acts on the device and whenever, the
view starts the timer only while it is not pending and stops it only while it is, and whenever the
view is free its note of this is right. As long as the timer fires only while it is pending, no idle
timer is logged; and if it is said to fire while it is not, this is logged and nothing changes. -/
theorem marquee_timer_protocol (locale : String) (inputs : List (Input ℓ)) :
    let s := (System.start locale).run inputs
    let alarms := (System.start (ℓ := ℓ) locale).chronicle inputs
    Alarm.ComesWhile .scheduled false alarms ∧
      Alarm.ComesWhile .cancelled true alarms ∧
      (∀ v, s.freeView? = some v → v.isMarqueePending = Alarm.isPending alarms) ∧
      (Alarm.ComesWhile .fired true alarms → .requested (.log .idleMarqueeTimer) ∉ s.journal) ∧
      (s.isTurn = true → s.freeView?.isSome = true → Alarm.isPending alarms = false →
        (s.feed (.act (.perform .marqueeTimerFired))).run [.tick, .tick, .tick] =
          s.note (.requested (.log .idleMarqueeTimer))) := by
  intro s alarms
  have h := inStep_run locale inputs
  have hknows : ∀ v, s.freeView? = some v → v.isMarqueePending = Alarm.isPending alarms := by
    intro v hview
    have hmeets := h.meets
    rw [(shaped_run locale inputs).1.work_of_freeView? hview] at hmeets
    exact hmeets v rfl
  refine ⟨h.scheduled, h.cancelled, hknows, fun hfired hlog => h.log hlog hfired, ?_⟩
  intro hturn hthere hidle
  obtain ⟨v, hview⟩ := Option.isSome_iff_exists.1 hthere
  obtain ⟨hfree, hpresent⟩ := view_of_freeView? hview
  have hstays : s.isLetGo = false := by
    by_contra hgo
    rcases view_of_isLetGo locale inputs (by simpa using hgo) with hgone | ⟨hbusy, -⟩
    · exact absurd (hpresent.symm.trans hgone) (by simp)
    · exact absurd (hfree.symm.trans hbusy) (by simp)
  exact run_marqueeTimerFired hturn hview hstays ((hknows v hview).trans hidle)

/-! ## A timer that fires once and is stopped once -/

/-- The device wakes up, the timer fires, the device wakes up again and goes to sleep. -/
def twoWakes : List (Input Empty) :=
  .act .create :: uneventful 70 ++
    [.act (.attach "a"), .act (.change .wake)] ++ uneventful 10 ++
    [.act (.perform .marqueeTimerFired)] ++ uneventful 10 ++
    [.act (.change .wake)] ++ uneventful 10 ++
    [.act (.change (.sleep 0))] ++ uneventful 12

/-- The timer fires while it is pending. A timer that is said to fire after that, in the sleep,
changes nothing but the log. -/
theorem marquee_timer_protocol_of_two_wakes :
    let s := (System.start "en").run twoWakes
    (System.start "en").chronicle twoWakes = [.scheduled, .fired, .scheduled, .cancelled] ∧
      .requested (.log .idleMarqueeTimer) ∉ s.journal ∧
      (s.feed (.act (.perform .marqueeTimerFired))).run [.tick, .tick, .tick] =
        s.note (.requested (.log .idleMarqueeTimer)) := by
  intro s
  have halarms : (System.start "en").chronicle twoWakes =
      [.scheduled, .fired, .scheduled, .cancelled] := by
    decide +kernel
  have hfired : Alarm.ComesWhile .fired true ((System.start "en").chronicle twoWakes) := by
    rw [halarms]
    show Alarm.ComesWhile .fired true
      ([] ++ [.scheduled] ++ [.fired] ++ [.scheduled] ++ [.cancelled])
    simp only [Alarm.comesWhile_concat, Alarm.isPending_concat]
    simp [Alarm.comesWhile_nil]
  obtain ⟨-, -, -, hlog, hidle⟩ := marquee_timer_protocol "en" twoWakes
  refine ⟨halarms, hlog hfired, hidle ?_ ?_ ?_⟩
  · decide +kernel
  · decide +kernel
  · rw [halarms]
    rfl

end DeviceStatus.Device
