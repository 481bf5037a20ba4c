import DeviceStatus.Proofs.Lockscreen.Footprints

/-!
# The view and the marquee timer

The view notes by itself whether the marquee timer is pending; nobody tells it. What the timer goes
through is a list of alarms, oldest first. `Watch.alarms` follows them through the requests of the
view, and lets the timer be started only while it is not pending and be stopped only while it is.
Whatever the view does, its note is right.
-/

namespace DeviceStatus.Lockscreen

/-- What happens to the marquee timer. -/
inductive Alarm where
  | scheduled
  | cancelled
  | fired
deriving DecidableEq, Repr

namespace Alarm

/-- Whether the timer is pending after alarms, oldest first. -/
def isPending (alarms : List Alarm) : Bool := alarms.getLast? == some scheduled

/-- An alarm comes only while the timer is pending, or only while it is not. -/
def ComesWhile (a : Alarm) (pending : Bool) (alarms : List Alarm) : Prop :=
  ∀ earlier later, alarms = earlier ++ a :: later → isPending earlier = pending

@[simp] theorem isPending_concat (alarms : List Alarm) (a : Alarm) :
    isPending (alarms ++ [a]) = decide (a = scheduled) := by
  by_cases ha : a = scheduled <;> simp [isPending, ha]

variable {a : Alarm} {pending : Bool} {alarms : List Alarm}

theorem comesWhile_nil : ComesWhile a pending [] := by simp [ComesWhile]

theorem ComesWhile.of_append {later : List Alarm} (h : ComesWhile a pending (alarms ++ later)) :
    ComesWhile a pending alarms := by
  intro earlier rest hsplit
  exact h earlier (rest ++ later) (by simp [hsplit])

theorem comesWhile_concat {last : Alarm} :
    ComesWhile a pending (alarms ++ [last]) ↔
      ComesWhile a pending alarms ∧ (last = a → isPending alarms = pending) := by
  constructor
  · intro h
    refine ⟨h.of_append, ?_⟩
    rintro rfl
    exact h alarms [] rfl
  · rintro ⟨h, hlast⟩ earlier later hsplit
    rcases List.eq_nil_or_concat later with rfl | ⟨later, z, rfl⟩
    · obtain ⟨rfl, hz⟩ := List.append_inj' hsplit rfl
      exact hlast (by simpa using hz)
    · rw [List.concat_eq_append, ← List.cons_append, ← List.append_assoc] at hsplit
      exact h earlier later (List.append_inj_left' hsplit rfl)

end Alarm

/-- What a request does to the timer. -/
def Request.alarm? : Request → Option Alarm
  | .command (.scheduleMarquee _) => some .scheduled
  | .command .cancelMarquee => some .cancelled
  | _ => none

/-- The timer is started while it is not pending and stopped while it is, and nothing is said of an
idle timer unless it has fired while it was not. -/
def Watch.alarms : Watch (List Alarm) where
  after := fun alarms r => alarms ++ r.alarm?.toList
  permits := fun alarms r => match r with
    | .command (.scheduleMarquee _) => Alarm.isPending alarms = false
    | .command .cancelMarquee => Alarm.isPending alarms = true
    | .log .idleMarqueeTimer => ¬ Alarm.ComesWhile .fired true alarms
    | _ => True

/-- The timer is started and stopped only where that is permitted. -/
theorem isPending_of_permits {past : List Alarm} {r : Request} {a : Alarm}
    (hr : r.alarm? = some a) (hpermits : Watch.alarms.permits past r) :
    (a = .scheduled → Alarm.isPending past = false) ∧
      (a = .cancelled → Alarm.isPending past = true) := by
  unfold Request.alarm? at hr
  split at hr
  · obtain rfl := Option.some.inj hr
    exact ⟨fun _ => hpermits, by simp⟩
  · obtain rfl := Option.some.inj hr
    exact ⟨by simp, fun _ => hpermits⟩
  · simp at hr

/-- The view is right about the timer. -/
def View.KnowsTimer (v : View) (alarms : List Alarm) : Prop :=
  v.isMarqueePending = Alarm.isPending alarms

open Handler

variable {α : Type} {areas : List Area} {h : Handler α}

theorem alarm?_of_area {r : Request} (hr : r.area ≠ some .marquee) : r.alarm? = none := by
  unfold Request.alarm?
  split <;> simp_all [Request.area, Command.area]

/-- What has nothing to do with the marquee leaves the timer alone. -/
theorem Handler.Touches.knowsTimer (hh : Touches areas h) (ha : .marquee ∉ areas) :
    Keeps .alarms View.KnowsTimer h := by
  refine hh.keeps [.marquee] (by simpa using ha) ?_ ?_
  · intro v v' alarms hsame hknows
    exact Eq.trans (hsame .marquee (List.mem_singleton_self _)) hknows
  · intro r alarms hr
    have harea : r.area ≠ some .marquee := hr .marquee (List.mem_singleton_self _)
    refine ⟨?_, ?_⟩
    · simp only [Watch.alarms]
      split <;> simp_all [Request.area, Command.area, Notice.area]
    · intro v hknows
      simpa [Watch.alarms, alarm?_of_area harea] using hknows

namespace View

theorem knowsTimer_setMarqueeEnabled (isEnabled : Bool) :
    Keeps .alarms KnowsTimer (setMarqueeEnabled isEnabled) := by
  intro v alarms hknows
  unfold KnowsTimer at hknows
  cases isEnabled <;> cases hpending : v.isMarqueePending <;>
    simp_all [setMarqueeEnabled, command, request, Program.request, KnowsTimer, Watch.alarms,
        Request.alarm?]

/-- The timer has fired; if it was not pending, that is logged. -/
theorem ensures_marqueeTimerFired {v : View} {alarms : List Alarm} (hknows : v.KnowsTimer alarms) :
    (marqueeTimerFired.after v).Ensures .alarms KnowsTimer (alarms ++ [.fired]) := by
  rw [ensures_after]
  unfold KnowsTimer at hknows
  cases hpending : v.isMarqueePending with
  | true =>
    simp_all [marqueeTimerFired, command, request, Program.request, KnowsTimer, Watch.alarms,
      Request.alarm?]
  | false =>
    have hidle : ¬ Alarm.ComesWhile .fired true (alarms ++ [.fired]) := by
      rw [Alarm.comesWhile_concat, ← hknows, hpending]
      simp
    simp_all [marqueeTimerFired, request, Program.request, KnowsTimer, Watch.alarms, Request.alarm?]

theorem knowsTimer_setUp : Keeps .alarms KnowsTimer setUp :=
  .bind (touches_loadIconMargins.knowsTimer (by simp)) fun _ =>
    .bind (touches_refreshFontsAndSizes.knowsTimer (by simp)) fun _ =>
      .bind (touches_contentChanged.knowsTimer (by simp)) fun _ =>
        .bind ((Touches.fact _ : Touches [] _).knowsTimer (by simp)) fun isInteractive =>
          .bind (knowsTimer_setMarqueeEnabled isInteractive) fun _ =>
            .bind (touches_updateAll.knowsTimer (by simp)) fun _ =>
              .bind (touches_refreshFormat.knowsTimer (by simp)) fun _ =>
                .bind (touches_updateOwnerInfo.knowsTimer (by simp)) fun _ =>
                  touches_updateLogoutView.knowsTimer (by simp)

/-- A view is made while no timer is pending. -/
theorem ensures_create_alarms (locale : String) :
    (create locale).Ensures .alarms KnowsTimer [] := by
  refine ⟨trivial, fun textColor _ => ?_⟩
  show (setUp.after { locale, textColor }).Ensures .alarms KnowsTimer []
  rw [ensures_after]
  exact knowsTimer_setUp _ _ rfl

end View

/-- What happens to the timer when an operation is begun. -/
def Operation.alarms : Operation → List Alarm
  | marqueeTimerFired => [.fired]
  | _ => []

/-- Every operation keeps the view right about the timer, if it is counted that the timer has
fired. -/
theorem Operation.ensures_alarms (o : Operation) {v : View} {alarms : List Alarm}
    (hknows : v.KnowsTimer alarms) :
    (o.handler.after v).Ensures .alarms View.KnowsTimer (alarms ++ o.alarms) := by
  have hkeeps : Keeps .alarms View.KnowsTimer o.handler →
      (o.handler.after v).Ensures .alarms View.KnowsTimer (alarms ++ []) := by
    intro hkeeps
    rw [List.append_nil, ensures_after]
    exact hkeeps v alarms hknows
  cases o with
  | marqueeTimerFired => exact View.ensures_marqueeTimerFired hknows
  | event e =>
    cases e with
    | wake => exact hkeeps (View.knowsTimer_setMarqueeEnabled true)
    | sleep why => exact hkeeps (View.knowsTimer_setMarqueeEnabled false)
    | time | timeZone | visibility | userSwitch | logoutEnabled | density | locale =>
      exact hkeeps ((Operation.touches (.event _)).knowsTimer
        (by simp [Operation.areas, Device.Event.areas, Area.ofUser]))
  | updateAll | updateSettings | updateDateStyles | dozeTimeTick | setDarkAmount | setPulsing
  | contentChanged | logOut | replay =>
    exact hkeeps ((Operation.touches _).knowsTimer (by simp [Operation.areas]))

end DeviceStatus.Lockscreen
