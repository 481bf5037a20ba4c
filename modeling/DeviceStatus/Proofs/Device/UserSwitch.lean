import DeviceStatus.Proofs.Device.Delivery
import DeviceStatus.Proofs.Device.Work
import DeviceStatus.Proofs.Lockscreen.CurrentUser
import DeviceStatus.Proofs.Lockscreen.ShownClock

/-!
# The clock of a new user

When the user changes, the view asks again for the patterns, the owner information, the typefaces
and the date of the new user, but not for the clock that this user has chosen. So the clock of the
user before stays on the screen, and the status area is aligned under it, while the owner
information is aligned as if it stood under the clock of the new user.
-/

namespace DeviceStatus.Device

open Lockscreen Handler

variable {ℓ : Type}

/-- The screen after an event that is handled under fixed answers while the view is idle. -/
def System.screenAfter (s : System ℓ) (v : View) (answers : Answers) (e : Event) : Screen :=
  (((View.handle e).after v).under answers).2.foldl Screen.afterRequest s.screen

/-- The clock stays when the user changes. Whatever is stored for the users, after the change has
been handled the view has the same clock as before, the screen shows it, it is brought up to the
present time as this clock, and the status area is aligned under it; but the owner information is
aligned under the clock that the new user has chosen. So the new user's clock is on the screen
exactly if it is laid out like the one before. -/
theorem clock_kept_on_user_switch (locale : String) (inputs : List (Input ℓ)) (answers : Answers)
    (user : Int32) (v : View) :
    let s := (System.start (ℓ := ℓ) locale).run inputs
    let v' := (((View.handle (.userSwitch user)).after v).under answers).1
    let screen := s.screenAfter v answers (.userSwitch user)
    s.work = .idle (.present v) →
      v'.clock = v.clock ∧ screen.ShowsClock v.clock ∧
      screen.clockRefresh =
        some (v.clock.refresh (v'.patternCache.patterns?.getD {}) (answers (.query .accent))) ∧
      screen.statusAreaAlignment = some (answers.alignmentUnder v.clock) ∧
      (answers (.query .deviceOwnerInfo) = none →
        screen.ownerInfoAlignment = some (answers.alignmentUnder answers.clock)) ∧
      (screen.ShowsClock answers.clock ↔ answers.clock.layout = v.clock.layout) := by
  intro s v' screen hidle
  have hafter : ∀ post : View → Screen → Prop,
      (View.onUserSwitch.run v).Ensures (.answered answers) (fun result x => post result.2 x)
        s.screen → post v' screen := by
    intro post hpost
    have hensures : ((View.handle (.userSwitch user)).after v).Ensures (.answered answers) post
        s.screen := (ensures_after ..).2 hpost
    exact hensures.under fun _ => rfl
  have hclock : v'.clock = v.clock :=
    hafter (fun v' _ => v'.clock = v.clock) (View.keeps_onUserSwitch_clock _ v _ rfl)
  have hbefore : v.ClockShown s.screen :=
    holds_between_operations View.ensures_create_clock Operation.clockShown locale inputs hidle
  have hshown : screen.ShowsClock v.clock :=
    hclock ▸ hafter View.ClockShown ((Operation.event (.userSwitch user)).clockShown v _ hbefore)
  refine ⟨hclock, hshown, ?_, ?_, ?_, hshown.iff_layout _⟩
  · have htime := hafter (View.TimeShown answers) (View.establishes_onUserSwitch_time v _)
    rwa [View.TimeShown, hclock] at htime
  · have harea := hafter (View.AreaAligned answers) (View.establishes_onUserSwitch_area v _)
    rwa [View.AreaAligned, hclock] at harea
  · intro hdevice
    exact hafter (View.OwnerInfoAligned answers)
      (View.establishes_onUserSwitch_ownerInfo hdevice v _)

/-! ## A user with a clock of his own -/

/-- A view is made for the system user, who has not chosen a clock. -/
def plainView : List (Input Empty) := .act .create :: uneventful 70

/-- The second user is the current one, and has chosen the clock in words. -/
def secondUser : Answers
  | .fact .currentUser => (10 : Int32)
  | r => Surroundings.answers
      { settings := [((.clock, some 10), 8)], bestPattern := fun _ s => s } r

/-- The second user sees the clock of the system user, not the clock in words. -/
theorem clock_kept_on_user_switch_second :
    let s := (System.start "en").run plainView
    secondUser.clock = .customText ∧
      ∃ v, s.work = .idle (.present v) ∧ v.clock = .default ∧
        (s.screenAfter v secondUser (.userSwitch 10)).ShowsClock .default ∧
        ¬ (s.screenAfter v secondUser (.userSwitch 10)).ShowsClock .customText := by
  intro s
  have hclock : secondUser.clock = .customText := by decide +kernel
  have hview : ((System.start "en").run plainView).freeView?.map (·.clock) = some .default := by
    decide +kernel
  obtain ⟨v, hview, hdefault⟩ := Option.map_eq_some_iff.1 hview
  have hidle := (shaped_run "en" plainView).1.work_of_freeView? hview
  obtain ⟨-, hshown, -, -, -, hnew⟩ :=
    clock_kept_on_user_switch "en" plainView secondUser 10 v hidle
  rw [hdefault] at hshown hnew
  rw [hclock] at hnew
  refine ⟨hclock, v, hidle, hdefault, hshown, ?_⟩
  intro hwords
  exact absurd (hnew.1 hwords) (by decide)

/-- So the clock that the new user has chosen is not always shown. -/
theorem not_clock_of_new_user :
    ¬ ∀ (locale : String) (inputs : List (Input Empty)) (answers : Answers) (v : View),
      ((System.start locale).run inputs).work = .idle (.present v) →
        (((System.start locale).run inputs).screenAfter v answers
          (.userSwitch (answers (.fact .currentUser)))).ShowsClock answers.clock := by
  intro h
  have hhidden : ((System.start "en").run plainView).freeView?.map (fun v =>
      (((System.start "en").run plainView).screenAfter v secondUser (.userSwitch 10)).slotVisible
        .textClock) = some (some false) := by
    decide +kernel
  obtain ⟨v, hview, hhidden⟩ := Option.map_eq_some_iff.1 hhidden
  have hidle := (shaped_run "en" plainView).1.work_of_freeView? hview
  have hslot := (h "en" plainView secondUser v hidle).slots .textClock
  have hclock : secondUser.clock = .customText := by decide +kernel
  rw [hclock] at hslot
  exact absurd (hhidden.symm.trans hslot) (by decide)

end DeviceStatus.Device
