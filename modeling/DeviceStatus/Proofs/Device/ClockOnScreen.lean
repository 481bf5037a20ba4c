import DeviceStatus.Proofs.Device.Delivery
import DeviceStatus.Proofs.Device.Work
import DeviceStatus.Proofs.Lockscreen.AreaAlignment

/-!
# One clock at a time

Orders to the widgets are given one at a time, and the screen is what the last of each kind have
left behind. Whenever the view is idle, the screen shows the clock of the view and no other, laid
out for it, with the status area aligned under it. The settings, the resources, the owner
information and the current user may have changed in the meantime, and may have been answered
differently each time that the view asked: the answers to all requests are inputs.
-/

namespace DeviceStatus.Device

open Lockscreen

variable {ℓ : Type}

/-- Whenever the view is idle, the screen shows its clock and no other, and the status area below
it: centred, or aligned like the clock in words if that is the clock. -/
theorem one_clock_on_screen (locale : String) (inputs : List (Input ℓ)) (v : View) :
    let s := (System.start (ℓ := ℓ) locale).run inputs
    s.work = .idle (.present v) →
      (∀ slot, s.screen.slotVisible slot = some (decide (slot = v.clock.layout.visible))) ∧
      s.screen.anchor = some v.clock.layout.anchor ∧
      s.screen.lineSpacing = some (v.clock.layout.lineSpacing.getD 1.0) ∧
      (v.clock ≠ .customText → s.screen.statusAreaAlignment = some .centered) ∧
      (v.clock = .customText → ∃ alignment, s.screen.statusAreaAlignment = some alignment ∧
        s.screen.textClockAlignment = some alignment) := by
  intro s hidle
  have hclock : v.ClockShown s.screen :=
    holds_between_operations View.ensures_create_clock Operation.clockShown locale inputs hidle
  have harea : v.AreaUnderClock s.screen :=
    holds_between_operations View.ensures_create_area Operation.areaUnderClock locale inputs hidle
  refine ⟨fun slot => ?_, hclock.anchor, hclock.lineSpacing, harea.other, harea.words⟩
  rw [hclock.slots slot]
  simp only [eq_comm]

/-! ## A clock in words that moves -/

/-- The system user has chosen the clock in words, the second user wants a text centred. -/
def twoChoices : Surroundings where
  settings := [((.clock, some 0), 8), ((.textClockAlignment, some 10), 1)]
  bestPattern := fun _ skeleton => skeleton

/-- A view is made for the system user, then the second user comes. -/
def switchUnderWords : List (Input Empty) :=
  .act .create :: twoChoices.uneventful 70 ++
    [.act (.attach "a"), .act (.change (.userSwitch 10))] ++ twoChoices.uneventful 60

/-- The clock in words stays alone on the screen and is centred for the second user; the status area
goes with it. -/
theorem one_clock_on_screen_in_words :
    let s := (System.start "en").run switchUnderWords
    ∃ v, s.work = .idle (.present v) ∧ v.clock = .customText ∧
      Clock.Slot.all.filter (fun slot => s.screen.slotVisible slot = some true) = [.textClock] ∧
      s.screen.textClockAlignment = some .centered ∧
      s.screen.statusAreaAlignment = s.screen.textClockAlignment := by
  intro s
  have hview : ((System.start "en").run switchUnderWords).freeView?.map (·.clock) =
      some .customText := by
    decide +kernel
  have hcentred : s.screen.textClockAlignment = some .centered := by decide +kernel
  obtain ⟨v, hview, hwords⟩ := Option.map_eq_some_iff.1 hview
  have hidle := (shaped_run "en" switchUnderWords).1.work_of_freeView? hview
  obtain ⟨hslots, -, -, -, harea⟩ := one_clock_on_screen "en" switchUnderWords v hidle
  refine ⟨v, hidle, hwords, ?_, hcentred, ?_⟩
  · simp only [s, hslots, hwords]
    decide
  · obtain ⟨alignment, hstatus, htext⟩ := harea hwords
    exact hstatus.trans htext.symm

end DeviceStatus.Device
