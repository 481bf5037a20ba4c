import DeviceStatus.Proofs.Lockscreen.Footprints

/-!
# The clock on the screen

Only taking over the clock that is chosen changes what is laid out for a clock, and it lays out
everything: all slots, the anchor of the status area and the line spacing. So the screen always
shows the clock that the view takes for the shown one.
-/

namespace DeviceStatus.Lockscreen

open Handler

/-- What is laid out on the screen is the layout of a clock. -/
structure Screen.ShowsClock (x : Screen) (clock : Clock.Style) : Prop where
  /-- The slot of the clock is shown, and no other. -/
  slots : ∀ slot, x.slotVisible slot = some (decide (clock.layout.visible = slot))
  /-- The status area is below the clock. -/
  anchor : x.anchor = some clock.layout.anchor
  /-- The line spacing is that of the clock, or the usual one. -/
  lineSpacing : x.lineSpacing = some (clock.layout.lineSpacing.getD Clock.usualLineSpacing)

/-- The screen shows the clock of the view. -/
def View.ClockShown (v : View) (x : Screen) : Prop := x.ShowsClock v.clock

variable {α : Type} {areas : List Area} {h : Handler α} {known : (r : Request) → r.Answer → Prop}

/-- A screen that shows a clock shows exactly the clocks with the same layout. -/
theorem Screen.ShowsClock.iff_layout {x : Screen} {clock : Clock.Style} (h : x.ShowsClock clock)
    (other : Clock.Style) : x.ShowsClock other ↔ other.layout = clock.layout := by
  constructor
  · intro hother
    have hslot := hother.slots other.layout.visible
    have hspacing := hother.lineSpacing
    rw [h.slots] at hslot
    rw [h.lineSpacing] at hspacing
    have hspacings : Clock.usualLineSpacing ≠ Clock.stackedLineSpacing := by decide
    cases clock <;> cases other <;> simp_all [Clock.Style.layout, Ne.symm]
  · intro hlayout
    exact ⟨by rw [hlayout]; exact h.slots, by rw [hlayout]; exact h.anchor,
      by rw [hlayout]; exact h.lineSpacing⟩

/-- What does not touch the layout leaves the clock of the view on the screen. -/
theorem Handler.Touches.clockShown (hh : Touches areas h) (ha : .layout ∉ areas) :
    Keeps (.screen known) View.ClockShown h := by
  refine hh.keeps_screen [.layout] (by simpa using ha) ?_
  intro v v' x x' hsame hshown
  obtain ⟨hclock, hslots, hanchor, hspacing⟩ := hsame .layout (List.mem_singleton_self _)
  unfold View.ClockShown
  rw [hclock]
  exact ⟨fun slot => hslots ▸ hshown.slots slot, hanchor ▸ hshown.anchor,
    hspacing ▸ hshown.lineSpacing⟩

namespace View

theorem ensures_showSlots (slots : List (Clock.Slot × Bool)) (v : View) (x : Screen) :
    ((showSlots slots).run v).Ensures (.screen known)
      (fun result x' => result.2 = v ∧
        x' = slots.foldl (fun x slot => x.after (.slotVisible slot.1 slot.2)) x) x := by
  induction slots generalizing x with
  | nil => exact ⟨rfl, rfl⟩
  | cons slot slots ih => exact ⟨trivial, fun _ _ => ih _⟩

/-- Taking over the clock that is chosen lays out all that belongs to it. -/
theorem establishes_updateSettings : Establishes (.screen known) ClockShown updateSettings := by
  refine .of_last (fun _ _ => trivial) fun clock v x => ?_
  rw [StateT.run_bind, StateT.run_modify, pure_bind, StateT.run_bind, Program.ensures_bind]
  refine (ensures_showSlots _ _ x).imp ?_
  rintro result x' ⟨hview, rfl⟩
  rw [hview]
  refine ⟨trivial, fun _ _ => ⟨trivial, fun _ _ => ?_⟩⟩
  refine touches_updateClockAlignment.clockShown (by simp) _ _ ?_
  constructor
  · intro slot
    cases slot <;> rfl
  · rfl
  · rfl

theorem establishes_updateAll : Establishes (.screen known) ClockShown updateAll :=
  establishes_updateSettings.bind fun _ => touches_updateDateStyles.clockShown (by simp)

theorem establishes_setUp : Establishes (.screen known) ClockShown setUp := by
  unfold setUp
  iterate 5 refine .of_last (fun _ _ => trivial) fun _ => ?_
  exact .bind establishes_updateAll fun _ =>
    .bind (touches_refreshFormat.clockShown (by simp)) fun _ =>
      .bind (touches_updateOwnerInfo.clockShown (by simp)) fun _ =>
        touches_updateLogoutView.clockShown (by simp)

/-- A view that has just been made shows its clock. -/
theorem ensures_create_clock (locale : String) (x : Screen) :
    (create locale).Ensures (.screen known) ClockShown x := by
  refine ⟨trivial, fun textColor _ => ?_⟩
  exact (ensures_after ..).2 (establishes_setUp _ _)

end View

/-- Every operation leaves the clock of the view on the screen. -/
theorem Operation.clockShown (o : Operation) : Keeps (.screen known) View.ClockShown o.handler := by
  cases o with
  | updateAll => exact View.establishes_updateAll.keeps
  | updateSettings => exact View.establishes_updateSettings.keeps
  | event e =>
    refine (Operation.touches (.event e)).clockShown ?_
    cases e <;> simp [Operation.areas, Device.Event.areas, Area.ofUser]
  | updateDateStyles | dozeTimeTick | setDarkAmount | setPulsing | marqueeTimerFired
  | contentChanged | logOut | replay =>
    exact (Operation.touches _).clockShown (by simp [Operation.areas])

end DeviceStatus.Lockscreen
