import DeviceStatus.Proofs.Lockscreen.ShownClock

/-!
# The alignment of the status area

The status area is aligned whenever the clock or the date that is chosen is taken over, and always
last. Nothing else changes the clock of the view or an alignment on the screen, so the status area
stands under the clock of the view after every operation. Whatever is chosen for the clock in words,
and however that changes, matters under this clock only.
-/

namespace DeviceStatus.Lockscreen

open Handler

/-- The status area stands under a clock. -/
structure Screen.StandsUnder (x : Screen) (clock : Clock.Style) : Prop where
  /-- Under the clock in words it is aligned like it. -/
  words : clock = .customText → ∃ alignment,
    x.statusAreaAlignment = some alignment ∧ x.textClockAlignment = some alignment
  /-- Under any other clock it is centred. -/
  other : clock ≠ .customText → x.statusAreaAlignment = some .centered

/-- The status area stands under the clock of the view. -/
def View.AreaUnderClock (v : View) (x : Screen) : Prop := x.StandsUnder v.clock

variable {α : Type} {areas : List Area} {h : Handler α} {known : (r : Request) → r.Answer → Prop}

/-- Whatever is chosen for the clock in words, a text under another clock is centred. -/
theorem alignUnder_of_ne {clock : Clock.Style} (hclock : clock ≠ .customText)
    (alignment : TextClockAlignment) (startPadding : Int32) :
    alignUnder clock alignment startPadding = .centered := by
  cases clock <;> first | exact absurd rfl hclock | rfl

/-- What touches neither the layout nor the alignment leaves the status area under the clock. -/
theorem Handler.Touches.areaUnderClock (hh : Touches areas h) (hlayout : .layout ∉ areas)
    (halignment : .alignment ∉ areas) : Keeps (.screen known) View.AreaUnderClock h := by
  refine hh.keeps_screen [.layout, .alignment] (by simp [hlayout, halignment]) ?_
  intro v v' x x' hsame hunder
  obtain ⟨hclock, -⟩ := hsame .layout (by simp)
  obtain ⟨-, hwords, harea⟩ := hsame .alignment (by simp)
  unfold View.AreaUnderClock
  rw [hclock]
  exact ⟨fun h => by rw [hwords, harea]; exact hunder.words h, fun h => harea ▸ hunder.other h⟩

namespace View

theorem ensures_alignmentUnder (clock : Clock.Style) (v : View) (x : Screen) :
    ((alignmentUnder clock).run v).Ensures (.screen known)
      (fun result x' => (∃ alignment startPadding,
        result = (alignUnder clock alignment startPadding, v)) ∧ x' = x) x := by
  refine ⟨trivial, fun user _ => ⟨trivial, fun stored _ => ?_⟩⟩
  show ((choose _ >>= fun alignment => query (.dimension .textClockStart) >>= fun startPadding =>
    pure (alignUnder clock alignment startPadding)).run v).Ensures _ _ x
  rw [StateT.run_bind, Program.ensures_bind]
  refine (ensures_choose _ v x).imp ?_
  rintro _ x ⟨rfl, rfl⟩
  exact ⟨trivial, fun startPadding _ => ⟨⟨_, startPadding, rfl⟩, rfl⟩⟩

theorem updateClockAlignment_underClock :
    Establishes (.screen known) AreaUnderClock updateClockAlignment := by
  intro v x
  show ((alignmentUnder v.clock >>= fun alignment => do
    if v.clock = .customText then
      command (.textClockAlignment alignment)
    command (.statusAreaAlignment alignment)).run v).Ensures _ _ x
  rw [StateT.run_bind, Program.ensures_bind]
  refine (ensures_alignmentUnder v.clock v x).imp ?_
  rintro _ x ⟨⟨alignment, startPadding, rfl⟩, rfl⟩
  dsimp only
  by_cases hwords : v.clock = .customText
  · rw [if_pos hwords]
    exact ⟨trivial, fun _ _ => ⟨trivial, fun _ _ => ⟨fun _ => ⟨_, rfl, rfl⟩, absurd hwords⟩⟩⟩
  · rw [if_neg hwords]
    refine ⟨trivial, fun _ _ => ⟨fun h => absurd h hwords, fun _ => ?_⟩⟩
    exact congrArg some (alignUnder_of_ne hwords alignment startPadding)

/-! ## What ends with aligning -/

theorem updateSettings_underClock :
    Establishes (.screen known) AreaUnderClock updateSettings := by
  unfold updateSettings
  iterate 5 refine .of_last (fun _ _ => trivial) fun _ => ?_
  exact updateClockAlignment_underClock

theorem updateDateStyles_underClock :
    Establishes (.screen known) AreaUnderClock updateDateStyles := by
  unfold updateDateStyles
  iterate 4 refine .of_last (fun _ _ => trivial) fun _ => ?_
  exact updateClockAlignment_underClock

theorem updateAll_underClock : Establishes (.screen known) AreaUnderClock updateAll :=
  .of_last (fun _ _ => trivial) fun _ => updateDateStyles_underClock

/-- What belongs to the user ends with the date, whatever comes first. -/
theorem ofUser_underClock (first : Handler Unit) :
    Establishes (.screen known) AreaUnderClock (do
      first
      updateOwnerInfo
      updateLogoutView
      refreshFontsAndSizes
      updateDateStyles) := by
  iterate 4 refine .of_last (fun _ _ => trivial) fun _ => ?_
  exact updateDateStyles_underClock

theorem ensures_create_area (locale : String) (x : Screen) :
    (create locale).Ensures (.screen known) AreaUnderClock x := by
  have hsetUp : Establishes (.screen known) AreaUnderClock setUp := by
    unfold setUp
    iterate 5 refine .of_last (fun _ _ => trivial) fun _ => ?_
    exact .bind updateAll_underClock fun _ =>
      .bind (touches_refreshFormat.areaUnderClock (by simp) (by simp)) fun _ =>
        .bind (touches_updateOwnerInfo.areaUnderClock (by simp) (by simp)) fun _ =>
          touches_updateLogoutView.areaUnderClock (by simp) (by simp)
  exact ⟨trivial, fun textColor _ => (ensures_after ..).2 (hsetUp _ _)⟩

theorem handle_underClock (e : Device.Event) :
    Keeps (.screen known) AreaUnderClock (handle e) := by
  cases e with
  | visibility isShowing =>
    cases isShowing with
    | true => exact (ofUser_underClock refreshTime).keeps
    | false => exact .pure ()
  | userSwitch user => exact (ofUser_underClock refreshFormat).keeps
  | time | timeZone | wake | sleep | logoutEnabled | density | locale =>
    exact (touches_handle _).areaUnderClock (by simp [Device.Event.areas])
      (by simp [Device.Event.areas])

end View

/-- Every operation leaves the status area under the clock of the view. -/
theorem Operation.areaUnderClock (o : Operation) :
    Keeps (.screen known) View.AreaUnderClock o.handler := by
  cases o with
  | updateAll => exact View.updateAll_underClock.keeps
  | updateSettings => exact View.updateSettings_underClock.keeps
  | updateDateStyles => exact View.updateDateStyles_underClock.keeps
  | event e => exact View.handle_underClock e
  | dozeTimeTick | setDarkAmount | setPulsing | marqueeTimerFired | contentChanged | logOut
  | replay =>
    exact (Operation.touches _).areaUnderClock (by simp [Operation.areas])
      (by simp [Operation.areas])

end DeviceStatus.Lockscreen
