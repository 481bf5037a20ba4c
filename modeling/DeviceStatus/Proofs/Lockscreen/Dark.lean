import DeviceStatus.Proofs.Lockscreen.Footprints
import DeviceStatus.Proofs.Lockscreen.Transcripts

/-!
# What depends on the dark

The opacity of the logout button and of the owner information, whether the latter is shown, how dark
the status area is and the colour of the clock are all set together, from the fields of the view
alone. This is done whenever one of these fields changes, and the colour that the text of the clock
has by itself never does. So between operations the screen shows what the fields say
(`View.DarkShown`), and nothing of what was before.
-/

namespace DeviceStatus.Lockscreen

open Handler

/-- What depends on the dark is on the screen as the fields of the view say. -/
structure View.DarkShown (v : View) (x : Screen) : Prop where
  logoutAlpha : x.logoutAlpha = some (if v.darkAmount == 1.0 then 0.0 else 1.0)
  ownerInfo : x.ownerInfo = some v.ownerInfo
  isOwnerInfoVisible : v.isOwnerInfoVisible = hasText v.ownerInfo
  ownerInfoVisible : x.ownerInfoVisible = some (hasText v.ownerInfo)
  /-- The opacity of the owner information is set only where this is shown. -/
  ownerInfoAlpha : hasText v.ownerInfo = true → x.ownerInfoAlpha = some (1.0 - v.darkAmount)
  statusAreaDarkAmount : x.statusAreaDarkAmount = some v.darkAmount
  /-- The colour is blended from the one that the text has by itself, and not from one blended
  before. -/
  clockTextColor : x.clockTextColor = some (blend v.textColor white v.darkAmount)

/-- The text of the clock has a colour by itself. -/
def View.HasColor (color : UInt32) (v : View) (_ : Screen) : Prop := v.textColor = color

variable {α : Type} {areas : List Area} {h : Handler α} {known : (r : Request) → r.Answer → Prop}
  {color : UInt32}

/-! ## What is on the screen -/

/-- What touches neither the owner information nor the dark leaves what is shown of them. -/
theorem Handler.Touches.darkShown (hh : Touches areas h) (hownerInfo : .ownerInfo ∉ areas)
    (hdark : .dark ∉ areas) : Keeps (.screen known) View.DarkShown h := by
  refine hh.keeps_screen [.ownerInfo, .dark] (by simp [hownerInfo, hdark]) ?_
  intro v v' x x' hsame hshown
  obtain ⟨hinfo, hinfoShown, -⟩ := hsame .ownerInfo (by simp)
  obtain ⟨⟨hamount, hcolor, hvisible⟩, hvisibleShown, halpha, hlogout, hclock, -, harea⟩ :=
    hsame .dark (by simp)
  constructor
  · rw [hlogout, hamount]
    exact hshown.logoutAlpha
  · rw [hinfoShown, hinfo]
    exact hshown.ownerInfo
  · rw [hvisible, hinfo]
    exact hshown.isOwnerInfoVisible
  · rw [hvisibleShown, hinfo]
    exact hshown.ownerInfoVisible
  · rw [halpha, hinfo, hamount]
    exact hshown.ownerInfoAlpha
  · rw [harea, hamount]
    exact hshown.statusAreaDarkAmount
  · rw [hclock, hcolor, hamount]
    exact hshown.clockTextColor

namespace View

/-- The screen after all that depends on the dark has been set. -/
def inDark (v : View) (x : Screen) : Screen :=
  { x with
    logoutAlpha := some (if v.darkAmount == 1.0 then 0.0 else 1.0)
    ownerInfoVisible := some (hasText v.ownerInfo)
    ownerInfoAlpha := if hasText v.ownerInfo then some (1.0 - v.darkAmount) else x.ownerInfoAlpha
    statusAreaDarkAmount := some v.darkAmount
    clockTextColor := some (blend v.textColor white v.darkAmount) }

theorem ensures_updateDark (v : View) (x : Screen) :
    (updateDark.run v).Ensures (.screen known) (fun result x' =>
      result.2 = { v with isOwnerInfoVisible := hasText v.ownerInfo } ∧ x' = v.inDark x) x := by
  refine ⟨trivial, fun _ _ => ⟨trivial, fun _ _ => ?_⟩⟩
  unfold inDark
  cases hasText v.ownerInfo with
  | true =>
    refine ⟨trivial, fun _ _ => ⟨trivial, fun _ _ => ⟨trivial, fun _ _ => ⟨rfl, ?_⟩⟩⟩⟩
    simp only [Watch.screen, Screen.afterRequest, Screen.after, if_true]
  | false =>
    refine ⟨trivial, fun _ _ => ⟨trivial, fun _ _ => ⟨rfl, ?_⟩⟩⟩
    simp only [Watch.screen, Screen.afterRequest, Screen.after, Bool.false_eq_true, if_false]

theorem darkShown_inDark {v : View} {x : Screen} (hinfo : x.ownerInfo = some v.ownerInfo) :
    DarkShown { v with isOwnerInfoVisible := hasText v.ownerInfo } (v.inDark x) where
  logoutAlpha := rfl
  ownerInfo := hinfo
  isOwnerInfoVisible := rfl
  ownerInfoVisible := rfl
  ownerInfoAlpha := fun hvisible => if_pos hvisible
  statusAreaDarkAmount := rfl
  clockTextColor := rfl

/-- What depends on the dark is set, where the owner information is on the screen. -/
theorem updateDark_darkShown {v : View} {x : Screen} (hinfo : x.ownerInfo = some v.ownerInfo) :
    (updateDark.run v).Ensures (.screen known) (fun result x => result.2.DarkShown x) x := by
  refine (ensures_updateDark v x).imp ?_
  rintro ⟨_, _⟩ _ ⟨rfl, rfl⟩
  exact darkShown_inDark hinfo

theorem updateOwnerInfo_darkShown : Establishes (.screen known) DarkShown updateOwnerInfo := by
  unfold updateOwnerInfo
  iterate 2 refine .of_last (fun _ _ => trivial) fun _ => ?_
  exact fun v x => ⟨trivial, fun _ _ => updateDark_darkShown rfl⟩

/-- Where a new amount comes in, all that depends on it is set anew. -/
theorem setDarkAmount_darkShown (amount : Float32) :
    Keeps (.screen known) DarkShown (setDarkAmount amount) := by
  intro v x hshown
  unfold setDarkAmount
  rw [StateT.run_bind, StateT.run_get, pure_bind]
  dsimp only
  split
  · exact hshown
  · exact ⟨trivial, fun _ _ => updateDark_darkShown hshown.ownerInfo⟩

/-- What belongs to the user is shown again, after something else. -/
theorem ofUser_darkShown (first : Handler Unit) :
    Establishes (.screen known) DarkShown (do
      first
      updateOwnerInfo
      updateLogoutView
      refreshFontsAndSizes
      updateDateStyles) := by
  refine .of_last (fun _ _ => trivial) fun _ => ?_
  exact .bind updateOwnerInfo_darkShown fun _ =>
    .bind (touches_updateLogoutView.darkShown (by simp) (by simp)) fun _ =>
      .bind (touches_refreshFontsAndSizes.darkShown (by simp) (by simp)) fun _ =>
        touches_updateDateStyles.darkShown (by simp) (by simp)

theorem ensures_create_dark (locale : String) (x : Screen) :
    (create locale).Ensures (.screen known) DarkShown x := by
  have hsetUp : Establishes (.screen known) DarkShown setUp := by
    unfold setUp
    iterate 7 refine .of_last (fun _ _ => trivial) fun _ => ?_
    exact .bind updateOwnerInfo_darkShown fun _ =>
      touches_updateLogoutView.darkShown (by simp) (by simp)
  exact ⟨trivial, fun textColor _ => (ensures_after ..).2 (hsetUp _ _)⟩

theorem handle_darkShown (e : Device.Event) : Keeps (.screen known) DarkShown (handle e) := by
  cases e with
  | visibility isShowing =>
    cases isShowing with
    | true => exact (ofUser_darkShown refreshTime).keeps
    | false => exact .pure ()
  | userSwitch user => exact (ofUser_darkShown refreshFormat).keeps
  | time | timeZone | wake | sleep | logoutEnabled | density | locale =>
    exact (touches_handle _).darkShown (by simp [Device.Event.areas])
      (by simp [Device.Event.areas])

end View

/-- Every operation leaves what depends on the dark as the fields say. -/
theorem Operation.darkShown (o : Operation) : Keeps (.screen known) View.DarkShown o.handler := by
  cases o with
  | setDarkAmount amount => exact View.setDarkAmount_darkShown amount
  | event e => exact View.handle_darkShown e
  | updateAll | updateSettings | updateDateStyles | dozeTimeTick | setPulsing | marqueeTimerFired
  | contentChanged | logOut | replay =>
    exact (Operation.touches _).darkShown (by simp [Operation.areas]) (by simp [Operation.areas])

/-! ## The colour that the text has by itself -/

/-- What does not touch the dark leaves the colour of the text. -/
theorem Handler.Touches.hasColor (hh : Touches areas h) (hdark : .dark ∉ areas) :
    Keeps (.screen known) (View.HasColor color) h := by
  refine hh.keeps_screen [.dark] (by simpa using hdark) ?_
  intro v v' x x' hsame hcolor
  obtain ⟨⟨-, htext, -⟩, -⟩ := hsame .dark (by simp)
  exact htext.trans hcolor

namespace View

theorem updateDark_hasColor : Keeps (.screen known) (HasColor color) updateDark := by
  intro v x hcolor
  refine (ensures_updateDark v x).imp ?_
  rintro ⟨_, _⟩ _ ⟨rfl, -⟩
  exact hcolor

theorem updateOwnerInfo_hasColor : Keeps (.screen known) (HasColor color) updateOwnerInfo := by
  have hmodify : ∀ ownerInfo, Keeps (.screen known) (HasColor color)
      (modify fun v => { v with ownerInfo }) := fun _ _ _ hcolor => hcolor
  exact .bind ((show Touches [] _ from .fact _).hasColor (by simp)) fun user =>
    .bind ((touches_findOwnerInfo user).hasColor (by simp)) fun ownerInfo =>
      .bind ((show Touches [.ownerInfo] _ from .command (.head _)).hasColor (by simp)) fun _ =>
        .bind (hmodify ownerInfo) fun _ => updateDark_hasColor

theorem setDarkAmount_hasColor (amount : Float32) :
    Keeps (.screen known) (HasColor color) (setDarkAmount amount) := by
  intro v x hcolor
  unfold setDarkAmount
  rw [StateT.run_bind, StateT.run_get, pure_bind]
  dsimp only
  split
  · exact hcolor
  · exact ⟨trivial, fun _ _ => updateDark_hasColor _ _ hcolor⟩

theorem ofUser_hasColor {first : Handler Unit} (hfirst : Touches [.time] first) :
    Keeps (.screen known) (HasColor color) (do
      first
      updateOwnerInfo
      updateLogoutView
      refreshFontsAndSizes
      updateDateStyles) :=
  .bind (hfirst.hasColor (by simp)) fun _ => .bind updateOwnerInfo_hasColor fun _ =>
    .bind (touches_updateLogoutView.hasColor (by simp)) fun _ =>
      .bind (touches_refreshFontsAndSizes.hasColor (by simp)) fun _ =>
        touches_updateDateStyles.hasColor (by simp)

theorem setUp_hasColor : Keeps (.screen known) (HasColor color) setUp :=
  .bind (touches_loadIconMargins.hasColor (by simp)) fun _ =>
    .bind (touches_refreshFontsAndSizes.hasColor (by simp)) fun _ =>
      .bind (touches_contentChanged.hasColor (by simp)) fun _ =>
        .bind ((show Touches [] _ from .fact _).hasColor (by simp)) fun isInteractive =>
          .bind ((touches_setMarqueeEnabled isInteractive).hasColor (by simp)) fun _ =>
            .bind (touches_updateAll.hasColor (by simp)) fun _ =>
              .bind (touches_refreshFormat.hasColor (by simp)) fun _ =>
                .bind updateOwnerInfo_hasColor fun _ =>
                  touches_updateLogoutView.hasColor (by simp)

theorem handle_hasColor (e : Device.Event) : Keeps (.screen known) (HasColor color) (handle e) := by
  cases e with
  | visibility isShowing =>
    cases isShowing with
    | true => exact ofUser_hasColor touches_refreshTime
    | false => exact .pure ()
  | userSwitch user => exact ofUser_hasColor touches_refreshFormat
  | time | timeZone | wake | sleep | logoutEnabled | density | locale =>
    exact (touches_handle _).hasColor (by simp [Device.Event.areas])

end View

/-- No operation changes the colour that the text of the clock has by itself. -/
theorem Operation.hasColor (o : Operation) :
    Keeps (.screen known) (View.HasColor color) o.handler := by
  cases o with
  | setDarkAmount amount => exact View.setDarkAmount_hasColor amount
  | event e => exact View.handle_hasColor e
  | updateAll | updateSettings | updateDateStyles | dozeTimeTick | setPulsing | marqueeTimerFired
  | contentChanged | logOut | replay =>
    exact (Operation.touches _).hasColor (by simp [Operation.areas])

theorem Handler.Keeps.textColor {h : Handler α} {v v' : View} {exchanges : List Exchange}
    {value : α} (hh : Keeps (.screen fun _ _ => True) (View.HasColor v.textColor) h)
    (hruns : h.Runs v exchanges value v') : v'.textColor = v.textColor :=
  hh.runs (x := {}) hruns (fun _ _ => trivial) rfl

/-- The first thing that a view asks for is the colour that it then keeps. -/
theorem View.create_textColor {locale : String} {exchanges : List Exchange} {v : View}
    (h : (View.create locale).Reaches exchanges (.done v)) :
    ∃ later, exchanges = ⟨.query .clockTextColor, v.textColor⟩ :: later := by
  obtain ⟨color, later, rfl, hlater⟩ := Program.ask_reaches_done.1 h
  obtain ⟨_, hruns⟩ := Handler.after_reaches_done.1 hlater
  have hcolor : v.textColor = color := View.setUp_hasColor.textColor hruns
  exact ⟨later, by rw [hcolor]⟩

end DeviceStatus.Lockscreen
