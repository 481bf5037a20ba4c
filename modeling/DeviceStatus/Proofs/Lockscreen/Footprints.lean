import DeviceStatus.Proofs.Lockscreen.Areas

/-!
# What each operation touches

Every operation of the view with the areas that it touches. The parts of the operations come first,
each with the fewest areas that hold it.
-/

namespace DeviceStatus

namespace Lockscreen

open Device Handler

namespace View

/-! ## Questions -/

theorem touches_choose {α : Type} {found : Option α} {default : α} {notice : Notice}
    (hnotice : notice.area = none) : Touches [] (choose (.ofOption found default notice)) := by
  cases found with
  | some value => exact .pure value
  | none =>
    refine .bind (.request ?_) fun _ => .pure default
    simp [Request.area, hnotice]

theorem touches_setting (s : Settings.Setting) : Touches [] (setting s) :=
  .bind (.fact _) fun _ => .bind (.query _) fun _ => .pure _

theorem touches_chosenClock : Touches [] chosenClock :=
  .bind (touches_setting _) fun _ => touches_choose rfl

theorem touches_alignmentUnder (clock : Clock.Style) : Touches [] (alignmentUnder clock) :=
  .bind (touches_setting _) fun _ => .bind (touches_choose rfl) fun _ =>
    .bind (.query _) fun _ => .pure _

theorem touches_resolveDate (style : Date.Style) :
    Touches [] (style.resolve fun d => query (.dimension d)) := by
  unfold Date.Style.resolve
  dsimp only
  split
  · exact .bind (.query _) fun _ => .bind (.query _) fun _ => .pure _
  · exact .pure _

theorem touches_resolvePatterns (cache : Clock.PatternCache) (key : Clock.PatternKey) :
    Touches []
      (cache.resolve (fun locale skeleton => query (.bestPattern locale skeleton)) key) := by
  have hcompute : Touches []
      (Clock.Patterns.compute (fun locale skeleton => query (.bestPattern locale skeleton)) key) :=
    .bind (.query _) fun _ => .bind (.query _) fun _ => .pure _
  unfold Clock.PatternCache.resolve
  dsimp only
  split
  · split
    · exact .pure _
    · exact .bind hcompute fun _ => .pure _
  · exact .bind hcompute fun _ => .pure _

/-! ## Clock and date -/

theorem touches_updateClockAlignment : Touches [.alignment] updateClockAlignment := by
  refine .bind .get fun v => .bind (touches_alignmentUnder _).any fun alignment => ?_
  dsimp only
  split
  · exact .bind (.command (.head _)) fun _ => .command (.head _)
  · exact .command (.head _)

theorem touches_showSlots (slots : List (Clock.Slot × Bool)) :
    Touches [.layout] (showSlots slots) := by
  induction slots with
  | nil => exact .pure ()
  | cons slot slots ih => exact .bind (.command (.head _)) fun _ => ih

theorem touches_updateSettings : Touches [.layout, .alignment] updateSettings := by
  refine .bind touches_chosenClock.any fun clock => .bind (.modify ?_) fun _ =>
    .bind ((touches_showSlots _).mono (by simp)) fun _ => .bind (.command (.head _)) fun _ =>
      .bind (.command (.head _)) fun _ => touches_updateClockAlignment.mono (by simp)
  intro v a ha
  cases a <;> simp_all [SameIn]

theorem touches_updateDateStyles : Touches [.alignment, .date] updateDateStyles :=
  .bind (touches_setting _).any fun _ => .bind (touches_choose rfl).any fun _ =>
    .bind (touches_resolveDate _).any fun _ => .bind (.command (.tail _ (.head _))) fun _ =>
      touches_updateClockAlignment.mono (by simp)

theorem touches_updateAll : Touches [.layout, .alignment, .date] updateAll :=
  .bind (touches_updateSettings.mono (by simp)) fun _ => touches_updateDateStyles.mono (by simp)

theorem touches_refreshTime : Touches [.time] refreshTime := by
  refine .bind (.command (.head _)) fun _ => .bind (.query _) fun _ => .bind .get fun v => ?_
  split
  · exact .command (.head _)
  · exact .command (.head _)

theorem touches_refreshFormat : Touches [.time] refreshFormat := by
  refine .bind (.query _) fun _ => .bind (.query _) fun _ => .bind .get fun v =>
    .bind (touches_resolvePatterns _ _).any fun result => .bind (.modify ?_) fun _ =>
      touches_refreshTime
  intro v a ha
  cases a <;> simp_all [SameIn]

theorem touches_dozeTimeTick : Touches [.time, .content] dozeTimeTick :=
  .bind (touches_refreshTime.mono (by simp)) fun _ => .command (.tail _ (.head _))

/-! ## Typefaces and sizes -/

theorem touches_refreshOwnerInfoSize : Touches [.letters] refreshOwnerInfoSize :=
  .bind (touches_setting _).any fun _ => .command (.head _)

theorem touches_refreshFontsAndSizes : Touches [.letters] refreshFontsAndSizes :=
  .bind (.command (.head _)) fun _ => .bind (touches_setting _).any fun _ =>
    .bind (touches_choose rfl).any fun _ => .bind (.command (.head _)) fun _ =>
      .bind (.command (.head _)) fun _ => .bind (.command (.head _)) fun _ =>
        .bind touches_refreshOwnerInfoSize fun _ => .bind (touches_setting _).any fun _ =>
          .bind (touches_choose rfl).any fun _ => .command (.head _)

/-! ## Owner information and the dark -/

theorem touches_updateDark : Touches [.dark] updateDark := by
  refine .bind .get fun v => .bind (.command (.head _)) fun _ => .bind .get fun v' =>
    .bind (.modify ?_) fun _ => .bind (.command (.head _)) fun _ => ?_
  · intro v a ha
    cases a <;> simp_all [SameIn]
  · have hrest : Touches [.dark] (do
        command (.statusAreaDarkAmount v.darkAmount)
        command (.clockTextColor (blend (← get).textColor white v.darkAmount))) :=
      .bind (.command (.head _)) fun _ => .bind .get fun _ => .command (.head _)
    dsimp only
    split
    · exact .bind (.command (.head _)) fun _ => hrest
    · exact hrest

theorem touches_findOwnerInfo (user : Int32) : Touches [.ownerInfo] (findOwnerInfo user) := by
  refine .bind (.query _) fun text => ?_
  cases text with
  | some text => exact .pure _
  | none =>
    refine .bind touches_chosenClock.any fun clock => .bind (touches_alignmentUnder _).any fun _ =>
      .bind (.command (.head _)) fun _ => .bind (.query _) fun isEnabled => ?_
    split
    · exact .query _
    · exact .pure _

theorem touches_updateOwnerInfo : Touches [.ownerInfo, .dark] updateOwnerInfo := by
  refine .bind (.fact _) fun user => .bind ((touches_findOwnerInfo _).mono (by simp)) fun text =>
    .bind (.command (.head _)) fun _ => .bind (.modify ?_) fun _ =>
      touches_updateDark.mono (by simp)
  intro v a ha
  cases a <;> simp_all [SameIn]

theorem touches_setDarkAmount (amount : Float32) : Touches [.dark] (setDarkAmount amount) := by
  refine .bind .get fun v => ?_
  split
  · exact .pure _
  · refine .bind (.modify ?_) fun _ => .bind (.command (.head _)) fun _ => touches_updateDark
    intro v a ha
    cases a <;> simp_all [SameIn]

/-! ## Logout, marquee and header -/

theorem touches_setPulsing (isPulsing : Bool) : Touches [.pulse] (setPulsing isPulsing) := by
  refine .modify ?_
  intro v a ha
  cases a <;> simp_all [SameIn]

theorem touches_updateLogoutView : Touches [.logout] updateLogoutView := by
  refine .bind (.fact _) fun isEnabled => .bind (.fact _) fun user => .bind (.modify ?_) fun _ =>
    .bind (.command (.head _)) fun _ => .bind (.query _) fun _ => .command (.head _)
  intro v a ha
  cases a <;> simp_all [SameIn]

theorem touches_userOrder (o : UserOrder) : Touches [.users] (userOrder o) :=
  .request (by simp [Request.area])

theorem touches_logOut (user : Int32) : Touches [.users] (logOut user) := by
  refine .bind (touches_userOrder _) fun outcome => ?_
  cases outcome with
  | error cause => exact .pure _
  | ok =>
    refine .bind (touches_userOrder _) fun outcome => ?_
    cases outcome <;> exact .pure _

theorem touches_logOutCurrentUser : Touches [.users] logOutCurrentUser := by
  refine .bind (.fact _) fun user => .bind (touches_logOut user) fun outcome => ?_
  cases outcome with
  | error failure => exact .request (by simp [Request.area, Notice.area])
  | ok => exact .pure _

theorem touches_setMarqueeEnabled (isEnabled : Bool) :
    Touches [.marquee] (setMarqueeEnabled isEnabled) := by
  have hpending : ∀ isPending : Bool,
      Touches [.marquee] (modify fun v => { v with isMarqueePending := isPending }) := by
    intro isPending
    refine .modify ?_
    intro v a ha
    cases a <;> simp_all [SameIn]
  refine .bind .get fun v => ?_
  dsimp only
  split
  · split
    · exact .pure _
    · exact .bind (hpending true) fun _ => .command (.head _)
  · split
    · exact .bind (.command (.head _)) fun _ => .bind (hpending false) fun _ => .command (.head _)
    · exact .command (.head _)

theorem touches_marqueeTimerFired : Touches [.marquee] marqueeTimerFired := by
  refine .bind .get fun v => ?_
  split
  · refine .bind (.modify ?_) fun _ => .command (.head _)
    intro v a ha
    cases a <;> simp_all [SameIn]
  · exact .request (by simp [Request.area, Notice.area])

theorem touches_contentChanged : Touches [.header] contentChanged := by
  refine .bind (.query _) fun hasHeader => .bind (.command (.head _)) fun _ =>
    .bind .get fun v => ?_
  split
  · exact .pure _
  · refine .bind (.modify ?_) fun _ => .command (.head _)
    intro v a ha
    cases a <;> simp_all [SameIn]

theorem touches_loadIconMargins : Touches [.header] loadIconMargins := by
  refine .bind (.query _) fun _ => .bind (.query _) fun _ => .modify ?_
  intro v a ha
  cases a <;> simp_all [SameIn]

end View

/-! ## Operations -/

/-- The areas that the view touches when everything that depends on the user is shown again. -/
def Area.ofUser : List Area := [.time, .ownerInfo, .dark, .logout, .letters, .alignment, .date]

end Lockscreen

/-- The areas that the view touches on an event. -/
def Device.Event.areas : Device.Event → List Lockscreen.Area
  | time | locale _ => [.time]
  | timeZone _ => [.zone]
  | visibility _ | userSwitch _ => Lockscreen.Area.ofUser
  | wake | sleep _ => [.marquee]
  | logoutEnabled => [.logout]
  | density => [.letters, .header]

namespace Lockscreen

open Device Handler

/-- The areas that an operation touches. -/
def Operation.areas : Operation → List Area
  | updateAll => [.layout, .alignment, .date]
  | updateSettings => [.layout, .alignment]
  | updateDateStyles => [.alignment, .date]
  | dozeTimeTick => [.time, .content]
  | setDarkAmount _ => [.dark]
  | setPulsing _ => [.pulse]
  | marqueeTimerFired => [.marquee]
  | contentChanged => [.header]
  | logOut => [.users]
  | replay => []
  | event e => e.areas

namespace View

/-- What belongs to the user is shown again, after the time. -/
theorem touches_ofUser {first : Handler Unit} (hfirst : Touches [.time] first) :
    Touches Area.ofUser (do
      first
      updateOwnerInfo
      updateLogoutView
      refreshFontsAndSizes
      updateDateStyles) :=
  .bind (hfirst.mono (by simp [Area.ofUser])) fun _ =>
    .bind (touches_updateOwnerInfo.mono (by simp [Area.ofUser])) fun _ =>
      .bind (touches_updateLogoutView.mono (by simp [Area.ofUser])) fun _ =>
        .bind (touches_refreshFontsAndSizes.mono (by simp [Area.ofUser])) fun _ =>
          touches_updateDateStyles.mono (by simp [Area.ofUser])

theorem touches_handle (e : Event) : Touches (e.areas) (handle e) := by
  cases e with
  | time => exact touches_refreshTime
  | timeZone zone => exact .command (.head _)
  | visibility isShowing =>
    cases isShowing with
    | true => exact touches_ofUser touches_refreshTime
    | false => exact .pure ()
  | wake => exact touches_setMarqueeEnabled true
  | sleep why => exact touches_setMarqueeEnabled false
  | userSwitch user => exact touches_ofUser touches_refreshFormat
  | logoutEnabled => exact touches_updateLogoutView
  | density =>
    exact .bind (.command (.head _)) fun _ =>
      .bind (touches_refreshOwnerInfoSize.mono (by simp [Event.areas])) fun _ =>
        touches_loadIconMargins.mono (by simp [Event.areas])
  | locale locale =>
    refine .bind (.modify ?_) fun _ => touches_refreshFormat
    intro v a ha
    cases a <;> simp_all [SameIn, Event.areas]

end View

/-- Every operation touches its areas only. -/
theorem Operation.touches (o : Operation) : Touches o.areas o.handler := by
  cases o with
  | updateAll => exact View.touches_updateAll
  | updateSettings => exact View.touches_updateSettings
  | updateDateStyles => exact View.touches_updateDateStyles
  | dozeTimeTick => exact View.touches_dozeTimeTick
  | setDarkAmount amount => exact View.touches_setDarkAmount amount
  | setPulsing isPulsing => exact View.touches_setPulsing isPulsing
  | marqueeTimerFired => exact View.touches_marqueeTimerFired
  | contentChanged => exact View.touches_contentChanged
  | logOut => exact View.touches_logOutCurrentUser
  | replay => exact .pure ()
  | event e => exact View.touches_handle e

end Lockscreen

end DeviceStatus
