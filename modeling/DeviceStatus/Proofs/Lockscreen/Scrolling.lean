import DeviceStatus.Proofs.Lockscreen.Footprints

/-!
# The scrolling of the owner information

The owner information scrolls, or is going to when the marquee timer fires, while the device is in
use (`View.ScrollsWhile`). The view is told when the device comes into use and when it goes out of
use, and only then does the scrolling begin or end; the timer only takes the view from the one state
to the other.
-/

namespace DeviceStatus

namespace Device

/-- Whether the device is in use after an event, if the event tells of this. -/
def Event.interactive? : Event → Option Bool
  | wake => some true
  | sleep _ => some false
  | time | timeZone _ | visibility _ | userSwitch _ | logoutEnabled | density | locale _ => none

end Device

namespace Lockscreen

open Device Handler

/-- Whether the device is in use is known. -/
def knowsInteractive (isInteractive : Bool) : (f : Fact) → f.Answer → Prop
  | .isInteractive => fun answer => answer = isInteractive
  | .isLogoutEnabled | .currentUser => fun _ => True

/-- The screen is watched while the device stays in use, or stays out of use. -/
abbrev Watch.interactive (isInteractive : Bool) : Watch Screen :=
  .screen (knownFacts (knowsInteractive isInteractive))

/-- The owner information scrolls or is going to exactly if the device is in use. -/
def View.ScrollsWhile (isInteractive : Bool) (v : View) (x : Screen) : Prop :=
  (v.isMarqueePending || x.ownerInfoMarquee == some true) = isInteractive

variable {α : Type} {areas : List Area} {h : Handler α} {isInteractive : Bool}

/-- What has nothing to do with the marquee leaves the scrolling as it is. -/
theorem Handler.Touches.scrollsWhile (hh : Touches areas h) (ha : .marquee ∉ areas) :
    Keeps (.interactive isInteractive) (View.ScrollsWhile isInteractive) h := by
  refine hh.keeps_screen [.marquee] (by simpa using ha) ?_
  intro v v' x x' hsame hscrolls
  obtain ⟨hview, hscreen⟩ := hsame .marquee (List.mem_singleton_self _)
  have hpending : v'.isMarqueePending = v.isMarqueePending := hview
  have hmarquee : x'.ownerInfoMarquee = x.ownerInfoMarquee := hscreen
  unfold View.ScrollsWhile
  rw [hpending, hmarquee]
  exact hscrolls

namespace View

/-- Whatever was before, the view comes to be in line with the device. -/
theorem scrollsWhile_setMarqueeEnabled :
    Establishes (.interactive isInteractive) (ScrollsWhile isInteractive)
      (setMarqueeEnabled isInteractive) := by
  intro v x
  cases isInteractive with
  | true =>
    -- the timer is pending already, or is started
    cases hpending : v.isMarqueePending with
    | true => simp [setMarqueeEnabled, ScrollsWhile, hpending]
    | false =>
      simp [setMarqueeEnabled, command, request, Program.request, ScrollsWhile, hpending,
        Watch.screen]
  | false =>
    -- the timer is not pending, or is stopped, and the order to stop comes last
    cases hpending : v.isMarqueePending <;>
      simp [setMarqueeEnabled, command, request, Program.request, ScrollsWhile, hpending,
        Watch.screen, Screen.afterRequest, Screen.after]

/-- When the timer fires, what was going to scroll scrolls. -/
theorem scrollsWhile_marqueeTimerFired :
    Keeps (.interactive isInteractive) (ScrollsWhile isInteractive) marqueeTimerFired := by
  intro v x hscrolls
  unfold ScrollsWhile at hscrolls
  cases hpending : v.isMarqueePending with
  | true =>
    obtain rfl : isInteractive = true := by simpa [hpending] using hscrolls.symm
    simp [marqueeTimerFired, command, request, Program.request, ScrollsWhile, hpending,
      Watch.screen, Screen.afterRequest, Screen.after]
  | false =>
    -- only the log is written
    rw [hpending, Bool.false_or] at hscrolls
    simp [marqueeTimerFired, request, Program.request, ScrollsWhile, hpending, Watch.screen,
      Screen.afterRequest, hscrolls]

/-- A view that is being made looks at the device before it lets anything scroll. -/
theorem scrollsWhile_setUp :
    Establishes (.interactive isInteractive) (ScrollsWhile isInteractive) setUp := by
  have hrest : Establishes (.interactive isInteractive) (ScrollsWhile isInteractive) (do
      setMarqueeEnabled isInteractive
      updateAll
      refreshFormat
      updateOwnerInfo
      updateLogoutView) :=
    .bind scrollsWhile_setMarqueeEnabled fun _ =>
      .bind (touches_updateAll.scrollsWhile (by simp)) fun _ =>
        .bind (touches_refreshFormat.scrollsWhile (by simp)) fun _ =>
          .bind (touches_updateOwnerInfo.scrollsWhile (by simp)) fun _ =>
            touches_updateLogoutView.scrollsWhile (by simp)
  unfold setUp
  iterate 3 refine .of_last (fun _ _ => trivial) fun _ => ?_
  intro v x
  refine ⟨trivial, fun answer hanswer => ?_⟩
  obtain rfl : answer = isInteractive := hanswer
  exact hrest v x

theorem ensures_create_scrollsWhile (locale : String) (x : Screen) :
    (create locale).Ensures (.interactive isInteractive) (ScrollsWhile isInteractive) x := by
  refine ⟨trivial, fun textColor _ => ?_⟩
  show (setUp.after { locale, textColor }).Ensures _ _ x
  rw [ensures_after]
  exact scrollsWhile_setUp _ _

/-- An event that tells of the device decides on the scrolling. -/
theorem scrollsWhile_handle {e : Event} (he : e.interactive? = some isInteractive) :
    Establishes (.interactive isInteractive) (ScrollsWhile isInteractive) (handle e) := by
  cases e with
  | wake | sleep why =>
    obtain rfl := Option.some.inj he
    exact scrollsWhile_setMarqueeEnabled
  | time | timeZone | visibility | userSwitch | logoutEnabled | density | locale =>
    simp [Event.interactive?] at he

end View

/-- What an operation tells the view of the device, if it tells of it, is true. -/
def Operation.agreesWith (isInteractive : Bool) : Operation → Bool
  | event e => e.interactive?.all (· == isInteractive)
  | updateAll | updateSettings | updateDateStyles | dozeTimeTick | setDarkAmount _ | setPulsing _
  | marqueeTimerFired | contentChanged | logOut | replay => true

theorem Operation.scrollsWhile {o : Operation} (ho : o.agreesWith isInteractive = true) :
    Keeps (.interactive isInteractive) (View.ScrollsWhile isInteractive) o.handler := by
  cases o with
  | marqueeTimerFired => exact View.scrollsWhile_marqueeTimerFired
  | event e =>
    cases htells : e.interactive? with
    | some told =>
      obtain rfl : told = isInteractive := by simpa [agreesWith, htells] using ho
      exact (View.scrollsWhile_handle htells).keeps
    | none =>
      refine (Operation.touches (.event e)).scrollsWhile ?_
      cases e <;> simp_all [Operation.areas, Event.areas, Area.ofUser, Event.interactive?]
  | updateAll | updateSettings | updateDateStyles | dozeTimeTick | setDarkAmount | setPulsing
  | contentChanged | logOut | replay =>
    exact (Operation.touches _).scrollsWhile (by simp [Operation.areas])

end Lockscreen

end DeviceStatus
