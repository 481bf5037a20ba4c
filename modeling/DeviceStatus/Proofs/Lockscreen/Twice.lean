import DeviceStatus.Proofs.Lockscreen.Scene

/-!
# Once is enough

An operation that is done twice in a row, while the surroundings do not change, leaves the scene as
it was after the first time. Single changes of a scene set fields to what does not depend on them.
For two changes one after the other it is enough that the second one is of this kind and that the
first one has nothing to do behind it (`twice_of_fixed`).
-/

namespace DeviceStatus.Lockscreen

open Device Handler

variable {answers : Answers}

/-- A sequence is done once and for all if its second part is, and if its first part finds nothing
to do after both. -/
theorem twice_of_fixed (first second : Scene → Scene)
    (hsecond : ∀ s, second (second s) = second s)
    (hfixed : ∀ s, first (second (first s)) = second (first s)) (s : Scene) :
    second (first (second (first s))) = second (first s) := by
  rw [hfixed, hsecond]

/-- What can be done in either order can be done in one go, once and for all. -/
theorem twice_of_commute (first second : Scene → Scene)
    (hfirst : ∀ s, first (first s) = first s)
    (hsecond : ∀ s, second (second s) = second s)
    (hcommute : ∀ s, first (second s) = second (first s)) (s : Scene) :
    second (first (second (first s))) = second (first s) := by
  refine twice_of_fixed first second hsecond ?_ s
  intro s
  rw [hcommute, hfirst]

namespace Scene

/-! ## Clock and date -/

theorem align_align (s : Scene) : (s.align answers).align answers = s.align answers := by
  unfold align
  by_cases hwords : s.view.clock = .customText
  · simp [hwords]
  · simp [hwords]

theorem align_layOut_twice (s : Scene) :
    (((s.layOut answers).align answers).layOut answers).align answers =
      (s.layOut answers).align answers :=
  twice_of_fixed (layOut answers) (align answers) align_align (fun _ => rfl) s

theorem align_dressDate_twice (s : Scene) :
    (((s.dressDate answers).align answers).dressDate answers).align answers =
      (s.dressDate answers).align answers :=
  twice_of_fixed (dressDate answers) (align answers) align_align (fun _ => rfl) s

/-- The date is dressed in between, but the clock that is laid out is still the same. -/
theorem updateAll_twice (s : Scene) :
    let all := fun s : Scene => (((s.layOut answers).align answers).dressDate answers).align answers
    all (all s) = all s := by
  refine twice_of_fixed (fun s => (s.layOut answers).align answers)
    (fun s => (s.dressDate answers).align answers) align_dressDate_twice ?_ s
  intro s
  have hlaidOut : (((((s.layOut answers).align answers).dressDate answers).align answers).layOut
      answers) = (((s.layOut answers).align answers).dressDate answers).align answers := rfl
  rw [hlaidOut]
  exact align_align _

theorem showTime_showTime (s : Scene) :
    (s.showTime answers).showTime answers = s.showTime answers := by
  unfold showTime
  dsimp only
  cases s.view.clock.refresh (s.view.patternCache.patterns?.getD {}) (answers (.query .accent)) <;>
    rfl

/-- The patterns that have been found are found again. -/
theorem resolve_resolve (best : String → String → Id String) (cache : Clock.PatternCache)
    (key : Clock.PatternKey) :
    (Id.run ((Id.run (cache.resolve best key)).2.resolve best key)).2 =
      (Id.run (cache.resolve best key)).2 := by
  have hentry : ∃ patterns, (Id.run (cache.resolve best key)).2.entry = some (key, patterns) := by
    unfold Clock.PatternCache.resolve
    dsimp only
    split
    · next last patterns hentry =>
      split
      · next hsame => exact ⟨patterns, hsame ▸ hentry⟩
      · exact ⟨_, rfl⟩
    · exact ⟨_, rfl⟩
  obtain ⟨patterns, hentry⟩ := hentry
  generalize (Id.run (cache.resolve best key)).2 = found at hentry
  simp [Clock.PatternCache.resolve, hentry]

theorem findPatterns_findPatterns (s : Scene) :
    (s.findPatterns answers).findPatterns answers = s.findPatterns answers := by
  have hfound := resolve_resolve
    (fun locale skeleton => pure (answers (.query (.bestPattern locale skeleton))))
    s.view.patternCache (answers.patternKey s.view.locale)
  unfold findPatterns
  dsimp only
  rw [hfound]

theorem showTime_findPatterns_twice (s : Scene) :
    (((s.findPatterns answers).showTime answers).findPatterns answers).showTime answers =
      (s.findPatterns answers).showTime answers := by
  refine twice_of_fixed (findPatterns answers) (showTime answers) showTime_showTime ?_ s
  intro s
  -- the time that is shown does not matter to the patterns
  have haside : ((s.findPatterns answers).showTime answers).findPatterns answers =
      { (s.findPatterns answers).showTime answers with
        view := ((s.findPatterns answers).findPatterns answers).view } := rfl
  rw [haside, findPatterns_findPatterns]
  rfl

/-! ## What belongs to the user -/

theorem darken_darken (s : Scene) : s.darken.darken = s.darken := by
  unfold darken
  cases View.hasText s.view.ownerInfo <;> rfl

theorem darken_inform_twice (s : Scene) :
    (((s.inform answers).darken).inform answers).darken = (s.inform answers).darken := by
  refine twice_of_fixed (inform answers) darken darken_darken ?_ s
  intro s
  unfold inform
  by_cases hdevice : answers (.query .deviceOwnerInfo) = none
  · simp only [if_pos hdevice]
    rfl
  · simp only [if_neg hdevice]
    rfl

/-- What is refreshed behind the time. -/
def refreshUser (answers : Answers) (s : Scene) : Scene :=
  ((((((s.inform answers).darken).offerLogout answers).setLetters answers).dressDate
    answers).align answers)

theorem refreshUser_refreshUser (s : Scene) :
    (s.refreshUser answers).refreshUser answers = s.refreshUser answers := by
  have hletters := twice_of_commute (setLetters answers)
    (fun s => (s.dressDate answers).align answers) (fun _ => rfl) align_dressDate_twice
    (fun _ => rfl)
  have hlogout := twice_of_commute (offerLogout answers)
    (fun s => ((s.setLetters answers).dressDate answers).align answers) (fun _ => rfl) hletters
    (fun _ => rfl)
  exact twice_of_commute (fun s => (s.inform answers).darken)
    (fun s => (((s.offerLogout answers).setLetters answers).dressDate answers).align answers)
    darken_inform_twice hlogout (fun _ => rfl) s

/-- What can be done before or behind each part can be done before or behind all of them. -/
theorem commute_refreshUser (change : Scene → Scene)
    (howner : ∀ s : Scene, change ((s.inform answers).darken) =
      ((change s).inform answers).darken)
    (hlogout : ∀ s : Scene, change (s.offerLogout answers) = (change s).offerLogout answers)
    (hletters : ∀ s : Scene, change (s.setLetters answers) = (change s).setLetters answers)
    (hdate : ∀ s : Scene, change ((s.dressDate answers).align answers) =
      ((change s).dressDate answers).align answers) (s : Scene) :
    change (s.refreshUser answers) = (change s).refreshUser answers := by
  rw [refreshUser, hdate, hletters, hlogout, howner]
  rfl

theorem showTime_refreshUser (s : Scene) :
    (s.refreshUser answers).showTime answers = (s.showTime answers).refreshUser answers :=
  commute_refreshUser (showTime answers) (fun _ => rfl) (fun _ => rfl) (fun _ => rfl)
    (fun _ => rfl) s

theorem findPatterns_refreshUser (s : Scene) :
    (s.refreshUser answers).findPatterns answers = (s.findPatterns answers).refreshUser answers :=
  commute_refreshUser (findPatterns answers) (fun _ => rfl) (fun _ => rfl) (fun _ => rfl)
    (fun _ => rfl) s

/-! ## Dark, marquee and header -/

theorem goDark_goDark (amount : Float32) (s : Scene) :
    (s.goDark amount).goDark amount = s.goDark amount := by
  by_cases hsame : (s.view.darkAmount == amount) = true
  · have hgone : s.goDark amount = s := if_pos hsame
    rw [hgone, hgone]
  · have hgone : s.goDark amount = (s.noteDark amount).darken := if_neg hsame
    have htwice := twice_of_fixed (noteDark amount) darken darken_darken (fun _ => rfl) s
    rw [hgone, goDark]
    -- an amount that does not equal itself is gone to again
    split
    · rfl
    · exact htwice

theorem startMarquee_startMarquee (s : Scene) :
    s.startMarquee.startMarquee = s.startMarquee := by
  unfold startMarquee
  cases hpending : s.view.isMarqueePending <;> simp [hpending]

theorem reportHeader_reportHeader (s : Scene) :
    (s.reportHeader answers).reportHeader answers = s.reportHeader answers := by
  simp [reportHeader]

end Scene

/-! ## Operations -/

/-- Done twice in a row, every operation comes to the same as done once. -/
theorem Operation.acting_twice (answers : Answers) (o : Operation) (s : Scene) :
    (acting answers o.handler (acting answers o.handler s).2).2 =
      (acting answers o.handler s).2 := by
  cases o with
  | updateAll =>
    simp only [Operation.handler, View.updateAll, acting_bind, View.acting_updateSettings,
      View.acting_updateDateStyles]
    exact Scene.updateAll_twice s
  | updateSettings =>
    simp only [Operation.handler, View.acting_updateSettings]
    exact Scene.align_layOut_twice s
  | updateDateStyles =>
    simp only [Operation.handler, View.acting_updateDateStyles]
    exact Scene.align_dressDate_twice s
  | dozeTimeTick =>
    simp only [Operation.handler, View.dozeTimeTick, acting_bind, View.acting_refreshTime,
      acting_command, Screen.after, Request.alarm?, Option.toList_none, List.append_nil]
    exact Scene.showTime_showTime s
  | setDarkAmount amount =>
    simp only [Operation.handler, View.acting_setDarkAmount]
    exact Scene.goDark_goDark amount s
  | setPulsing isPulsing => simp [Operation.handler, View.setPulsing]
  | marqueeTimerFired => simp [Operation.handler, View.acting_marqueeTimerFired, Scene.fireMarquee]
  | contentChanged =>
    simp only [Operation.handler, View.acting_contentChanged]
    exact Scene.reportHeader_reportHeader s
  | logOut => simp [Operation.handler, View.acting_logOutCurrentUser]
  | replay => simp [Operation.handler]
  | event e =>
    cases e with
    | time =>
      simp only [Operation.handler, View.handle, View.onTime, View.acting_refreshTime]
      exact Scene.showTime_showTime s
    | timeZone zone =>
      simp [Operation.handler, View.handle, View.onTimeZone, Screen.after, Request.alarm?]
    | visibility isShowing =>
      cases isShowing with
      | true =>
        simp only [Operation.handler, View.handle, View.onVisibility, if_true, acting_bind,
          View.acting_refreshTime, View.acting_updateOwnerInfo, View.acting_updateLogoutView,
          View.acting_refreshFontsAndSizes, View.acting_updateDateStyles]
        exact twice_of_commute (Scene.showTime answers) (Scene.refreshUser answers)
          Scene.showTime_showTime Scene.refreshUser_refreshUser Scene.showTime_refreshUser s
      | false => simp [Operation.handler, View.handle, View.onVisibility]
    | wake =>
      simp only [Operation.handler, View.handle, View.onWake, View.acting_startMarquee]
      exact Scene.startMarquee_startMarquee s
    | sleep why =>
      simp [Operation.handler, View.handle, View.onSleep, View.acting_stopMarquee,
        Scene.stopMarquee]
    | userSwitch user =>
      simp only [Operation.handler, View.handle, View.onUserSwitch, acting_bind,
        View.acting_refreshFormat, View.acting_updateOwnerInfo, View.acting_updateLogoutView,
        View.acting_refreshFontsAndSizes, View.acting_updateDateStyles]
      have hcommute : ∀ s : Scene,
          (((s.refreshUser answers).findPatterns answers).showTime answers) =
            ((s.findPatterns answers).showTime answers).refreshUser answers := by
        intro s
        rw [Scene.findPatterns_refreshUser, Scene.showTime_refreshUser]
      exact twice_of_commute (fun s => (s.findPatterns answers).showTime answers)
        (Scene.refreshUser answers) Scene.showTime_findPatterns_twice Scene.refreshUser_refreshUser
        hcommute s
    | logoutEnabled =>
      simp [Operation.handler, View.handle, View.onLogoutEnabled, View.acting_updateLogoutView,
        Scene.offerLogout]
    | density =>
      simp [Operation.handler, View.handle, View.onDensity, View.acting_refreshOwnerInfoSize,
        View.acting_loadIconMargins, Scene.sizeOwnerInfo, Scene.loadGaps, Screen.after,
        Request.alarm?]
    | locale locale =>
      simp only [Operation.handler, View.handle, View.onLocale, acting_bind, acting_modify,
        View.acting_refreshFormat]
      exact twice_of_fixed (fun s => { s with view := { s.view with locale } })
        (fun s => (s.findPatterns answers).showTime answers)
        Scene.showTime_findPatterns_twice (fun _ => rfl) s

end DeviceStatus.Lockscreen
