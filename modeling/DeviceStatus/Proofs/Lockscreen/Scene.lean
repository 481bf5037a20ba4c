import DeviceStatus.Proofs.Lockscreen.Marquee
import DeviceStatus.Proofs.Lockscreen.UserShown

/-!
# Scenes

A scene is what there is of the view: its fields, what the widgets show, and the orders that the
timer has been given. As long as the surroundings do not change, a handler takes one scene to
another (`Handler.acting`), and the scene after a sequence is that of its second part after its
first. So every refresh of the view comes down to a change of a few fields, which are listed here.
-/

namespace DeviceStatus.Lockscreen

open Handler

/-- The view, what the widgets show, and the orders to the timer. -/
structure Scene where
  view : View
  screen : Screen
  alarms : List Alarm

variable {α β : Type}

/-- What comes of a handler under fixed answers: its value, and the scene that it leaves. -/
def Handler.acting (answers : Answers) (h : Handler α) (s : Scene) : α × Scene :=
  let ((value, view), requests) := (h.run s.view).under answers
  (value, ⟨view, requests.foldl Screen.afterRequest s.screen,
    s.alarms ++ requests.filterMap Request.alarm?⟩)

variable {answers : Answers} {s : Scene}

/-- All requests are answered in the same way each time. -/
def AnsweredAs (answers : Answers) (exchanges : List Exchange) : Prop :=
  ∀ e ∈ exchanges, e.answer = answers e.request

instance (answers : Answers) (exchanges : List Exchange) :
    Decidable (AnsweredAs answers exchanges) :=
  inferInstanceAs (Decidable (∀ e ∈ exchanges, e.answer = answers e.request))

theorem Program.Reaches.under_eq {p : Program α} {exchanges : List Exchange} {value : α}
    (h : p.Reaches exchanges (.done value)) (hanswers : AnsweredAs answers exchanges) :
    p.under answers = (value, exchanges.map (·.request)) := by
  induction p generalizing exchanges with
  | done value' =>
    obtain ⟨rfl, heq⟩ := Program.reaches_done.1 h
    cases heq
    rfl
  | ask r next ih =>
    obtain ⟨answer, later, rfl, hlater⟩ := Program.ask_reaches_done.1 h
    obtain ⟨hanswer, hrest⟩ := List.forall_mem_cons.1 hanswers
    obtain rfl : answer = answers r := hanswer
    rw [Program.under, ih _ hlater hrest]
    rfl

/-- A run of a handler, as a change of the scene. -/
theorem acting_of_runs {h : Handler α} {v v' : View} {exchanges : List Exchange} {value : α}
    (hruns : h.Runs v exchanges value v') (hanswers : AnsweredAs answers exchanges) (x : Screen)
    (alarms : List Alarm) :
    acting answers h ⟨v, x, alarms⟩ =
      (value, ⟨v', x.afterExchanges exchanges,
        alarms ++ exchanges.filterMap (·.request.alarm?)⟩) := by
  have hunder : (h.run v).under answers = ((value, v'), exchanges.map (·.request)) :=
    hruns.under_eq hanswers
  simp only [acting, hunder, Screen.afterExchanges, List.foldl_map, List.filterMap_map]
  rfl

/-! ## Sequences and single steps -/

@[simp] theorem acting_bind (h : Handler α) (f : α → Handler β) (s : Scene) :
    acting answers (h >>= f) s =
      acting answers (f (acting answers h s).1) (acting answers h s).2 := by
  have hunder : ((h >>= f).run s.view).under answers = _ :=
    Program.under_bind answers (h.run s.view) fun result => (f result.1).run result.2
  rw [acting, hunder]
  simp only [acting, List.foldl_append, List.filterMap_append, List.append_assoc]

@[simp] theorem acting_pure (value : α) (s : Scene) :
    acting answers (pure value) s = (value, s) := by
  show (value, Scene.mk s.view s.screen (s.alarms ++ [])) = _
  rw [List.append_nil]

@[simp] theorem acting_map (f : α → β) (h : Handler α) (s : Scene) :
    acting answers (f <$> h) s = (f (acting answers h s).1, (acting answers h s).2) := by
  rw [map_eq_pure_bind, acting_bind, acting_pure]

@[simp] theorem acting_get (s : Scene) : acting answers get s = (s.view, s) := by
  show (s.view, Scene.mk s.view s.screen (s.alarms ++ [])) = _
  rw [List.append_nil]

@[simp] theorem acting_modify (change : View → View) (s : Scene) :
    acting answers (modify change) s = ((), { s with view := change s.view }) := by
  show ((), Scene.mk (change s.view) s.screen (s.alarms ++ [])) = _
  rw [List.append_nil]

theorem acting_request (r : Request) (s : Scene) :
    acting answers (View.request r) s =
      (answers r, ⟨s.view, s.screen.afterRequest r, s.alarms ++ r.alarm?.toList⟩) := by
  have halarm : [r].filterMap Request.alarm? = r.alarm?.toList := by
    cases h : r.alarm? <;> simp [h]
  rw [← halarm]
  rfl

@[simp] theorem acting_command (c : Command) (s : Scene) :
    acting answers (View.command c) s =
      ((), ⟨s.view, s.screen.after c, s.alarms ++ (Request.command c).alarm?.toList⟩) :=
  acting_request (.command c) s

/-- What is neither for the widgets nor for the timer leaves the scene. -/
theorem acting_aside {r : Request} (hscreen : ∀ x : Screen, x.afterRequest r = x)
    (halarm : r.alarm? = none) (s : Scene) :
    acting answers (View.request r) s = (answers r, s) := by
  rw [acting_request, hscreen, halarm]
  simp

@[simp] theorem acting_query (q : Query) (s : Scene) :
    @acting (no_index _) answers (View.query q) s = (answers (.query q), s) :=
  acting_aside (fun _ => rfl) rfl s

@[simp] theorem acting_fact (f : Fact) (s : Scene) :
    @acting (no_index _) answers (View.fact f) s = (answers (.fact f), s) :=
  acting_aside (fun _ => rfl) rfl s

@[simp] theorem acting_log (n : Notice) (s : Scene) :
    @acting (no_index _) answers (View.request (.log n)) s = ((), s) :=
  acting_aside (fun _ => rfl) rfl s

@[simp] theorem acting_userOrder (o : UserOrder) (s : Scene) :
    acting answers (View.userOrder o) s = (answers (.user o), s) :=
  acting_aside (fun _ => rfl) rfl s

namespace View

@[simp] theorem acting_choose (choice : Choice α) (s : Scene) :
    acting answers (choose choice) s = (choice.value, s) := by
  obtain ⟨value, notice⟩ := choice
  cases notice <;> simp [choose]

@[simp] theorem acting_setting (setting : Settings.Setting) (s : Scene) :
    acting answers (View.setting setting) s = (answers.setting setting, s) := by
  simp only [View.setting, acting_bind, acting_query, acting_pure, acting_fact]
  rfl

@[simp] theorem acting_chosenClock (s : Scene) :
    acting answers chosenClock s = (answers.clock, s) := by
  simp [chosenClock, Answers.clock]

@[simp] theorem acting_alignmentUnder (clock : Clock.Style) (s : Scene) :
    acting answers (alignmentUnder clock) s = (answers.alignmentUnder clock, s) := by
  simp [alignmentUnder, Answers.alignmentUnder]

@[simp] theorem acting_resolveDate (style : Date.Style) (s : Scene) :
    acting answers (style.resolve fun d => query (.dimension d)) s =
      (answers.resolved style, s) := by
  unfold Answers.resolved Date.Style.resolve
  dsimp only
  split
  · simp
  · simp

end View

/-! ## Clock and date -/

namespace Scene

variable (answers)

/-- The status area is aligned under the clock of the view, and the clock in words as well. -/
def align (s : Scene) : Scene :=
  { s with
    screen := { s.screen with
      textClockAlignment :=
        if s.view.clock = .customText then some (answers.alignmentUnder s.view.clock)
        else s.screen.textClockAlignment
      statusAreaAlignment := some (answers.alignmentUnder s.view.clock) } }

/-- The chosen clock is laid out. -/
def layOut (s : Scene) : Scene :=
  { s with
    view := { s.view with clock := answers.clock }
    screen := { s.screen with
      slotVisible := fun slot => some (decide (answers.clock.layout.visible = slot))
      anchor := some answers.clock.layout.anchor
      lineSpacing := some (answers.clock.layout.lineSpacing.getD Clock.usualLineSpacing) } }

/-- The date has the chosen look. -/
def dressDate (s : Scene) : Scene :=
  { s with
    screen := { s.screen with
      dateStyle := some (answers.date, answers.resolved answers.date) } }

/-- The clock is brought up to the present time. -/
def showTime (s : Scene) : Scene :=
  let refresh := s.view.clock.refresh (s.view.patternCache.patterns?.getD {})
    (answers (.query .accent))
  { s with
    screen := { s.screen with
      clockRefresh := some refresh
      clockFormat :=
        match refresh with
        | .format format => some format
        | .widget _ => s.screen.clockFormat } }

/-- The patterns of the locale are looked up. -/
def findPatterns (s : Scene) : Scene :=
  { s with
    view := { s.view with
      patternCache := (Id.run (s.view.patternCache.resolve
        (fun locale skeleton => pure (answers (.query (.bestPattern locale skeleton))))
        (answers.patternKey s.view.locale))).2 } }

end Scene

namespace View

theorem acting_updateClockAlignment (s : Scene) :
    acting answers updateClockAlignment s = ((), s.align answers) := by
  simp only [updateClockAlignment, acting_bind, acting_get, acting_alignmentUnder]
  split
  · next hwords =>
    simp [hwords, Scene.align, Screen.after, Request.alarm?]
  · next hother =>
    simp [hother, Scene.align, Screen.after, Request.alarm?]

theorem acting_showSlots (layout : Clock.Layout) (s : Scene) :
    acting answers (showSlots layout.slots) s =
      ((), { s with
        screen := { s.screen with
          slotVisible := fun slot => some (decide (layout.visible = slot)) } }) := by
  simp only [showSlots, Clock.Layout.slots, Clock.Slot.all, List.map, acting_bind, acting_command,
    acting_pure, Screen.after, Request.alarm?, Option.toList_none, List.append_nil]
  congr 3
  funext slot
  cases slot <;> rfl

theorem acting_updateSettings (s : Scene) :
    acting answers updateSettings s = ((), (s.layOut answers).align answers) := by
  simp [updateSettings, acting_showSlots, acting_updateClockAlignment, Scene.layOut, Screen.after,
    Request.alarm?]

theorem acting_updateDateStyles (s : Scene) :
    acting answers updateDateStyles s = ((), (s.dressDate answers).align answers) := by
  simp [updateDateStyles, acting_updateClockAlignment, Scene.dressDate, Screen.after,
    Request.alarm?, Answers.date]

theorem acting_refreshTime (s : Scene) :
    acting answers refreshTime s = ((), s.showTime answers) := by
  simp only [refreshTime, acting_bind, acting_command, acting_query, acting_get]
  split
  · next format hformat =>
    simp_all [Scene.showTime, Screen.after, Request.alarm?]
  · next slot hslot =>
    simp_all [Scene.showTime, Screen.after, Request.alarm?]

theorem acting_resolvePatterns (cache : Clock.PatternCache) (key : Clock.PatternKey) (s : Scene) :
    acting answers (cache.resolve (fun locale skeleton => query (.bestPattern locale skeleton)) key)
        s =
      (Id.run (cache.resolve
        (fun locale skeleton => pure (answers (.query (.bestPattern locale skeleton)))) key),
        s) := by
  unfold Clock.PatternCache.resolve
  dsimp only
  split
  · split
    · exact acting_pure _ s
    · simp [Clock.Patterns.compute]
  · simp [Clock.Patterns.compute]

theorem acting_refreshFormat (s : Scene) :
    acting answers refreshFormat s = ((), (s.findPatterns answers).showTime answers) := by
  simp [refreshFormat, acting_resolvePatterns, acting_refreshTime, Scene.findPatterns,
    Answers.patternKey]

end View

/-! ## The other refreshes -/

namespace Scene

variable (answers)

/-- The owner information has the chosen size. -/
def sizeOwnerInfo (s : Scene) : Scene :=
  { s with
    screen := { s.screen with
      ownerInfoTextSize := some (Float32.ofInt (answers.setting .ownerInfoSize).toInt) } }

/-- The typefaces and the size are those that are chosen. -/
def setLetters (s : Scene) : Scene :=
  { s with
    screen := { s.screen with
      dateTypeface := some (answers.typeface .dateFont)
      ownerInfoTextSize := some (Float32.ofInt (answers.setting .ownerInfoSize).toInt)
      ownerInfoTypeface := some (answers.typeface .ownerInfoFont) } }

/-- The gaps above the notification icons are loaded. -/
def loadGaps (s : Scene) : Scene :=
  { s with
    view := { s.view with
      iconMargin := answers (.query (.dimension .iconMargin))
      iconMarginWithHeader := answers (.query (.dimension .iconMarginWithHeader)) } }

/-- What depends on the dark is in line with it. -/
def darken (s : Scene) : Scene :=
  { s with
    view := { s.view with isOwnerInfoVisible := View.hasText s.view.ownerInfo }
    screen := { s.screen with
      logoutAlpha := some (if s.view.darkAmount == 1.0 then 0.0 else 1.0)
      ownerInfoVisible := some (View.hasText s.view.ownerInfo)
      ownerInfoAlpha :=
        if View.hasText s.view.ownerInfo then some (1.0 - s.view.darkAmount)
        else s.screen.ownerInfoAlpha
      statusAreaDarkAmount := some s.view.darkAmount
      clockTextColor := some (blend s.view.textColor white s.view.darkAmount) } }

/-- The owner information is that of the owner of the device or of the current user. -/
def inform (s : Scene) : Scene :=
  { s with
    view := { s.view with ownerInfo := answers.ownerInfo }
    screen := { s.screen with
      ownerInfo := some answers.ownerInfo
      ownerInfoAlignment :=
        if answers (.query .deviceOwnerInfo) = none then
          some (answers.alignmentUnder answers.clock)
        else s.screen.ownerInfoAlignment } }

/-- The amount of darkness is noted, and the clock is told. -/
def noteDark (amount : Float32) (s : Scene) : Scene :=
  { s with
    view := { s.view with darkAmount := amount }
    screen := { s.screen with clockDarkAmount := some amount } }

/-- It has become as dark as this. -/
def goDark (amount : Float32) (s : Scene) : Scene :=
  if s.view.darkAmount == amount then s else (s.noteDark amount).darken

/-- The logout button is offered or not. -/
def offerLogout (s : Scene) : Scene :=
  { s with
    view := { s.view with isLogoutVisible := answers.offersLogout }
    screen := { s.screen with
      logoutVisible := some answers.offersLogout
      logoutText := some (answers (.query (.label .logout))) } }

/-- The owner information is to scroll after a while. -/
def startMarquee (s : Scene) : Scene :=
  if s.view.isMarqueePending then s
  else
    { s with
      view := { s.view with isMarqueePending := true }
      alarms := s.alarms ++ [.scheduled] }

/-- The owner information does not scroll, and will not. -/
def stopMarquee (s : Scene) : Scene :=
  { view := { s.view with isMarqueePending := false }
    screen := { s.screen with ownerInfoMarquee := some false }
    alarms := if s.view.isMarqueePending then s.alarms ++ [.cancelled] else s.alarms }

/-- The owner information scrolls if it was to. -/
def fireMarquee (s : Scene) : Scene :=
  { s with
    view := { s.view with isMarqueePending := false }
    screen := { s.screen with
      ownerInfoMarquee :=
        if s.view.isMarqueePending then some true else s.screen.ownerInfoMarquee } }

/-- The status area has reported whether it shows a header. -/
def reportHeader (s : Scene) : Scene :=
  { s with
    view := { s.view with isShowingHeader := answers (.query .hasHeader) }
    screen := { s.screen with
      clockShowingHeader := some (answers (.query .hasHeader))
      iconsTopMargin :=
        if s.view.isShowingHeader = answers (.query .hasHeader) then s.screen.iconsTopMargin
        else
          some (if answers (.query .hasHeader) then s.view.iconMarginWithHeader
            else s.view.iconMargin) } }

end Scene

namespace View

theorem acting_refreshOwnerInfoSize (s : Scene) :
    acting answers refreshOwnerInfoSize s = ((), s.sizeOwnerInfo answers) := by
  simp [refreshOwnerInfoSize, Scene.sizeOwnerInfo, Screen.after, Request.alarm?]

theorem acting_refreshFontsAndSizes (s : Scene) :
    acting answers refreshFontsAndSizes s = ((), s.setLetters answers) := by
  simp [refreshFontsAndSizes, acting_refreshOwnerInfoSize, Scene.sizeOwnerInfo, Scene.setLetters,
    Screen.after, Request.alarm?, Answers.typeface]

theorem acting_loadIconMargins (s : Scene) :
    acting answers loadIconMargins s = ((), s.loadGaps answers) := by
  simp [loadIconMargins, Scene.loadGaps]

theorem acting_updateDark (s : Scene) : acting answers updateDark s = ((), s.darken) := by
  simp only [updateDark, acting_bind, acting_get, acting_command, acting_modify]
  split
  · next hvisible =>
    simp [hvisible, Scene.darken, Screen.after, Request.alarm?]
  · next hhidden =>
    simp [hhidden, Scene.darken, Screen.after, Request.alarm?]

theorem acting_findOwnerInfo (s : Scene) :
    acting answers (findOwnerInfo (answers (.fact .currentUser))) s =
      (answers.ownerInfo, { s with
        screen := { s.screen with
          ownerInfoAlignment :=
            if answers (.query .deviceOwnerInfo) = none then
              some (answers.alignmentUnder answers.clock)
            else s.screen.ownerInfoAlignment } }) := by
  simp only [findOwnerInfo, acting_bind, acting_query]
  cases hdevice : answers (.query .deviceOwnerInfo) with
  | some text => simp [Answers.ownerInfo, hdevice]
  | none =>
    simp only [acting_bind, acting_chosenClock, acting_alignmentUnder, acting_command,
      acting_query]
    split
    · next henabled =>
      simp [henabled, Answers.ownerInfo, hdevice, Screen.after, Request.alarm?]
    · next hdisabled =>
      simp [hdisabled, Answers.ownerInfo, hdevice, Screen.after, Request.alarm?]

theorem acting_updateOwnerInfo (s : Scene) :
    acting answers updateOwnerInfo s = ((), (s.inform answers).darken) := by
  simp [updateOwnerInfo, acting_findOwnerInfo, acting_updateDark, Scene.inform, Screen.after,
    Request.alarm?]

theorem acting_setDarkAmount (amount : Float32) (s : Scene) :
    acting answers (setDarkAmount amount) s = ((), s.goDark amount) := by
  simp only [setDarkAmount, acting_bind, acting_get]
  split
  · next hsame =>
    simp [hsame, Scene.goDark]
  · next hother =>
    simp [hother, Scene.goDark, Scene.noteDark, acting_updateDark, Screen.after, Request.alarm?]

theorem acting_updateLogoutView (s : Scene) :
    acting answers updateLogoutView s = ((), s.offerLogout answers) := by
  simp [updateLogoutView, Scene.offerLogout, Screen.after, Request.alarm?, Answers.offersLogout]

theorem acting_logOutCurrentUser (s : Scene) :
    acting answers logOutCurrentUser s = ((), s) := by
  simp only [logOutCurrentUser, logOut, acting_bind, acting_fact, acting_userOrder]
  cases answers (.user (.switchUser systemUser)) with
  | error cause => simp
  | ok =>
    simp only [acting_bind, acting_userOrder]
    cases answers (.user (.stopUser (answers (.fact .currentUser)) true)) <;> simp

theorem acting_startMarquee (s : Scene) :
    acting answers (setMarqueeEnabled true) s = ((), s.startMarquee) := by
  simp only [setMarqueeEnabled, acting_bind, acting_get, if_true]
  split
  · next hpending =>
    simp [hpending, Scene.startMarquee]
  · next hidle =>
    simp [hidle, Scene.startMarquee, Screen.after, Request.alarm?]

theorem acting_stopMarquee (s : Scene) :
    acting answers (setMarqueeEnabled false) s = ((), s.stopMarquee) := by
  obtain ⟨v, x, alarms⟩ := s
  cases hpending : v.isMarqueePending with
  | true => simp [setMarqueeEnabled, hpending, Scene.stopMarquee, Screen.after, Request.alarm?]
  | false =>
    have hsame : { v with isMarqueePending := false } = v := by rw [← hpending]
    simp [setMarqueeEnabled, hpending, hsame, Scene.stopMarquee, Screen.after, Request.alarm?]

theorem acting_marqueeTimerFired (s : Scene) :
    acting answers marqueeTimerFired s = ((), s.fireMarquee) := by
  obtain ⟨v, x, alarms⟩ := s
  cases hpending : v.isMarqueePending with
  | true => simp [marqueeTimerFired, hpending, Scene.fireMarquee, Screen.after, Request.alarm?]
  | false =>
    have hsame : { v with isMarqueePending := false } = v := by rw [← hpending]
    simp [marqueeTimerFired, hpending, hsame, Scene.fireMarquee]

theorem acting_contentChanged (s : Scene) :
    acting answers contentChanged s = ((), s.reportHeader answers) := by
  obtain ⟨v, x, alarms⟩ := s
  simp only [contentChanged, acting_bind, acting_query, acting_command, acting_get]
  split
  · next hsame =>
    have hsame : v.isShowingHeader = answers (.query .hasHeader) := by simpa using hsame
    have hkept : { v with isShowingHeader := answers (.query .hasHeader) } = v := by rw [← hsame]
    simp [hsame, hkept, Scene.reportHeader, Screen.after, Request.alarm?]
  · next hother =>
    have hother : v.isShowingHeader ≠ answers (.query .hasHeader) := by simpa using hother
    simp [hother, Scene.reportHeader, Screen.after, Request.alarm?]

end View

end DeviceStatus.Lockscreen
