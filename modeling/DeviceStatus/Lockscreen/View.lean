import DeviceStatus.Clock.Patterns
import DeviceStatus.Color
import DeviceStatus.Lockscreen.Program

/-!
# The status view

The status view shows the clock, the date, the owner information and the logout button of the lock
screen, and keeps them in line with the settings and with the state of the device. Its operations
are programs over its fields: a `Handler` reads and changes the fields and makes requests.
-/

namespace DeviceStatus.Lockscreen

/-- What the status view remembers. -/
structure View where
  /-- The locale of the clock patterns. -/
  locale : String
  /-- The clock patterns last computed. -/
  patternCache : Clock.PatternCache := {}
  /-- The clock that is shown. -/
  clock : Clock.Style := .default
  /-- Whether a notification is being pulsed. -/
  isPulsing : Bool := false
  /-- How far the view is into dozing, from 0 to 1. -/
  darkAmount : Float32 := 0.0
  /-- The colour that the text of the clock has by itself. -/
  textColor : UInt32
  /-- The owner information. -/
  ownerInfo : Option String := none
  /-- Whether the owner information is shown. -/
  isOwnerInfoVisible : Bool := false
  /-- Whether the logout button is shown. -/
  isLogoutVisible : Bool := false
  /-- Whether the marquee timer is running. -/
  isMarqueePending : Bool := false
  /-- Whether the status area shows a header. -/
  isShowingHeader : Bool := false
  /-- The gap above the notification icons without a header. -/
  iconMargin : Int32 := 0
  /-- The gap above the notification icons under a header. -/
  iconMarginWithHeader : Int32 := 0
deriving DecidableEq

/-- A program over the fields of the status view. -/
abbrev Handler (α : Type) := StateT View Program α

/-- The fields after a program that started with given fields. -/
def Handler.after {α : Type} (h : Handler α) (v : View) : Program View := do
  let (_, v) ← h.run v
  pure v

/-- The system user, to whom logging out returns. -/
def systemUser : Int32 := 0

/-- How long after waking up the owner information starts to scroll, in milliseconds. -/
def marqueeDelay : Nat := 2000

namespace View

/-! ## Requests -/

/-- Makes a request. -/
def request (r : Request) : Handler r.Answer := StateT.lift (Program.request r)

/-- Asks about the device. -/
def fact (f : Fact) : Handler f.Answer := request (.fact f)

/-- Asks what the view is shown in. -/
def query (q : Query) : Handler q.Answer := request (.query q)

/-- Gives an order to the widgets or to the timer. -/
def command (c : Command) : Handler Unit := request (.command c)

/-- Gives an order to the user manager. -/
def userOrder (o : UserOrder) : Handler (Except String Unit) := request (.user o)

/-- Takes the meaning of a stored setting; what is to be said about it goes to the log. -/
def choose {α : Type} (choice : Choice α) : Handler α := do
  match choice.notice with
  | some notice => request (.log notice)
  | none => pure ()
  pure choice.value

/-- The value of a setting for the current user. -/
def setting (s : Settings.Setting) : Handler Int32 := do
  let user ← fact .currentUser
  let stored ← query (.setting s user)
  pure (s.orDefault stored)

/-- The clock that the current user has chosen. -/
def chosenClock : Handler Clock.Style := do
  choose (Clock.Style.ofSetting (← setting .clock))

/-! ## Clock and date -/

/-- How a text under a clock is aligned. -/
def alignmentUnder (clock : Clock.Style) : Handler AlignmentStyle := do
  let alignment ← choose (TextClockAlignment.ofSetting (← setting .textClockAlignment))
  let startPadding ← query (.dimension .textClockStart)
  pure (alignUnder clock alignment startPadding)

/-- Aligns the status area, and the clock in words if that is shown. -/
def updateClockAlignment : Handler Unit := do
  let clock := (← get).clock
  let alignment ← alignmentUnder clock
  if clock = .customText then
    command (.textClockAlignment alignment)
  command (.statusAreaAlignment alignment)

/-- Shows or hides each slot. -/
def showSlots : List (Clock.Slot × Bool) → Handler Unit
  | [] => pure ()
  | (slot, isVisible) :: rest => do
    command (.slotVisible slot isVisible)
    showSlots rest

/-- Shows the clock that is chosen, with the status area below it. -/
def updateSettings : Handler Unit := do
  let clock ← chosenClock
  modify fun v => { v with clock }
  let layout := clock.layout
  showSlots layout.slots
  command (.anchor layout.anchor)
  command (.lineSpacing (layout.lineSpacing.getD Clock.usualLineSpacing))
  updateClockAlignment

/-- Gives the date the look that is chosen. -/
def updateDateStyles : Handler Unit := do
  let style ← choose (Date.Style.ofSetting (← setting .date))
  let resolved ← style.resolve fun d => query (.dimension d)
  command (.dateStyle style resolved)
  updateClockAlignment

/-- Takes over the clock and the date that are chosen. -/
def updateAll : Handler Unit := do
  updateSettings
  updateDateStyles

/-- Brings the clock up to the present time. -/
def refreshTime : Handler Unit := do
  command .refreshClock
  let accent ← query .accent
  let v ← get
  match v.clock.refresh (v.patternCache.patterns?.getD {}) accent with
  | .format format => command (.clockFormat format)
  | .widget slot => command (.clockTimeChanged slot)

/-- Finds the clock patterns of the locale and brings the clock up to the present time. -/
def refreshFormat : Handler Unit := do
  let skeleton12 ← query (.label .clock12Skeleton)
  let skeleton24 ← query (.label .clock24Skeleton)
  let v ← get
  let (_, patternCache) ← v.patternCache.resolve
    (fun locale skeleton => query (.bestPattern locale skeleton))
    ⟨v.locale, skeleton12, skeleton24⟩
  modify fun v => { v with patternCache }
  refreshTime

/-- The time goes on while the device dozes. -/
def dozeTimeTick : Handler Unit := do
  refreshTime
  command .refreshStatusArea

/-! ## Typefaces and sizes -/

/-- Gives the owner information the size that is chosen. -/
def refreshOwnerInfoSize : Handler Unit := do
  let size ← setting .ownerInfoSize
  command (.ownerInfoTextSize (Float32.ofInt size.toInt))

/-- Takes over the typefaces and sizes that are chosen. -/
def refreshFontsAndSizes : Handler Unit := do
  command .refreshClockFont
  command (.dateTypeface (← choose (Typeface.ofSetting (← setting .dateFont))))
  command .refreshClockSize
  command .refreshDateSize
  refreshOwnerInfoSize
  command (.ownerInfoTypeface (← choose (Typeface.ofSetting (← setting .ownerInfoFont))))

/-- Loads the gaps above the notification icons. -/
def loadIconMargins : Handler Unit := do
  let iconMargin ← query (.dimension .iconMargin)
  let iconMarginWithHeader ← query (.dimension .iconMarginWithHeader)
  modify fun v => { v with iconMargin, iconMarginWithHeader }

/-! ## Owner information and the dark -/

/-- Whether there is a text to be shown. -/
def hasText (text : Option String) : Bool :=
  match text with
  | some text => !text.isEmpty
  | none => false

/-- Brings everything that depends on the dark in line with it. -/
def updateDark : Handler Unit := do
  let dark := (← get).darkAmount
  command (.logoutAlpha (if dark == 1.0 then 0.0 else 1.0))
  let isVisible := hasText (← get).ownerInfo
  modify fun v => { v with isOwnerInfoVisible := isVisible }
  command (.ownerInfoVisible isVisible)
  if isVisible then
    command (.ownerInfoAlpha (1.0 - dark))
  command (.statusAreaDarkAmount dark)
  command (.clockTextColor (blend (← get).textColor white dark))

/-- The owner information for a user: that of the owner of the device comes first. -/
def findOwnerInfo (user : Int32) : Handler (Option String) := do
  match ← query .deviceOwnerInfo with
  | some text => pure (some text)
  | none =>
    let clock ← chosenClock
    command (.ownerInfoAlignment (← alignmentUnder clock))
    if ← query (.isOwnerInfoEnabled user) then
      query (.ownerInfo user)
    else
      pure none

/-- Shows the owner information for the current user. -/
def updateOwnerInfo : Handler Unit := do
  let user ← fact .currentUser
  let ownerInfo ← findOwnerInfo user
  command (.ownerInfo ownerInfo)
  modify fun v => { v with ownerInfo }
  updateDark

/-- Goes to an amount of darkness. -/
def setDarkAmount (amount : Float32) : Handler Unit := do
  unless (← get).darkAmount == amount do
    modify fun v => { v with darkAmount := amount }
    command (.clockDarkAmount amount)
    updateDark

/-- Notes whether a notification is being pulsed. -/
def setPulsing (isPulsing : Bool) : Handler Unit := modify fun v => { v with isPulsing }

/-! ## Logging out -/

/-- Offers the logout button to users other than the system user, if users may log out. -/
def updateLogoutView : Handler Unit := do
  let isEnabled ← fact .isLogoutEnabled
  let user ← fact .currentUser
  let isVisible := isEnabled && user != systemUser
  modify fun v => { v with isLogoutVisible := isVisible }
  command (.logoutVisible isVisible)
  command (.logoutText (← query (.label .logout)))

/-- Returns to the system user, then stops a user. -/
def logOut (user : Int32) : Handler (Except Failure Unit) := do
  match ← userOrder (.switchUser systemUser) with
  | .error cause => pure (.error ⟨"Failed to switch to the system user", [cause]⟩)
  | .ok _ =>
    match ← userOrder (.stopUser user true) with
    | .error cause => pure (.error ⟨s!"Failed to stop user {user.toInt}", [cause]⟩)
    | .ok _ => pure (.ok ())

/-- Logs the current user out. A failure goes to the log. -/
def logOutCurrentUser : Handler Unit := do
  let user ← fact .currentUser
  match ← logOut user with
  | .error failure => request (.log (.logoutFailed failure))
  | .ok _ => pure ()

/-! ## Marquee -/

/-- Lets the owner information scroll after a while, or stops it at once. -/
def setMarqueeEnabled (isEnabled : Bool) : Handler Unit := do
  let isPending := (← get).isMarqueePending
  if isEnabled then
    unless isPending do
      modify fun v => { v with isMarqueePending := true }
      command (.scheduleMarquee marqueeDelay)
  else
    if isPending then
      command .cancelMarquee
      modify fun v => { v with isMarqueePending := false }
    command (.ownerInfoMarquee false)

/-- The marquee timer fires. -/
def marqueeTimerFired : Handler Unit := do
  if (← get).isMarqueePending then
    modify fun v => { v with isMarqueePending := false }
    command (.ownerInfoMarquee true)
  else
    request (.log .idleMarqueeTimer)

/-! ## Header -/

/-- The status area has gained or lost its header, or neither. -/
def contentChanged : Handler Unit := do
  let hasHeader ← query .hasHeader
  command (.clockShowingHeader hasHeader)
  let v ← get
  unless v.isShowingHeader == hasHeader do
    modify fun v => { v with isShowingHeader := hasHeader }
    command (.iconsTopMargin (if hasHeader then v.iconMarginWithHeader else v.iconMargin))

/-! ## Creation -/

/-- Brings every widget in line with the settings, for a view without a history. -/
def setUp : Handler Unit := do
  loadIconMargins
  refreshFontsAndSizes
  contentChanged
  setMarqueeEnabled (← fact .isInteractive)
  updateAll
  refreshFormat
  updateOwnerInfo
  updateLogoutView

/-- Makes a view for a locale. -/
def create (locale : String) : Program View := do
  let textColor ← Program.request (.query .clockTextColor)
  setUp.after { locale, textColor }

end View

end DeviceStatus.Lockscreen
