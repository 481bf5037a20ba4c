import DeviceStatus.Lockscreen.Request

/-!
# What is on the screen

The widgets show what they were told last. The screen is the last value of everything that the
status view sets; what has not been set yet is absent. Orders that only ask a widget to do something
again leave no value behind.
-/

namespace DeviceStatus.Lockscreen

/-- The values last set. -/
structure Screen where
  /-- For each slot, whether it is shown. -/
  slotVisible : Clock.Slot → Option Bool := fun _ => none
  /-- What the status area is below. -/
  anchor : Option Clock.Anchor := none
  /-- The line spacing of the digital clock. -/
  lineSpacing : Option Float32 := none
  /-- The formats of the digital clock. -/
  clockFormat : Option Clock.Format := none
  /-- What was done last to bring a clock up to the present time. -/
  clockRefresh : Option Clock.Refresh := none
  /-- The time zone. -/
  timeZone : Option String := none
  /-- The alignment of the clock in words. -/
  textClockAlignment : Option AlignmentStyle := none
  /-- The alignment of the status area. -/
  statusAreaAlignment : Option AlignmentStyle := none
  /-- The look of the date. -/
  dateStyle : Option (Date.Style × Date.Resolved) := none
  /-- The typeface of the date. -/
  dateTypeface : Option Typeface := none
  /-- The owner information. -/
  ownerInfo : Option (Option String) := none
  /-- Whether the owner information is shown. -/
  ownerInfoVisible : Option Bool := none
  /-- The opacity of the owner information. -/
  ownerInfoAlpha : Option Float32 := none
  /-- The alignment of the owner information. -/
  ownerInfoAlignment : Option AlignmentStyle := none
  /-- The typeface of the owner information. -/
  ownerInfoTypeface : Option Typeface := none
  /-- The size of the owner information. -/
  ownerInfoTextSize : Option Float32 := none
  /-- Whether the owner information scrolls. -/
  ownerInfoMarquee : Option Bool := none
  /-- Whether the logout button is shown. -/
  logoutVisible : Option Bool := none
  /-- The text of the logout button. -/
  logoutText : Option String := none
  /-- The opacity of the logout button. -/
  logoutAlpha : Option Float32 := none
  /-- The colour of the text of the clock. -/
  clockTextColor : Option UInt32 := none
  /-- How dark the clock is. -/
  clockDarkAmount : Option Float32 := none
  /-- How dark the status area is. -/
  statusAreaDarkAmount : Option Float32 := none
  /-- Whether the clock makes room for a header. -/
  clockShowingHeader : Option Bool := none
  /-- The gap above the notification icons. -/
  iconsTopMargin : Option Int32 := none

namespace Screen

/-- The screen after an order. -/
def after (s : Screen) : Command → Screen
  | .slotVisible slot isVisible =>
    { s with
      slotVisible := fun other => if other = slot then some isVisible else s.slotVisible other }
  | .anchor anchor => { s with anchor := some anchor }
  | .lineSpacing multiplier => { s with lineSpacing := some multiplier }
  | .clockFormat format =>
    { s with clockFormat := some format, clockRefresh := some (.format format) }
  | .clockTimeChanged slot => { s with clockRefresh := some (.widget slot) }
  | .timeZone zone => { s with timeZone := some zone }
  | .textClockAlignment alignment => { s with textClockAlignment := some alignment }
  | .statusAreaAlignment alignment => { s with statusAreaAlignment := some alignment }
  | .dateStyle style resolved => { s with dateStyle := some (style, resolved) }
  | .dateTypeface typeface => { s with dateTypeface := some typeface }
  | .ownerInfo text => { s with ownerInfo := some text }
  | .ownerInfoVisible isVisible => { s with ownerInfoVisible := some isVisible }
  | .ownerInfoAlpha alpha => { s with ownerInfoAlpha := some alpha }
  | .ownerInfoAlignment alignment => { s with ownerInfoAlignment := some alignment }
  | .ownerInfoTypeface typeface => { s with ownerInfoTypeface := some typeface }
  | .ownerInfoTextSize size => { s with ownerInfoTextSize := some size }
  | .ownerInfoMarquee isScrolling => { s with ownerInfoMarquee := some isScrolling }
  | .logoutVisible isVisible => { s with logoutVisible := some isVisible }
  | .logoutText text => { s with logoutText := some text }
  | .logoutAlpha alpha => { s with logoutAlpha := some alpha }
  | .clockTextColor color => { s with clockTextColor := some color }
  | .clockDarkAmount amount => { s with clockDarkAmount := some amount }
  | .statusAreaDarkAmount amount => { s with statusAreaDarkAmount := some amount }
  | .clockShowingHeader isShowing => { s with clockShowingHeader := some isShowing }
  | .iconsTopMargin pixels => { s with iconsTopMargin := some pixels }
  | .refreshClock | .refreshClockFont | .refreshClockSize | .refreshDateSize | .refreshStatusArea
  | .scheduleMarquee _ | .cancelMarquee => s

/-- The screen after a request; only orders to the widgets change it. -/
def afterRequest (s : Screen) : Request → Screen
  | .command c => s.after c
  | _ => s

/-- The screen after requests, latest first. -/
def ofRequests : List Request → Screen
  | [] => {}
  | r :: earlier => (ofRequests earlier).afterRequest r

end Screen

end DeviceStatus.Lockscreen
