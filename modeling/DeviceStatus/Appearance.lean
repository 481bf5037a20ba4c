import DeviceStatus.Alignment
import DeviceStatus.Clock.Patterns
import DeviceStatus.Date.Style
import DeviceStatus.Number.Shortest
import DeviceStatus.Settings.Snapshot
import DeviceStatus.Text.Lines
import DeviceStatus.Text.Quoted
import DeviceStatus.Typeface

/-!
# The appearance of the lock screen

What the settings of a user make of the lock screen, and the text that describes it.
-/

namespace DeviceStatus

/-- What the lock screen looks like. -/
structure Appearance where
  /-- The clock. -/
  clock : Clock.Style
  /-- How the clock shows the time. -/
  refresh : Clock.Refresh
  /-- How the text under the clock is aligned. -/
  alignment : AlignmentStyle
  /-- The look of the date. -/
  date : Date.Style
  /-- The look of the date, in pixels. -/
  resolvedDate : Date.Resolved
  /-- The typeface of the date. -/
  dateTypeface : Typeface
  /-- The typeface of the owner information. -/
  ownerInfoTypeface : Typeface
  /-- The size of the owner information. -/
  ownerInfoSize : Int32

namespace Appearance

/-- The key under which the clock patterns of a locale are asked for. -/
def patternKey (resources : Resources) (locale : String) : Clock.PatternKey :=
  ⟨locale, resources.label .clock12Skeleton, resources.label .clock24Skeleton⟩

/-- The appearance for a user, given the stored settings, the resources and a generator of
patterns. -/
def of (settings : Settings.Provider) (user : Int32) (resources : Resources)
    (best : String → String → String) (locale : String) : Appearance :=
  let clock := (Clock.Style.ofSetting (settings.read .clock user)).value
  let patterns := Id.run (Clock.Patterns.compute (fun l s => pure (best l s))
    (patternKey resources locale))
  let alignment := (TextClockAlignment.ofSetting (settings.read .textClockAlignment user)).value
  let date := (Date.Style.ofSetting (settings.read .date user)).value
  { clock
    refresh := clock.refresh patterns resources.accent
    alignment := alignUnder clock alignment (resources.dimension .textClockStart)
    date
    resolvedDate := Id.run (date.resolve fun d => pure (resources.dimension d))
    dateTypeface := (Typeface.ofSetting (settings.read .dateFont user)).value
    ownerInfoTypeface := (Typeface.ofSetting (settings.read .ownerInfoFont user)).value
    ownerInfoSize := settings.read .ownerInfoSize user }

/-- The lines on how the clock shows the time. -/
def refreshLines : Clock.Refresh → List String
  | .format f =>
    ["  12 hour format: " ++ Text.quoted f.format12, "  24 hour format: " ++ Text.quoted f.format24]
  | .widget slot => ["  drawn by: " ++ slot.name]

/-- The line on the background of the date. -/
def backgroundLine (r : Date.Resolved) : String :=
  match r.background with
  | none => "  background: none"
  | some drawable =>
    let alpha := match r.backgroundAlpha with
      | some alpha => " (alpha " ++ toString alpha.toNat ++ ")"
      | none => ""
    "  background: " ++ drawable.resourceName ++ alpha ++ ", padding " ++
      toString r.horizontalPadding.toInt ++ "x" ++ toString r.verticalPadding.toInt

/-- The lines that describe an appearance. -/
def lines (a : Appearance) : List String :=
  let layout := a.clock.layout
  ["clock: " ++ a.clock.name,
   "  visible slot: " ++ layout.visible.name,
   "  anchor: " ++ layout.anchor.viewId] ++
  (match layout.lineSpacing with
    | some spacing => ["  line spacing: " ++ floatText spacing]
    | none => []) ++
  refreshLines a.refresh ++
  ["  alignment: " ++ a.alignment.gravity.name ++ ", start padding " ++
     toString a.alignment.paddingStart.toInt,
   "date: " ++ a.date.name,
   backgroundLine a.resolvedDate,
   "  text: scale " ++ floatText a.resolvedDate.textScale ++ ", bold " ++
     Text.truth a.resolvedDate.bold,
   "  typeface: " ++ a.dateTypeface.describe,
   "owner info:",
   "  typeface: " ++ a.ownerInfoTypeface.describe,
   "  size: " ++ toString a.ownerInfoSize.toInt ++ "dip"]

/-- The text that describes an appearance. -/
def describe (a : Appearance) : String := String.join (a.lines.map Text.line)

end Appearance

end DeviceStatus
