import DeviceStatus.Proofs.Lockscreen.Appearance

/-!
# The report on the appearance

The tool reports what the lock screen looks like, line by line, and never makes a view. A report
tells the truth about an order to the widgets if its lines on the subject of the order say the same
(`Report.Tells`). An appearance is reported by such lines for all its orders, so the tool foretells
every order about the appearance that a view gives when it is made with the same settings.
-/

namespace DeviceStatus

open Lockscreen

/-! ## Names -/

namespace Clock

theorem Style.name_injective : Function.Injective Style.name := by
  intro style style' h
  cases style <;> cases style' <;> first | rfl | exact absurd h (by decide)

theorem Slot.name_injective : Function.Injective Slot.name := by
  intro slot slot' h
  cases slot <;> cases slot' <;> first | rfl | exact absurd h (by decide)

theorem Anchor.viewId_injective : Function.Injective Anchor.viewId := by
  intro anchor anchor' h
  cases anchor <;> cases anchor' <;> first | rfl | exact absurd h (by decide)

end Clock

theorem Date.Style.name_injective : Function.Injective Date.Style.name := by
  intro style style' h
  cases style <;> cases style' <;> first | rfl | exact absurd h (by decide)

/-- Behind a key, a line names a value and no other. -/
def Names {α : Type} (line key : String) (name : α → String) (value : α) : Prop :=
  ∀ other, line = key ++ name other ↔ other = value

theorem names_of_injective {α : Type} {name : α → String} (hname : Function.Injective name)
    (key : String) (value : α) : Names (key ++ name value) key name value := by
  intro other
  rw [String.append_right_inj]
  exact ⟨fun h => (hname h).symm, fun h => congrArg name h.symm⟩

/-! ## Reports -/

/-- The lines of a report, by their subjects. -/
structure Report where
  /-- The clock. -/
  clock : String
  /-- The slot that shows the clock. -/
  visibleSlot : String
  /-- What the status area is below. -/
  anchor : String
  /-- The line spacing of the digital clock, if it is not the usual one. -/
  lineSpacing : Option String
  /-- How the clock shows the time. -/
  time : List String
  /-- How the status area is aligned. -/
  alignment : String
  /-- The date. -/
  date : String
  /-- What is behind the date. -/
  background : String
  /-- The letters of the date. -/
  dateText : String
  /-- The typeface of the date. -/
  dateTypeface : String
  /-- The typeface of the owner information. -/
  ownerInfoTypeface : String
  /-- The size of the owner information. -/
  ownerInfoSize : String

namespace Report

/-- The lines in their order, the last two under a heading. -/
def lines (r : Report) : List String :=
  [r.clock, r.visibleSlot, r.anchor] ++ r.lineSpacing.toList ++ r.time ++
    [r.alignment, r.date, r.background, r.dateText, r.dateTypeface, "owner info:",
      r.ownerInfoTypeface, r.ownerInfoSize]

/-- The text of a report. -/
def text (r : Report) : String := String.join (r.lines.map Text.line)

/-- The line on the background says what is drawn, how opaque, and how far it reaches around the
date. -/
def TellsBackground (r : Report) (resolved : Date.Resolved) : Prop :=
  (resolved.background = none → r.background = "  background: none") ∧
  ∀ drawable, resolved.background = some drawable →
    let padding := ", padding " ++ toString resolved.horizontalPadding.toInt ++ "x" ++
      toString resolved.verticalPadding.toInt
    (resolved.backgroundAlpha = none →
      r.background = "  background: " ++ drawable.resourceName ++ padding) ∧
    ∀ alpha, resolved.backgroundAlpha = some alpha →
      r.background = "  background: " ++ drawable.resourceName ++ " (alpha " ++
        toString alpha.toNat ++ ")" ++ padding

/-- What an order says, the report says of the same subject. The usual line spacing is not
reported, and the size of the owner information is reported as the integer that is stored. Of other
subjects than the appearance there is nothing to be told. -/
def Tells (r : Report) (storedSize : Int32) : Command → Prop
  | .slotVisible slot isVisible =>
    r.visibleSlot = "  visible slot: " ++ slot.name ↔ isVisible = true
  | .anchor anchor => Names r.anchor "  anchor: " Clock.Anchor.viewId anchor
  | .lineSpacing spacing =>
    r.lineSpacing = some ("  line spacing: " ++ floatText spacing) ∨
      r.lineSpacing = none ∧ spacing = 1.0
  | .clockFormat format =>
    r.time = ["  12 hour format: " ++ Text.quoted format.format12,
      "  24 hour format: " ++ Text.quoted format.format24]
  | .clockTimeChanged slot => r.time = ["  drawn by: " ++ slot.name]
  | .textClockAlignment alignment | .statusAreaAlignment alignment =>
    r.alignment = "  alignment: " ++ alignment.gravity.name ++ ", start padding " ++
      toString alignment.paddingStart.toInt
  | .dateStyle style resolved =>
    Names r.date "date: " Date.Style.name style ∧ r.TellsBackground resolved ∧
      r.dateText = "  text: scale " ++ floatText resolved.textScale ++ ", bold " ++
        Text.truth resolved.bold
  | .dateTypeface typeface => r.dateTypeface = "  typeface: " ++ typeface.describe
  | .ownerInfoTypeface typeface => r.ownerInfoTypeface = "  typeface: " ++ typeface.describe
  | .ownerInfoTextSize size =>
    size = Float32.ofInt storedSize.toInt ∧
      r.ownerInfoSize = "  size: " ++ toString storedSize.toInt ++ "dip"
  | _ => True

end Report

namespace Appearance

/-- The report on an appearance. -/
def report (a : Appearance) : Report where
  clock := "clock: " ++ a.clock.name
  visibleSlot := "  visible slot: " ++ a.clock.layout.visible.name
  anchor := "  anchor: " ++ a.clock.layout.anchor.viewId
  lineSpacing := a.clock.layout.lineSpacing.map fun spacing =>
    "  line spacing: " ++ floatText spacing
  time := refreshLines a.refresh
  alignment := "  alignment: " ++ a.alignment.gravity.name ++ ", start padding " ++
    toString a.alignment.paddingStart.toInt
  date := "date: " ++ a.date.name
  background := backgroundLine a.resolvedDate
  dateText := "  text: scale " ++ floatText a.resolvedDate.textScale ++ ", bold " ++
    Text.truth a.resolvedDate.bold
  dateTypeface := "  typeface: " ++ a.dateTypeface.describe
  ownerInfoTypeface := "  typeface: " ++ a.ownerInfoTypeface.describe
  ownerInfoSize := "  size: " ++ toString a.ownerInfoSize.toInt ++ "dip"

variable (a : Appearance)

theorem describe_eq_text : a.describe = a.report.text := by
  have hlines : a.lines = a.report.lines := by
    simp only [lines, Report.lines, report]
    cases a.clock.layout.lineSpacing <;> rfl
  rw [describe, hlines, Report.text]

/-! ## What is told of the orders -/

theorem tells_layout :
    ∀ order ∈ layoutOrders a.clock.layout, a.report.Tells a.ownerInfoSize order := by
  intro order horder
  rcases List.mem_append.1 horder with hslot | horder
  · obtain ⟨⟨slot, isVisible⟩, hmem, rfl⟩ := List.mem_map.1 hslot
    obtain ⟨slot, -, hslot⟩ := List.mem_map.1 hmem
    obtain ⟨rfl, rfl⟩ := Prod.mk.inj hslot
    show "  visible slot: " ++ a.clock.layout.visible.name = "  visible slot: " ++ slot.name ↔ _
    rw [String.append_right_inj, Clock.Slot.name_injective.eq_iff, decide_eq_true_iff]
  · simp only [List.mem_cons, List.not_mem_nil, or_false] at horder
    rcases horder with rfl | rfl
    · exact names_of_injective Clock.Anchor.viewId_injective _ _
    · show a.report.lineSpacing = some _ ∨ a.report.lineSpacing = none ∧ _
      unfold report
      cases a.clock.layout.lineSpacing with
      | some spacing => exact .inl rfl
      | none => exact .inr ⟨rfl, rfl⟩

theorem tells_alignment :
    ∀ order ∈ alignmentOrders a.clock a.alignment, a.report.Tells a.ownerInfoSize order := by
  intro order horder
  obtain ⟨-, rfl⟩ | rfl : a.clock = .customText ∧ order = .textClockAlignment a.alignment ∨
      order = .statusAreaAlignment a.alignment := by
    simpa [alignmentOrders] using horder
  · rfl
  · rfl

theorem tells_letters :
    ∀ order ∈ letterOrders a.dateTypeface a.ownerInfoTypeface a.ownerInfoSize,
      a.report.Tells a.ownerInfoSize order := by
  intro order horder
  simp only [letterOrders, List.mem_cons, List.not_mem_nil, or_false] at horder
  rcases horder with rfl | rfl | rfl
  · rfl
  · exact ⟨rfl, rfl⟩
  · rfl

theorem tells_date : a.report.Tells a.ownerInfoSize (.dateStyle a.date a.resolvedDate) := by
  refine ⟨names_of_injective Date.Style.name_injective _ _, ⟨?_, ?_⟩, rfl⟩
  · intro hnone
    show backgroundLine a.resolvedDate = _
    rw [backgroundLine, hnone]
  · intro drawable hdrawable padding
    have hline : a.report.background = backgroundLine a.resolvedDate := rfl
    simp only [backgroundLine, hdrawable] at hline
    constructor
    · intro hopaque
      rw [hline, hopaque]
      simp only [padding, String.append_assoc, String.append_empty]
    · intro alpha halpha
      rw [hline, halpha]
      simp only [padding, String.append_assoc]

theorem tells_refresh : a.report.Tells a.ownerInfoSize (.ofRefresh a.refresh) := by
  have htime : a.report.time = refreshLines a.refresh := rfl
  cases hrefresh : a.refresh with
  | format format =>
    rw [hrefresh] at htime
    exact htime
  | widget slot =>
    rw [hrefresh] at htime
    exact htime

/-- The report tells of all orders that give a new view its appearance. -/
theorem tells_orders : ∀ order ∈ a.orders, a.report.Tells a.ownerInfoSize order := by
  intro order horder
  simp only [orders, List.mem_append, List.mem_cons, List.not_mem_nil, or_false] at horder
  obtain ((hletters | hlayout | halignment) | rfl | halignment) | rfl := horder
  · exact a.tells_letters order hletters
  · exact a.tells_layout order hlayout
  · exact a.tells_alignment order halignment
  · exact a.tells_date
  · exact a.tells_alignment order halignment
  · exact a.tells_refresh

end Appearance

namespace Tool

/-- The tool and the view agree. For all settings, whatever text the tool prints for a user and a
locale is a report: it names the clock of any view that is made for the same locale while the user
is the current one, with the same settings and with the resources and the generator of the tool, and
it tells of every order about the appearance that such a view gives; what these orders are is
settled by the settings alone. The command prints this text and nothing else, unless the snapshot
cannot be loaded. -/
theorem styles_foretell_new_view :
    (∀ (settings : Settings.Provider) (user : Int32) (locale : String), ∃ report : Report,
      stylesText settings user locale = report.text ∧
      ∀ others : Answers,
        let made := (View.create locale).under (others.forUser user settings .fixed generator)
        Names report.clock "clock: " Clock.Style.name made.1.clock ∧
          (∀ order ∈ appearanceOrders made.2,
            report.Tells (settings.read .ownerInfoSize user) order) ∧
          appearanceOrders made.2 = (Appearance.of settings user .fixed generator locale).orders) ∧
    ∀ request : StylesRequest, styles request =
      match request.snapshot with
      | .ok snapshot => ⟨0, stylesText snapshot.provider request.user request.locale, ""⟩
      | .error failure => ⟨1, "", Text.line failure.report⟩ := by
  constructor
  · intro settings user locale
    let a : Appearance := .of settings user .fixed generator locale
    refine ⟨a.report, a.describe_eq_text, ?_⟩
    intro others made
    obtain ⟨hclock, horders⟩ : made.1.clock = a.clock ∧ appearanceOrders made.2 = a.orders := by
      have hnew := @View.under_create (others.forUser user settings .fixed generator) locale
      rwa [Answers.appearance_forUser] at hnew
    refine ⟨?_, ?_, horders⟩
    · rw [hclock]
      exact names_of_injective Clock.Style.name_injective _ _
    · rw [horders]
      exact a.tells_orders
  · intro request
    unfold styles describeStyles
    cases request.snapshot <;> rfl

/-- The report for a clock and a date in the accent colour, and orders that it tells of. -/
theorem styles_foretell_new_view_accent :
    let s : Settings.Snapshot :=
      ⟨(Settings.Table.empty.insert "lockscreen_clock_selection" 7).insert
          "lockscreen_date_selection" 6,
        (Settings.Table.empty.insert "lock_date_fonts" 2).insert "lockowner_font_size" 21⟩
    let octets := Utf8.encode
      ("\x7b\"secure\": " ++
        "\x7b\"lockscreen_clock_selection\": 7, \"lockscreen_date_selection\": 6\x7d, " ++
        "\"system\": \x7b\"lock_date_fonts\": 2, \"lockowner_font_size\": 21\x7d\x7d")
    let printed :=
      "clock: SammyMinuteAccent\n  visible slot: SmallClock\n  anchor: clock_view\n" ++
        "  line spacing: 0.8\n  12 hour format: \"hh<br><font color=#1a73e8>mm</font>\"\n" ++
        "  24 hour format: \"kk<br><font color=#1a73e8>mm</font>\"\n" ++
        "  alignment: Center, start padding 0\ndate: TranslucentAccent\n" ++
        "  background: date_str_accent (alpha 160), padding 16x6\n" ++
        "  text: scale 0.15, bold true\n  typeface: sans-serif (Italic)\nowner info:\n" ++
        "  typeface: google-sans (Normal)\n  size: 21dip\n"
    let given : List Command :=
      [.dateTypeface ⟨"sans-serif", .italic⟩, .ownerInfoTextSize 21,
        .ownerInfoTypeface ⟨"google-sans", .normal⟩, .slotVisible .smallClock true,
        .slotVisible .textClock false, .anchor .clock, .lineSpacing 0.8,
        .dateStyle .translucentAccent ⟨some .accent, some 160, 16, 6, 0.15, true⟩,
        .statusAreaAlignment ⟨.center, 0⟩,
        .clockFormat ⟨"hh<br><font color=#1a73e8>mm</font>", "kk<br><font color=#1a73e8>mm</font>"⟩]
    styles ⟨some ⟨"settings.json", .ok octets⟩, 10, "de_DE"⟩ = ⟨0, printed, ""⟩ ∧
      ∃ report : Report, report.text = printed ∧ ∀ others : Answers,
        let made := (View.create "de_DE").under (others.forUser 10 s.provider .fixed generator)
        made.1.clock = .sammyMinuteAccent ∧
          ∀ order ∈ given, order ∈ appearanceOrders made.2 ∧ report.Tells 21 order := by
  intro s octets printed given
  have hprinted : stylesText s.provider 10 "de_DE" = printed := by decide +kernel
  have hclock :
      (Appearance.of s.provider 10 .fixed generator "de_DE").clock = .sammyMinuteAccent := by
    decide +kernel
  have hgiven : ∀ order ∈ given,
      order ∈ (Appearance.of s.provider 10 .fixed generator "de_DE").orders := by
    decide +kernel
  obtain ⟨report, htext, htells⟩ := styles_foretell_new_view.1 s.provider 10 "de_DE"
  refine ⟨by decide +kernel, report, htext.symm.trans hprinted, fun others => ?_⟩
  obtain ⟨-, hall, horders⟩ := htells others
  refine ⟨?_, fun order horder => ?_⟩
  · exact (View.under_create "de_DE").1.trans hclock
  · have hmem := horders ▸ hgiven order horder
    exact ⟨hmem, hall order hmem⟩

end Tool

end DeviceStatus
