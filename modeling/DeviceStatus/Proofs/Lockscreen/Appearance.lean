import DeviceStatus.Proofs.Lockscreen.ClockFace
import DeviceStatus.Proofs.Lockscreen.CurrentUser
import DeviceStatus.Tool.Styles

/-!
# The appearance of a new view

A view that is made under fixed answers gives its orders about the appearance in a known order
(`Appearance.orders`). The rest of the creation is silent about the appearance: it has areas of its
own. So what a new view looks like is worked out from the settings, the resources and the generator
of patterns in the same way as the tool works it out, and the tool can foretell it.
-/

namespace DeviceStatus

namespace Lockscreen

/-- Whether an order is about the appearance. -/
def Command.isOfAppearance : Command → Bool
  | slotVisible .. | anchor _ | lineSpacing _ | clockFormat _ | clockTimeChanged _
  | textClockAlignment _ | statusAreaAlignment _ | dateStyle .. | dateTypeface _
  | ownerInfoTypeface _ | ownerInfoTextSize _ => true
  | refreshClock | timeZone _ | refreshClockFont | refreshClockSize | refreshDateSize | ownerInfo _
  | ownerInfoVisible _ | ownerInfoAlpha _ | ownerInfoAlignment _ | ownerInfoMarquee _
  | logoutVisible _ | logoutText _ | logoutAlpha _ | clockTextColor _ | clockDarkAmount _
  | statusAreaDarkAmount _ | clockShowingHeader _ | iconsTopMargin _ | refreshStatusArea
  | scheduleMarquee _ | cancelMarquee => false

/-- The order about the appearance, if a request is one. -/
def Request.appearance? : Request → Option Command
  | command c => if c.isOfAppearance then some c else none
  | fact _ | query _ | user _ | log _ => none

/-- The orders about the appearance among requests. -/
def appearanceOrders (requests : List Request) : List Command := requests.filterMap (·.appearance?)

theorem appearanceOrders_append (first second : List Request) :
    appearanceOrders (first ++ second) = appearanceOrders first ++ appearanceOrders second :=
  List.filterMap_append

/-- The areas of the appearance. -/
def Area.ofAppearance : List Area := [.layout, .time, .letters, .alignment, .date]

theorem Request.appearance?_eq_none {r : Request} (hr : ∀ a ∈ Area.ofAppearance, r.area ≠ some a) :
    r.appearance? = none := by
  cases r with
  | fact | query | user | log => rfl
  | command c =>
    have harea : c.area ∉ Area.ofAppearance := fun hmem => hr _ hmem rfl
    have hc : c.isOfAppearance = false := by
      cases c <;> first
        | rfl
        | simp [Command.area, Area.ofAppearance] at harea
    simp [appearance?, hc]

end Lockscreen

namespace Lockscreen

/-- The orders that show some slots and hide others. -/
def slotOrders (slots : List (Clock.Slot × Bool)) : List Command :=
  slots.map fun (slot, isVisible) => .slotVisible slot isVisible

/-- The orders that align the status area, and the clock in words if it is shown. -/
def alignmentOrders (clock : Clock.Style) (alignment : AlignmentStyle) : List Command :=
  (if clock = .customText then [.textClockAlignment alignment] else []) ++
    [.statusAreaAlignment alignment]

/-- The orders that give the date and the owner information their letters. -/
def letterOrders (dateTypeface ownerInfoTypeface : Typeface) (ownerInfoSize : Int32) :
    List Command :=
  [.dateTypeface dateTypeface, .ownerInfoTextSize (Float32.ofInt ownerInfoSize.toInt),
    .ownerInfoTypeface ownerInfoTypeface]

/-- The orders that lay out a clock. -/
def layoutOrders (layout : Clock.Layout) : List Command :=
  slotOrders layout.slots ++
    [.anchor layout.anchor, .lineSpacing (layout.lineSpacing.getD Clock.usualLineSpacing)]

end Lockscreen

/-- The orders that give a new view its appearance. The status area is aligned twice: with the clock
and with the date. -/
def Appearance.orders (a : Appearance) : List Lockscreen.Command :=
  Lockscreen.letterOrders a.dateTypeface a.ownerInfoTypeface a.ownerInfoSize ++
  (Lockscreen.layoutOrders a.clock.layout ++ Lockscreen.alignmentOrders a.clock a.alignment) ++
  (.dateStyle a.date a.resolvedDate :: Lockscreen.alignmentOrders a.clock a.alignment) ++
  [.ofRefresh a.refresh]

namespace Lockscreen

open Handler

variable {α β : Type} {answers : Answers} {v v' : View}

/-! ## What a handler sends -/

theorem View.SameFace.trans {v₁ v₂ v₃ : View} (h : v₁.SameFace v₂) (h' : v₂.SameFace v₃) :
    v₁.SameFace v₃ :=
  ⟨h'.clock.trans h.clock, h'.locale.trans h.locale, h'.patternCache.trans h.patternCache⟩

namespace Handler

/-- Under fixed answers a handler gives orders about the appearance and ends with a value, if it
starts with the clock and the patterns of one view; and it leaves those of another. -/
def Sends (answers : Answers) (h : Handler α) (v : View) (orders : List Command) (value : α)
    (v' : View) : Prop :=
  ∀ u, v.SameFace u →
    ((h.run u).under answers).1.1 = value ∧ v'.SameFace ((h.run u).under answers).1.2 ∧
      appearanceOrders ((h.run u).under answers).2 = orders

variable {h : Handler α} {f : α → Handler β} {first second : List Command}

theorem Sends.bind {v₁ : View} {a : α} {b : β} (hh : Sends answers h v first a v₁)
    (hf : Sends answers (f a) v₁ second b v') :
    Sends answers (h >>= f) v (first ++ second) b v' := by
  intro u hu
  have hrun : (h >>= f).run u = (h.run u).bind fun result => (f result.1).run result.2 :=
    StateT.run_bind ..
  obtain ⟨hvalue, hface, horders⟩ := hh u hu
  obtain ⟨hvalue', hface', horders'⟩ := hf _ hface
  rw [hrun, Program.under_bind, hvalue, appearanceOrders_append, horders, horders']
  exact ⟨hvalue', hface', rfl⟩

theorem Sends.pure (value : α) : Sends answers (pure value) v [] value v :=
  fun _ hu => ⟨rfl, hu, rfl⟩

theorem Sends.request (r : Request) :
    Sends answers (View.request r) v r.appearance?.toList (answers r) v := by
  intro u hu
  refine ⟨rfl, hu, ?_⟩
  show appearanceOrders [r] = r.appearance?.toList
  cases hr : r.appearance? <;> simp [appearanceOrders, hr]

theorem Sends.get_bind {f : View → Handler β} {orders : List Command} {b : β}
    (hf : ∀ u, v.SameFace u → Sends answers (f u) v orders b v') :
    Sends answers (get >>= f) v orders b v' :=
  fun u hu => hf u hu u hu

theorem Sends.modify {change : View → View} (hchange : ∀ u, v.SameFace u → v'.SameFace (change u)) :
    Sends answers (modify change) v [] () v' :=
  fun u hu => ⟨rfl, hchange u hu, rfl⟩

/-- A handler that has nothing to do with the appearance sends nothing. -/
theorem Touches.silent {areas : List Area} (hh : Touches areas h)
    (hareas : ∀ a ∈ Area.ofAppearance, a ∉ areas) (u : View) :
    appearanceOrders ((h.run u).under answers).2 = [] := by
  have hprogram : ∀ {p : Program (α × View)} {post : α × View → Unit → Prop},
      p.Ensures (.within areas) post () → appearanceOrders (p.under answers).2 = [] := by
    intro p post hp
    induction p with
    | done result => rfl
    | ask r next ih =>
      have hr : r.appearance? = none :=
        Request.appearance?_eq_none fun a ha heq => hareas a ha (hp.1 a heq)
      show appearanceOrders ([r] ++ ((next (answers r)).under answers).2) = []
      rw [appearanceOrders_append, ih _ (hp.2 _ trivial)]
      simp [appearanceOrders, hr]
  exact hprogram (hh u)

theorem Touches.sends {areas : List Area} {h : Handler Unit} (hh : Touches areas h)
    (hareas : ∀ a ∈ Area.ofAppearance, a ∉ areas) : Sends answers h v [] () v := by
  intro u hu
  have hsame : ∀ a, a ∉ areas → u.SameIn ((h.run u).under answers).1.2 a :=
    (hh u).under fun _ => trivial
  have hlayout := hsame .layout (hareas .layout (by decide))
  have htime := hsame .time (hareas .time (by decide))
  exact ⟨rfl, hu.trans (View.sameFace_of_sameIn hlayout htime), hh.silent hareas u⟩

/-- A handler that only asks sends nothing. -/
theorem Finds.sends {value : α} (hfinds : Finds answers h value) (htouches : Touches [] h) :
    Sends answers h v [] value v := by
  intro u hu
  obtain ⟨hresult, -⟩ := (hfinds u {}).under fun _ => rfl
  have hsilent : appearanceOrders ((h.run u).under answers).2 = [] :=
    htouches.silent (fun a _ => List.not_mem_nil) u
  rw [hresult]
  exact ⟨rfl, hu, hsilent⟩

end Handler

/-! ## What the parts of the creation send -/

namespace Answers

/-- The date that the current user has chosen. -/
def date (answers : Answers) : Date.Style := (Date.Style.ofSetting (answers.setting .date)).value

/-- A typeface that the current user has chosen. -/
def typeface (answers : Answers) (s : Settings.Setting) : Typeface :=
  (Typeface.ofSetting (answers.setting s)).value

/-- The look of a date, in pixels. -/
def resolved (answers : Answers) (style : Date.Style) : Date.Resolved :=
  Id.run (style.resolve fun d => pure (answers (.query (.dimension d))))

/-- The key under which the patterns of a locale are asked for. -/
def patternKey (answers : Answers) (locale : String) : Clock.PatternKey :=
  ⟨locale, answers (.query (.label .clock12Skeleton)), answers (.query (.label .clock24Skeleton))⟩

/-- The patterns for a key. -/
def patterns (answers : Answers) (key : Clock.PatternKey) : Clock.Patterns :=
  Id.run (Clock.Patterns.compute (fun l s => pure (answers (.query (.bestPattern l s)))) key)

/-- What the lock screen looks like under fixed answers. -/
def appearance (answers : Answers) (locale : String) : Appearance where
  clock := answers.clock
  refresh := answers.clock.refresh (answers.patterns (answers.patternKey locale))
    (answers (.query .accent))
  alignment := answers.alignmentUnder answers.clock
  date := answers.date
  resolvedDate := answers.resolved answers.date
  dateTypeface := answers.typeface .dateFont
  ownerInfoTypeface := answers.typeface .ownerInfoFont
  ownerInfoSize := answers.setting .ownerInfoSize

end Answers

namespace View

theorem sends_setting (s : Settings.Setting) :
    Sends answers (setting s) v [] (answers.setting s) v :=
  (finds_setting s).sends (touches_setting s)

theorem sends_choose {found : Option α} {default : α} {notice : Notice}
    (hnotice : notice.area = none) :
    Sends answers (choose (.ofOption found default notice)) v []
      (Choice.ofOption found default notice).value v :=
  (finds_choose _).sends (touches_choose hnotice)

theorem sends_chosenClock : Sends answers chosenClock v [] answers.clock v :=
  finds_chosenClock.sends touches_chosenClock

theorem sends_alignmentUnder (clock : Clock.Style) :
    Sends answers (alignmentUnder clock) v [] (answers.alignmentUnder clock) v :=
  (finds_alignmentUnder clock).sends (touches_alignmentUnder clock)

theorem finds_resolveDate (style : Date.Style) :
    Finds answers (style.resolve fun d => query (.dimension d)) (answers.resolved style) := by
  unfold Answers.resolved Date.Style.resolve
  dsimp only
  split
  · exact .bind (finds_query _) (.bind (finds_query _) fun _ _ => ⟨rfl, rfl⟩)
  · exact fun _ _ => ⟨rfl, rfl⟩

theorem sends_resolveDate (style : Date.Style) :
    Sends answers (style.resolve fun d => query (.dimension d)) v [] (answers.resolved style) v :=
  (finds_resolveDate style).sends (touches_resolveDate style)

theorem sends_resolvePatterns (key : Clock.PatternKey) :
    Sends answers
      (Clock.PatternCache.resolve (fun locale skeleton => query (.bestPattern locale skeleton)) {}
        key)
      v [] (answers.patterns key, ⟨some (key, answers.patterns key)⟩) v := by
  have hcompute : Finds answers
      (Clock.Patterns.compute (fun locale skeleton => query (.bestPattern locale skeleton)) key)
      (answers.patterns key) :=
    .bind (finds_query _) (.bind (finds_query _) fun _ _ => ⟨rfl, rfl⟩)
  have hfinds : Finds answers
      (Clock.PatternCache.resolve (fun locale skeleton => query (.bestPattern locale skeleton)) {}
        key)
      (answers.patterns key, ⟨some (key, answers.patterns key)⟩) :=
    .bind hcompute fun _ _ => ⟨rfl, rfl⟩
  exact hfinds.sends (touches_resolvePatterns {} key)

/-- An order about the appearance. -/
theorem sends_order {c : Command} (hc : c.isOfAppearance = true) :
    Sends answers (command c) v [c] () v := by
  have hsends : Sends answers (command c) v _ () v := Sends.request (.command c)
  rwa [show (Request.command c).appearance? = some c by simp [Request.appearance?, hc]] at hsends

/-- An order about something else. -/
theorem sends_aside {c : Command} (hc : c.isOfAppearance = false) :
    Sends answers (command c) v [] () v := by
  have hsends : Sends answers (command c) v _ () v := Sends.request (.command c)
  rwa [show (Request.command c).appearance? = none by simp [Request.appearance?, hc]] at hsends

theorem sends_refreshFontsAndSizes :
    Sends answers refreshFontsAndSizes v
      (letterOrders (answers.typeface .dateFont) (answers.typeface .ownerInfoFont)
        (answers.setting .ownerInfoSize)) () v := by
  have hsize : Sends answers refreshOwnerInfoSize v _ () v :=
    .bind (sends_setting _) (sends_order rfl)
  have hsends : Sends answers refreshFontsAndSizes v _ () v :=
    .bind (sends_aside rfl) <| .bind (sends_setting _) <| .bind (sends_choose rfl) <|
      .bind (sends_order rfl) <| .bind (sends_aside rfl) <| .bind (sends_aside rfl) <|
      .bind hsize <| .bind (sends_setting _) <| .bind (sends_choose rfl) (sends_order rfl)
  exact hsends

theorem sends_showSlots (slots : List (Clock.Slot × Bool)) :
    Sends answers (showSlots slots) v (slotOrders slots) () v := by
  induction slots with
  | nil => exact .pure ()
  | cons slot slots ih =>
    have hshow : Sends answers (command (.slotVisible slot.1 slot.2)) v _ () v := sends_order rfl
    exact hshow.bind ih

theorem sends_updateClockAlignment :
    Sends answers updateClockAlignment v
      (alignmentOrders v.clock (answers.alignmentUnder v.clock)) () v := by
  refine .get_bind fun u hu => ?_
  rw [hu.clock, ← List.nil_append (alignmentOrders ..)]
  refine .bind (sends_alignmentUnder v.clock) ?_
  dsimp only
  unfold alignmentOrders
  split
  · exact .bind (sends_order rfl) (sends_order rfl)
  · exact sends_order rfl

/-- The clock that is chosen is laid out, whatever clock was shown before. -/
theorem sends_updateSettings :
    Sends answers updateSettings v
      (layoutOrders answers.clock.layout ++
        alignmentOrders answers.clock (answers.alignmentUnder answers.clock)) ()
      { v with clock := answers.clock } := by
  have htake : Sends answers (modify fun u => { u with clock := answers.clock }) v [] ()
      { v with clock := answers.clock } :=
    .modify fun u hu => ⟨rfl, hu.locale, hu.patternCache⟩
  have hsends : Sends answers updateSettings v _ () { v with clock := answers.clock } :=
    .bind sends_chosenClock <| .bind htake <| .bind (sends_showSlots _) <|
      .bind (sends_order rfl) <| .bind (sends_order rfl) sends_updateClockAlignment
  rw [layoutOrders, List.append_assoc]
  exact hsends

theorem sends_updateDateStyles :
    Sends answers updateDateStyles v
      (.dateStyle answers.date (answers.resolved answers.date) ::
        alignmentOrders v.clock (answers.alignmentUnder v.clock)) () v := by
  have hsends : Sends answers updateDateStyles v _ () v :=
    .bind (sends_setting _) <| .bind (sends_choose rfl) <| .bind (sends_resolveDate _) <|
      .bind (sends_order rfl) sends_updateClockAlignment
  exact hsends

theorem sends_refreshTime :
    Sends answers refreshTime v
      [.ofRefresh (v.clock.refresh (v.patternCache.patterns?.getD {}) (answers (.query .accent)))]
      () v := by
  have hdraws : ∀ r : Clock.Refresh, (Command.ofRefresh r).isOfAppearance = true := by
    intro r
    cases r <;> rfl
  have hdraw : Sends answers (do
      let u ← get
      command (.ofRefresh
        (u.clock.refresh (u.patternCache.patterns?.getD {}) (answers (.query .accent))))) v
      [.ofRefresh (v.clock.refresh (v.patternCache.patterns?.getD {}) (answers (.query .accent)))]
      () v := by
    refine .get_bind fun u hu => ?_
    rw [hu.clock, hu.patternCache]
    exact sends_order (hdraws _)
  have haccent : Sends answers (query .accent) v [] (answers (.query .accent)) v := .request _
  rw [refreshTime_eq]
  exact .bind (sends_aside rfl) (.bind haccent hdraw)

/-- The patterns are found anew and the clock is drawn in them, if no patterns are known. -/
theorem sends_refreshFormat (hv : v.patternCache = {}) :
    Sends answers refreshFormat v
      [.ofRefresh (v.clock.refresh (answers.patterns (answers.patternKey v.locale))
        (answers (.query .accent)))] ()
      { v with
        patternCache := ⟨some (answers.patternKey v.locale,
          answers.patterns (answers.patternKey v.locale))⟩ } := by
  have hlabel : ∀ l, Sends answers (query (.label l)) v [] (answers (.query (.label l))) v :=
    fun l => .request _
  refine .bind (hlabel _) (.bind (hlabel _) (.get_bind fun u hu => ?_))
  rw [hu.locale, hu.patternCache, hv]
  refine .bind (sends_resolvePatterns _) (.bind (.modify fun u hu => ?_) sends_refreshTime)
  exact ⟨hu.clock, hu.locale, rfl⟩

/-! ## A new view -/

theorem sends_setUp (hv : v.patternCache = {}) :
    Sends answers setUp v (answers.appearance v.locale).orders ()
      { v with
        clock := answers.clock
        patternCache := ⟨some (answers.patternKey v.locale,
          answers.patterns (answers.patternKey v.locale))⟩ } := by
  have hsilent : ∀ {areas : List Area} {h : Handler Unit} {u : View}, Touches areas h →
      (∀ a ∈ Area.ofAppearance, a ∉ areas) → Sends answers h u [] () u :=
    fun hh hareas => hh.sends hareas
  have hfact : Sends answers (fact .isInteractive) v [] (answers (.fact .isInteractive)) v :=
    .request _
  have hsends : Sends answers setUp v _ () _ :=
    .bind (hsilent touches_loadIconMargins (by decide)) <| .bind sends_refreshFontsAndSizes <|
      .bind (hsilent touches_contentChanged (by decide)) <| .bind hfact <|
      .bind (hsilent (touches_setMarqueeEnabled _) (by decide)) <|
      .bind (.bind sends_updateSettings sends_updateDateStyles) <| .bind (sends_refreshFormat hv) <|
      .bind (hsilent touches_updateOwnerInfo (by decide))
        (hsilent touches_updateLogoutView (by decide))
  have horders : (answers.appearance v.locale).orders =
      letterOrders (answers.typeface .dateFont) (answers.typeface .ownerInfoFont)
        (answers.setting .ownerInfoSize) ++
      (layoutOrders answers.clock.layout ++
        alignmentOrders answers.clock (answers.alignmentUnder answers.clock) ++
      (.dateStyle answers.date (answers.resolved answers.date) ::
        alignmentOrders answers.clock (answers.alignmentUnder answers.clock)) ++
      [.ofRefresh (answers.clock.refresh (answers.patterns (answers.patternKey v.locale))
        (answers (.query .accent)))]) := by
    simp only [Appearance.orders, Answers.appearance, List.append_assoc]
  rw [horders]
  exact hsends

/-- A new view has the appearance that the answers come to. -/
theorem under_create (locale : String) :
    ((create locale).under answers).1.clock = (answers.appearance locale).clock ∧
      appearanceOrders ((create locale).under answers).2 = (answers.appearance locale).orders := by
  let bare : View := { locale, textColor := answers (.query .clockTextColor) }
  have hafter : (setUp.after bare).under answers =
      (((setUp.run bare).under answers).1.2, ((setUp.run bare).under answers).2 ++ []) :=
    Program.under_bind ..
  have hcreate : (create locale).under answers =
      (((setUp.after bare).under answers).1,
        [.query .clockTextColor] ++ ((setUp.after bare).under answers).2) := rfl
  have hsends : Sends answers setUp bare (answers.appearance locale).orders () _ := sends_setUp rfl
  obtain ⟨-, hface, horders⟩ := hsends bare ⟨rfl, rfl, rfl⟩
  rw [hcreate, hafter, List.append_nil, appearanceOrders_append, horders]
  exact ⟨hface.clock, rfl⟩

end View

/-! ## A new view for a user -/

/-- Answers for a user, with the settings of a store, with resources and with a generator of
patterns; whatever else is asked is answered by others. -/
def Answers.forUser (others : Answers) (user : Int32) (settings : Settings.Provider)
    (resources : Resources) (best : String → String → String) : Answers
  | .fact .currentUser => user
  | .query (.setting s user) => settings s.area s.key user
  | .query (.dimension d) => resources.dimension d
  | .query (.label l) => resources.label l
  | .query .accent => resources.accent
  | .query (.bestPattern locale skeleton) => best locale skeleton
  | r => others r

theorem Answers.appearance_forUser (others : Answers) (user : Int32) (settings : Settings.Provider)
    (resources : Resources) (best : String → String → String) (locale : String) :
    (others.forUser user settings resources best).appearance locale =
      .of settings user resources best locale := rfl

end Lockscreen

end DeviceStatus
