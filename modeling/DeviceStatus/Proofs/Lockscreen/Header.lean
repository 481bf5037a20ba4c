import DeviceStatus.Lockscreen.Screen
import DeviceStatus.Proofs.Lockscreen.Footprints
import DeviceStatus.Proofs.Lockscreen.Kinds

/-!
# The room for a header

The status area tells whether it shows a header, and there is a gap above the notification icons
for either case. Both gaps are loaded from the resources when the view is made and when the density
changes; one of them is applied when the header comes or goes. So of the exchanges of an operation
those that are about the header (`heading`) are known exactly: none at all, those of a loading, or
those of a report, which applies a gap only if the header is not as before.
-/

namespace DeviceStatus

/-- The dimension of the gap above the notification icons. -/
def Dimension.iconGap : Bool → Dimension
  | true => .iconMarginWithHeader
  | false => .iconMargin

namespace Lockscreen

open Device Handler

/-- The gap above the notification icons that the view has loaded. -/
def View.iconGap (v : View) : Bool → Int32
  | true => v.iconMarginWithHeader
  | false => v.iconMargin

/-- Whether a request is about the header. -/
def Request.isOfHeader : Request → Bool
  | query .hasHeader | query (.dimension .iconMargin) | query (.dimension .iconMarginWithHeader)
  | command (.clockShowingHeader _) | command (.iconsTopMargin _) => true
  | _ => false

theorem particular_isOfHeader : Particular Request.isOfHeader where
  query q hq := by
    cases q with
    | dimension d => cases d <;> simp_all [Query.isShared, Request.isOfHeader]
    | _ => simp_all [Query.isShared, Request.isOfHeader]
  command c hc := by cases c <;> simp_all [Command.isShared, Request.isOfHeader]
  fact _ := rfl
  user _ := rfl
  log _ := rfl

/-- The exchanges that are about the header. -/
def heading (exchanges : List Exchange) : List Exchange :=
  exchanges.filter (·.request.isOfHeader)

theorem heading_append (first second : List Exchange) :
    heading (first ++ second) = heading first ++ heading second :=
  List.filter_append ..

/-- The order to apply a gap. -/
def gapExchange (gap : Int32) : Exchange := ⟨.command (.iconsTopMargin gap), ()⟩

/-- Both gaps are loaded. -/
def loadExchanges (gap : Bool → Int32) : List Exchange :=
  [⟨.query (.dimension (.iconGap false)), gap false⟩,
    ⟨.query (.dimension (.iconGap true)), gap true⟩]

/-- The status area reports whether it shows a header; a gap is applied if this is not as before. -/
def reportExchanges (v : View) (hasHeader : Bool) : List Exchange :=
  ⟨.query .hasHeader, hasHeader⟩ :: ⟨.command (.clockShowingHeader hasHeader), ()⟩ ::
    if v.isShowingHeader = hasHeader then [] else [gapExchange (v.iconGap hasHeader)]

variable {v v' : View} {exchanges : List Exchange} {o : Operation}

/-! ## What is known of the header -/

theorem answersTo_heading {q : Query} (hq : (Request.query q).isOfHeader = true)
    (exchanges : List Exchange) : answersTo q (heading exchanges) = answersTo q exchanges :=
  answersTo_filter hq exchanges

theorem isOfHeader_iconGap (hasHeader : Bool) :
    (Request.query (.dimension (.iconGap hasHeader))).isOfHeader = true := by
  cases hasHeader <;> rfl

theorem gapExchange_mem_heading {gap : Int32} :
    gapExchange gap ∈ heading exchanges ↔ gapExchange gap ∈ exchanges := by
  rw [heading, List.mem_filter]
  exact and_iff_left rfl

theorem answersTo_hasHeader_report (v : View) (hasHeader : Bool) :
    answersTo .hasHeader (reportExchanges v hasHeader) = [hasHeader] := by
  unfold reportExchanges
  split <;> simp [answersTo, Exchange.answerTo?, gapExchange]

theorem answersTo_iconGap_report (v : View) (hasHeader hasHeader' : Bool) :
    answersTo (.dimension (.iconGap hasHeader')) (reportExchanges v hasHeader) = [] := by
  unfold reportExchanges
  split <;> simp [answersTo, Exchange.answerTo?, gapExchange]

theorem answersTo_hasHeader_load (gap : Bool → Int32) :
    answersTo .hasHeader (loadExchanges gap) = [] := by
  simp [answersTo, Exchange.answerTo?, loadExchanges]

theorem answersTo_iconGap_load (gap : Bool → Int32) (hasHeader : Bool) :
    answersTo (.dimension (.iconGap hasHeader)) (loadExchanges gap) = [gap hasHeader] := by
  cases hasHeader <;> simp [answersTo, Exchange.answerTo?, loadExchanges, Dimension.iconGap]

theorem gapExchange_mem_report {gap : Int32} {hasHeader : Bool} :
    gapExchange gap ∈ reportExchanges v hasHeader ↔
      v.isShowingHeader ≠ hasHeader ∧ gap = v.iconGap hasHeader := by
  unfold reportExchanges
  split <;> simp_all [gapExchange]

theorem gapExchange_notMem_load (gap : Bool → Int32) (gap' : Int32) :
    gapExchange gap' ∉ loadExchanges gap := by
  simp [gapExchange, loadExchanges]

/-- The gap on the screen is changed by what is about the header. -/
theorem Screen.iconsTopMargin_heading (x : Screen) (exchanges : List Exchange) :
    (x.afterExchanges (heading exchanges)).iconsTopMargin =
      (x.afterExchanges exchanges).iconsTopMargin := by
  have hrest : ∀ (x x' : Screen), x.iconsTopMargin = x'.iconsTopMargin →
      (x.afterExchanges (heading exchanges)).iconsTopMargin =
        (x'.afterExchanges exchanges).iconsTopMargin := by
    induction exchanges with
    | nil => exact fun x x' h => h
    | cons e exchanges ih =>
      intro x x' h
      obtain ⟨r, answer⟩ := e
      cases hr : r.isOfHeader with
      | true =>
        have hhead : heading (⟨r, answer⟩ :: exchanges) = ⟨r, answer⟩ :: heading exchanges :=
          List.filter_cons_of_pos hr
        rw [hhead]
        refine ih _ _ ?_
        cases r with
        | command c =>
          cases c with
          | iconsTopMargin => rfl
          | _ => exact h
        | _ => exact h
      | false =>
        have htail : heading (⟨r, answer⟩ :: exchanges) = heading exchanges :=
          List.filter_cons_of_neg (by simp [hr])
        rw [htail]
        refine ih _ _ ?_
        cases r with
        | command c =>
          cases c with
          | iconsTopMargin => simp [Request.isOfHeader] at hr
          | _ => exact h
        | _ => exact h
  exact hrest x x rfl

/-! ## What operations do about the header -/

namespace View

theorem runs_loadIconMargins (hruns : loadIconMargins.Runs v exchanges () v') :
    ∃ gap, heading exchanges = loadExchanges gap ∧
      v' = { v with iconMargin := gap false, iconMarginWithHeader := gap true } := by
  obtain ⟨_, _, without, _, rfl, hwithout, hthen⟩ := runs_bind.1 hruns
  obtain ⟨rfl, rfl⟩ := runs_request.1 hwithout
  obtain ⟨_, _, withHeader, _, rfl, hwith, hmodify⟩ := runs_bind.1 hthen
  obtain ⟨rfl, rfl⟩ := runs_request.1 hwith
  obtain ⟨rfl, rfl⟩ := runs_modify.1 hmodify
  exact ⟨fun | true => withHeader | false => without, rfl, rfl⟩

theorem runs_contentChanged (hruns : contentChanged.Runs v exchanges () v') :
    ∃ hasHeader, heading exchanges = reportExchanges v hasHeader ∧
      v' = { v with isShowingHeader := hasHeader } := by
  obtain ⟨_, _, hasHeader, _, rfl, hreport, hthen⟩ := runs_bind.1 hruns
  obtain ⟨rfl, rfl⟩ := runs_request.1 hreport
  obtain ⟨_, _, _, _, rfl, hcommand, hlook⟩ := runs_bind.1 hthen
  obtain ⟨rfl, rfl⟩ := runs_request.1 hcommand
  obtain ⟨_, _, _, v₁, rfl, hget, happly⟩ := runs_bind.1 hlook
  obtain ⟨rfl, rfl, rfl⟩ := runs_get.1 hget
  refine ⟨hasHeader, ?_⟩
  split at happly
  · next hsame =>
    obtain rfl : v₁.isShowingHeader = hasHeader := by simpa using hsame
    obtain ⟨rfl, -, rfl⟩ := runs_pure.1 happly
    simp [heading, reportExchanges, Request.isOfHeader]
  · next hother =>
    have hother : v₁.isShowingHeader ≠ hasHeader := by simpa using hother
    obtain ⟨_, _, _, _, rfl, hmodify, hgap⟩ := runs_bind.1 happly
    obtain ⟨rfl, rfl⟩ := runs_modify.1 hmodify
    obtain ⟨rfl, rfl⟩ := runs_request.1 hgap
    rw [reportExchanges, if_neg hother]
    cases hasHeader <;> exact ⟨rfl, rfl⟩

/-- The clock is brought up to the present time without a look at the header. -/
theorem spares_refreshTime_header : Spares Request.isOfHeader refreshTime := by
  refine .bind (.request rfl) fun _ => .bind (.request rfl) fun _ => .bind .get fun v => ?_
  split <;> exact .request rfl

theorem spares_refreshFormat_header : Spares Request.isOfHeader refreshFormat := by
  have hcompute : ∀ key, Spares Request.isOfHeader
      (Clock.Patterns.compute (fun locale skeleton => query (.bestPattern locale skeleton)) key) :=
    fun key => .bind (.request rfl) fun _ => .bind (.request rfl) fun _ => .pure _
  refine .bind (.request rfl) fun _ => .bind (.request rfl) fun _ => .bind .get fun v =>
    .bind ?_ fun _ => .bind (.modify _) fun _ => spares_refreshTime_header
  unfold Clock.PatternCache.resolve
  dsimp only
  split
  · split
    · exact .pure _
    · exact .bind (hcompute _) fun _ => .pure _
  · exact .bind (hcompute _) fun _ => .pure _

end View

/-- Whether the status area is asked for its header. -/
def Operation.reportsHeader : Operation → Bool
  | contentChanged => true
  | _ => false

/-- Whether an operation is the reaction to a change of the density. -/
def Operation.isDensity : Operation → Bool
  | event .density => true
  | _ => false

theorem Operation.runs_report (ho : o.reportsHeader = true)
    (hruns : o.handler.Runs v exchanges () v') :
    ∃ hasHeader, heading exchanges = reportExchanges v hasHeader ∧
      v' = { v with isShowingHeader := hasHeader } := by
  cases o with
  | contentChanged => exact View.runs_contentChanged hruns
  | _ => simp [Operation.reportsHeader] at ho

theorem Operation.runs_load (ho : o.isDensity = true) (hruns : o.handler.Runs v exchanges () v') :
    ∃ gap, heading exchanges = loadExchanges gap ∧ v'.isShowingHeader = v.isShowingHeader ∧
      v'.iconGap = gap := by
  obtain rfl : o = .event .density := by
    cases o with
    | event e => cases e <;> simp_all [Operation.isDensity]
    | _ => simp [Operation.isDensity] at ho
  obtain ⟨_, _, _, v₁, rfl, hclock, hthen⟩ := runs_bind.1 hruns
  obtain ⟨rfl, rfl⟩ := runs_request.1 hclock
  obtain ⟨second, _, _, v₂, rfl, hsize, hload⟩ := runs_bind.1 hthen
  obtain ⟨hshowing, -, -⟩ : v₁.SameIn v₂ .header :=
    View.touches_refreshOwnerInfoSize.runs hsize (by simp)
  have hspared : heading second = [] := particular_isOfHeader.spares_refreshOwnerInfoSize hsize
  obtain ⟨gap, hheading, rfl⟩ := View.runs_loadIconMargins hload
  refine ⟨gap, ?_, hshowing, ?_⟩
  · rw [heading_append, heading_append, hspared, hheading]
    rfl
  · funext hasHeader
    cases hasHeader <;> rfl

/-- All other operations neither ask nor order anything about the header. -/
theorem Operation.spares_header (hreports : o.reportsHeader = false)
    (hdensity : o.isDensity = false) : Spares Request.isOfHeader o.handler := by
  cases o with
  | updateAll => exact particular_isOfHeader.spares_updateAll
  | updateSettings => exact particular_isOfHeader.spares_updateSettings
  | updateDateStyles => exact particular_isOfHeader.spares_updateDateStyles
  | dozeTimeTick => exact .bind View.spares_refreshTime_header fun _ => .request rfl
  | setDarkAmount amount => exact particular_isOfHeader.spares_setDarkAmount amount
  | setPulsing isPulsing => exact .modify _
  | marqueeTimerFired => exact particular_isOfHeader.spares_marqueeTimerFired
  | contentChanged => simp [Operation.reportsHeader] at hreports
  | logOut => exact particular_isOfHeader.spares_logOutCurrentUser
  | replay => exact .pure ()
  | event e =>
    cases e with
    | time => exact View.spares_refreshTime_header
    | timeZone zone => exact .request rfl
    | visibility isShowing =>
      cases isShowing with
      | true =>
        exact .bind View.spares_refreshTime_header fun _ => particular_isOfHeader.spares_ofUser_rest
      | false => exact .pure ()
    | wake => exact particular_isOfHeader.spares_setMarqueeEnabled true
    | sleep why => exact particular_isOfHeader.spares_setMarqueeEnabled false
    | userSwitch user =>
      exact .bind View.spares_refreshFormat_header fun _ => particular_isOfHeader.spares_ofUser_rest
    | logoutEnabled => exact particular_isOfHeader.spares_updateLogoutView
    | density => simp [Operation.isDensity] at hdensity
    | locale locale => exact .bind (.modify _) fun _ => View.spares_refreshFormat_header

theorem Operation.sameIn_header (hreports : o.reportsHeader = false)
    (hdensity : o.isDensity = false) (hruns : o.handler.Runs v exchanges () v') :
    v.SameIn v' .header := by
  refine (Operation.touches o).runs hruns ?_
  cases o with
  | contentChanged => simp [Operation.reportsHeader] at hreports
  | event e =>
    cases e with
    | density => simp [Operation.isDensity] at hdensity
    | _ => simp [Operation.areas, Event.areas, Area.ofUser]
  | _ => simp [Operation.areas]

/-- What is set up behind the header does not touch it. -/
theorem View.touches_setUp_rest :
    Touches [.marquee, .layout, .alignment, .date, .time, .ownerInfo, .dark, .logout] (do
      View.setMarqueeEnabled (← View.fact .isInteractive)
      View.updateAll
      View.refreshFormat
      View.updateOwnerInfo
      View.updateLogoutView) :=
  .bind (.fact _) fun _ => .bind ((View.touches_setMarqueeEnabled _).mono (by simp)) fun _ =>
    .bind (View.touches_updateAll.mono (by simp)) fun _ =>
      .bind (View.touches_refreshFormat.mono (by simp)) fun _ =>
        .bind (View.touches_updateOwnerInfo.mono (by simp)) fun _ =>
          View.touches_updateLogoutView.mono (by simp)

theorem View.spares_setUp_rest : Spares Request.isOfHeader (do
    View.setMarqueeEnabled (← View.fact .isInteractive)
    View.updateAll
    View.refreshFormat
    View.updateOwnerInfo
    View.updateLogoutView) :=
  .bind (particular_isOfHeader.spares_fact _) fun _ =>
    .bind (particular_isOfHeader.spares_setMarqueeEnabled _) fun _ =>
      .bind particular_isOfHeader.spares_updateAll fun _ =>
        .bind View.spares_refreshFormat_header fun _ => particular_isOfHeader.spares_owner

/-- A view that is made loads the gaps, and then asks for the header. -/
theorem View.create_heading {locale : String}
    (h : (View.create locale).Reaches exchanges (.done v)) :
    ∃ gap hasHeader v₀, heading exchanges = loadExchanges gap ++ reportExchanges v₀ hasHeader ∧
      v₀.isShowingHeader = false ∧ v₀.iconGap = gap ∧ v.isShowingHeader = hasHeader ∧
      v.iconGap = gap := by
  obtain ⟨color, later, rfl, hlater⟩ := Program.ask_reaches_done.1 h
  obtain ⟨_, hsetUp⟩ := after_reaches_done.1 hlater
  obtain ⟨first, _, _, _, rfl, hload, hthen⟩ := runs_bind.1 hsetUp
  obtain ⟨gap, hgaps, rfl⟩ := View.runs_loadIconMargins hload
  obtain ⟨second, _, _, v₀, rfl, hfonts, hcontent⟩ := runs_bind.1 hthen
  have hsame₀ := View.touches_refreshFontsAndSizes.runs hfonts (show Area.header ∉ _ by simp)
  have hspared₀ : heading second = [] := particular_isOfHeader.spares_refreshFontsAndSizes hfonts
  obtain ⟨third, rest, _, _, rfl, hreport, hrest⟩ := runs_bind.1 hcontent
  obtain ⟨hasHeader, hreported, rfl⟩ := View.runs_contentChanged hreport
  have hspared : heading rest = [] := View.spares_setUp_rest hrest
  have hsame := View.touches_setUp_rest.runs hrest (show Area.header ∉ _ by simp)
  obtain ⟨hshowing, hwithout, hwith⟩ := hsame
  obtain ⟨hshowing₀, hwithout₀, hwith₀⟩ := hsame₀
  have hgap₀ : v₀.iconGap = gap := by
    funext hasHeader'
    cases hasHeader' with
    | false => exact hwithout₀
    | true => exact hwith₀
  refine ⟨gap, hasHeader, v₀, ?_, hshowing₀, hgap₀, hshowing, ?_⟩
  · have hcolor : heading [⟨.query .clockTextColor, color⟩] = [] := rfl
    rw [← List.singleton_append, heading_append, heading_append, heading_append, heading_append,
      hcolor, hgaps, hspared₀, hreported, hspared]
    simp
  · rw [← hgap₀]
    funext hasHeader'
    cases hasHeader' with
    | false => exact hwithout
    | true => exact hwith

end Lockscreen

end DeviceStatus
