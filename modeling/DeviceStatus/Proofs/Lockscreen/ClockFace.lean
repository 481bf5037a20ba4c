import DeviceStatus.Proofs.Clock.Patterns
import DeviceStatus.Proofs.Lockscreen.Footprints
import DeviceStatus.Proofs.Lockscreen.Kinds

/-!
# The face of the clock

What the face of the clock looks like depends on the colour of its text, on the skeletons and the
patterns of the locale and on the accent, and nothing but bringing the clock up to the present time
asks for these or draws the face. So of the exchanges of an operation those that are about the face
(`face`) are known exactly: none at all, those of a refresh, or those of a renewal, which looks for
the patterns first.
-/

namespace DeviceStatus

namespace Lockscreen

open Device Handler

/-- Whether a question is about the face of the clock. -/
def Query.isOfFace : Query → Bool
  | clockTextColor | accent | bestPattern .. | label .clock12Skeleton | label .clock24Skeleton =>
    true
  | hasHeader | setting .. | dimension _ | label .logout | deviceOwnerInfo | isOwnerInfoEnabled _
  | ownerInfo _ => false

/-- Whether an order draws the face of the clock. -/
def Command.isOfFace : Command → Bool
  | clockFormat _ | clockTimeChanged _ => true
  | _ => false

/-- Whether a request is about the face of the clock. -/
def Request.isOfFace : Request → Bool
  | query q => q.isOfFace
  | command c => c.isOfFace
  | fact _ | user _ | log _ => false

/-- The exchanges that are about the face of the clock. -/
def face (exchanges : List Exchange) : List Exchange := exchanges.filter (·.request.isOfFace)

theorem face_append (first second : List Exchange) :
    face (first ++ second) = face first ++ face second :=
  List.filter_append ..

theorem face_cons {e : Exchange} (he : e.request.isOfFace = true) (exchanges : List Exchange) :
    face (e :: exchanges) = e :: face exchanges :=
  List.filter_cons_of_pos he

theorem mem_face {e : Exchange} {exchanges : List Exchange} :
    e ∈ face exchanges ↔ e ∈ exchanges ∧ e.request.isOfFace = true :=
  List.mem_filter

variable {α β : Type}

/-! ## What leaves the face alone -/

/-- A handler asks nothing about the face of the clock and does not draw it. -/
def Handler.Faceless (h : Handler α) : Prop :=
  ∀ ⦃v exchanges value v'⦄, h.Runs v exchanges value v' → face exchanges = []

theorem particular_isOfFace : Particular Request.isOfFace where
  query q hq := by
    cases q with
    | label l => cases l <;> simp_all [Query.isShared, Request.isOfFace, Query.isOfFace]
    | _ => simp_all [Query.isShared, Request.isOfFace, Query.isOfFace]
  command c hc := by
    cases c <;> simp_all [Command.isShared, Request.isOfFace, Command.isOfFace]
  fact _ := rfl
  user _ := rfl
  log _ := rfl

namespace View

theorem faceless_loadIconMargins : Faceless loadIconMargins :=
  Spares.bind (.request rfl) fun _ => .bind (.request rfl) fun _ => .modify _

theorem faceless_updateOwnerInfo : Faceless updateOwnerInfo :=
  particular_isOfFace.spares_updateOwnerInfo

theorem faceless_updateLogoutView : Faceless updateLogoutView :=
  particular_isOfFace.spares_updateLogoutView

theorem faceless_refreshFontsAndSizes : Faceless refreshFontsAndSizes :=
  particular_isOfFace.spares_refreshFontsAndSizes

theorem faceless_updateDateStyles : Faceless updateDateStyles :=
  particular_isOfFace.spares_updateDateStyles

theorem faceless_contentChanged : Faceless contentChanged := by
  refine Spares.bind (.request rfl) fun hasHeader => .bind (.request rfl) fun _ =>
    .bind .get fun v => ?_
  split
  · exact .pure _
  · exact .bind (.modify _) fun _ => .request rfl

end View

/-! ## Refreshes -/

/-- The order that brings a clock up to the present time. -/
def Command.ofRefresh : Clock.Refresh → Command
  | .format format => clockFormat format
  | .widget slot => clockTimeChanged slot

/-- The accent is asked for and the clock drawn with it. -/
def refreshExchanges (clock : Clock.Style) (patterns : Clock.Patterns) (accent : UInt32) :
    List Exchange :=
  [⟨.query .accent, accent⟩, ⟨.command (.ofRefresh (clock.refresh patterns accent)), ()⟩]

/-- The clock of the view is drawn in the patterns that the view has last computed. -/
def View.Refreshes (v : View) (exchanges : List Exchange) : Prop :=
  ∃ accent, face exchanges = refreshExchanges v.clock (v.patternCache.patterns?.getD {}) accent

/-- The same clock is drawn in the same patterns. -/
structure View.SameFace (v v' : View) : Prop where
  clock : v'.clock = v.clock
  locale : v'.locale = v.locale
  patternCache : v'.patternCache = v.patternCache

theorem View.sameFace_of_sameIn {v v' : View} (hlayout : v.SameIn v' .layout)
    (htime : v.SameIn v' .time) : v.SameFace v' :=
  ⟨hlayout, htime.1, htime.2⟩

variable {v v' : View} {exchanges : List Exchange}

theorem Handler.Touches.sameFace {areas : List Area} {h : Handler α} (hh : Touches areas h)
    (hlayout : .layout ∉ areas) (htime : .time ∉ areas) {value : α}
    (hruns : h.Runs v exchanges value v') : v.SameFace v' :=
  View.sameFace_of_sameIn (hh.runs hruns hlayout) (hh.runs hruns htime)

namespace View

theorem refreshTime_eq : refreshTime = (do
    command .refreshClock
    let accent ← query .accent
    let v ← get
    command (.ofRefresh (v.clock.refresh (v.patternCache.patterns?.getD {}) accent))) := by
  unfold refreshTime
  congr 1
  funext _
  congr 1
  funext accent
  congr 1
  funext v
  split
  · next format hformat => rw [hformat, Command.ofRefresh]
  · next slot hslot => rw [hslot, Command.ofRefresh]

theorem runs_refreshTime (hruns : refreshTime.Runs v exchanges () v') :
    v' = v ∧ v.Refreshes exchanges := by
  rw [refreshTime_eq] at hruns
  obtain ⟨_, _, _, _, rfl, hclock, hthen⟩ := runs_bind.1 hruns
  obtain ⟨rfl, rfl⟩ := runs_request.1 hclock
  obtain ⟨_, _, accent, _, rfl, haccent, hlook⟩ := runs_bind.1 hthen
  obtain ⟨rfl, rfl⟩ := runs_request.1 haccent
  obtain ⟨_, _, _, _, rfl, hget, hdraw⟩ := runs_bind.1 hlook
  obtain ⟨rfl, rfl, rfl⟩ := runs_get.1 hget
  obtain ⟨rfl, rfl⟩ := runs_request.1 hdraw
  have hsilent : Command.refreshClock.isOfFace = false := rfl
  have hdraws : ∀ r : Clock.Refresh, (Command.ofRefresh r).isOfFace = true := by
    intro r
    cases r <;> rfl
  refine ⟨rfl, accent, ?_⟩
  simp [face, refreshExchanges, Request.isOfFace, Query.isOfFace, hsilent, hdraws]

end View

/-! ## Renewals -/

/-- By these exchanges the patterns for a key are found: the generator is asked for both of them,
unless they are in the cache. -/
inductive PatternsFound (cache : Clock.PatternCache) (key : Clock.PatternKey) :
    List Exchange → Clock.Patterns → Prop
  | known {patterns : Clock.Patterns} (hentry : cache.entry = some (key, patterns)) :
    PatternsFound cache key [] patterns
  | asked (pattern12 pattern24 : String) :
    PatternsFound cache key
      [⟨.query (.bestPattern key.locale key.skeleton12), pattern12⟩,
        ⟨.query (.bestPattern key.locale key.skeleton24), pattern24⟩]
      ⟨Clock.asked12 key.skeleton12 pattern12, pattern24⟩

theorem PatternsFound.face {cache : Clock.PatternCache} {key : Clock.PatternKey}
    {patterns : Clock.Patterns} (h : PatternsFound cache key exchanges patterns) :
    face exchanges = exchanges := by
  cases h <;> rfl

/-- The skeletons are asked for. -/
def skeletonExchanges (skeleton12 skeleton24 : String) : List Exchange :=
  [⟨.query (.label .clock12Skeleton), skeleton12⟩, ⟨.query (.label .clock24Skeleton), skeleton24⟩]

/-- The skeletons are asked for and the patterns found for the locale of the view, and the clock of
the view is drawn in them. -/
def View.Renews (v : View) (exchanges : List Exchange) (v' : View) : Prop :=
  ∃ skeleton12 skeleton24 found patterns accent,
    face exchanges = skeletonExchanges skeleton12 skeleton24 ++
      (found ++ refreshExchanges v'.clock patterns accent) ∧
    PatternsFound v.patternCache ⟨v'.locale, skeleton12, skeleton24⟩ found patterns ∧
    v'.patternCache.entry = some (⟨v'.locale, skeleton12, skeleton24⟩, patterns)

theorem View.Renews.answersTo_clockTextColor (h : v.Renews exchanges v') :
    answersTo .clockTextColor (face exchanges) = [] := by
  obtain ⟨skeleton12, skeleton24, found, patterns, accent, hface, hfound, -⟩ := h
  have hnone : answersTo .clockTextColor found = [] := by
    cases hfound with
    | known => rfl
    | asked => simp [answersTo, Exchange.answerTo?]
  rw [hface, answersTo_append, answersTo_append, hnone]
  simp [answersTo, Exchange.answerTo?, skeletonExchanges, refreshExchanges]

namespace View

theorem runs_compute {key : Clock.PatternKey} {patterns : Clock.Patterns}
    (hruns : (Clock.Patterns.compute (fun locale skeleton => query (.bestPattern locale skeleton))
      key).Runs v exchanges patterns v') :
    v' = v ∧ ∀ cache, PatternsFound cache key exchanges patterns := by
  obtain ⟨_, _, pattern12, _, rfl, hask, hthen⟩ := runs_bind.1 hruns
  obtain ⟨rfl, rfl⟩ := runs_request.1 hask
  obtain ⟨_, _, pattern24, _, rfl, hask, hend⟩ := runs_bind.1 hthen
  obtain ⟨rfl, rfl⟩ := runs_request.1 hask
  obtain ⟨rfl, rfl, rfl⟩ := runs_pure.1 hend
  exact ⟨rfl, fun cache => .asked pattern12 pattern24⟩

theorem runs_resolve {cache : Clock.PatternCache} {key : Clock.PatternKey}
    {result : Clock.Patterns × Clock.PatternCache}
    (hruns : (cache.resolve (fun locale skeleton => query (.bestPattern locale skeleton)) key).Runs
      v exchanges result v') :
    v' = v ∧ result.2.entry = some (key, result.1) ∧
      PatternsFound cache key exchanges result.1 := by
  have hcompute : ∀ {exchanges : List Exchange}, (do
      let patterns ← Clock.Patterns.compute
        (fun locale skeleton => query (.bestPattern locale skeleton)) key
      pure (patterns, (⟨some (key, patterns)⟩ : Clock.PatternCache)) : Handler _).Runs
        v exchanges result v' →
      v' = v ∧ result.2.entry = some (key, result.1) ∧
        PatternsFound cache key exchanges result.1 := by
    intro exchanges hruns
    obtain ⟨_, _, patterns, _, rfl, hfind, hend⟩ := runs_bind.1 hruns
    obtain ⟨rfl, hfound⟩ := runs_compute hfind
    obtain ⟨rfl, rfl, rfl⟩ := runs_pure.1 hend
    rw [List.append_nil]
    exact ⟨rfl, rfl, hfound cache⟩
  unfold Clock.PatternCache.resolve at hruns
  dsimp only at hruns
  split at hruns
  · next last patterns hentry =>
    split at hruns
    · next hsame =>
      obtain ⟨rfl, rfl, rfl⟩ := runs_pure.1 hruns
      subst hsame
      exact ⟨rfl, hentry, .known hentry⟩
    · exact hcompute hruns
  · exact hcompute hruns

theorem runs_refreshFormat (hruns : refreshFormat.Runs v exchanges () v') :
    v'.clock = v.clock ∧ v'.locale = v.locale ∧ v.Renews exchanges v' := by
  obtain ⟨_, _, skeleton12, _, rfl, hask12, hthen⟩ := runs_bind.1 hruns
  obtain ⟨rfl, rfl⟩ := runs_request.1 hask12
  obtain ⟨_, _, skeleton24, _, rfl, hask24, hlook⟩ := runs_bind.1 hthen
  obtain ⟨rfl, rfl⟩ := runs_request.1 hask24
  obtain ⟨_, _, _, _, rfl, hget, hresolve⟩ := runs_bind.1 hlook
  obtain ⟨rfl, rfl, rfl⟩ := runs_get.1 hget
  obtain ⟨found, _, ⟨patterns, cache⟩, _, rfl, hfind, hkeep⟩ := runs_bind.1 hresolve
  obtain ⟨rfl, hentry, hfound⟩ := runs_resolve hfind
  obtain ⟨_, drawn, _, _, rfl, hmodify, hrefresh⟩ := runs_bind.1 hkeep
  obtain ⟨rfl, rfl⟩ := runs_modify.1 hmodify
  obtain ⟨rfl, accent, hdrawn⟩ := runs_refreshTime hrefresh
  refine ⟨rfl, rfl, skeleton12, skeleton24, found, patterns, accent, ?_, hfound, hentry⟩
  have hpatterns : cache.patterns?.getD {} = patterns := by
    rw [Clock.PatternCache.patterns?, hentry]
    rfl
  simp only [face_append, hfound.face, hdrawn, hpatterns]
  rfl

end View

namespace Handler

variable {areas : List Area} {h : Handler α} {f : α → Handler Unit}

/-- A handler renews the face of the clock. -/
def RenewsFace (h : Handler Unit) : Prop :=
  ∀ ⦃v exchanges v'⦄, h.Runs v exchanges () v' → v.Renews exchanges v'

/-- What comes before a renewal may take another clock over, but leaves the patterns. -/
theorem RenewsFace.after (hface : Faceless h) (htouches : Touches areas h) (htime : .time ∉ areas)
    (hf : ∀ value, RenewsFace (f value)) : RenewsFace (h >>= f) := by
  intro v exchanges v' hruns
  obtain ⟨first, second, value, v₁, rfl, hfirst, hsecond⟩ := runs_bind.1 hruns
  obtain ⟨skeleton12, skeleton24, found, patterns, accent, hdrawn, hfound, hentry⟩ :=
    hf value hsecond
  have hcache : v₁.patternCache = v.patternCache := (htouches.runs hfirst htime).2
  refine ⟨skeleton12, skeleton24, found, patterns, accent, ?_, hcache ▸ hfound, hentry⟩
  rw [face_append, hface hfirst, List.nil_append]
  exact hdrawn

/-- What comes after a renewal leaves the face of the clock alone. -/
theorem RenewsFace.before {h : Handler Unit} {f : Unit → Handler Unit} (hh : RenewsFace h)
    (hface : Faceless (f ())) (htouches : Touches areas (f ())) (hlayout : .layout ∉ areas)
    (htime : .time ∉ areas) : RenewsFace (h >>= f) := by
  intro v exchanges v' hruns
  obtain ⟨first, second, _, v₁, rfl, hfirst, hsecond⟩ := runs_bind.1 hruns
  obtain ⟨skeleton12, skeleton24, found, patterns, accent, hdrawn, hfound, hentry⟩ := hh hfirst
  have hsame := htouches.sameFace hlayout htime hsecond
  refine ⟨skeleton12, skeleton24, found, patterns, accent, ?_, ?_, ?_⟩
  · rw [face_append, hface hsecond, List.append_nil, hsame.clock]
    exact hdrawn
  · rw [hsame.locale]
    exact hfound
  · rw [hsame.locale, hsame.patternCache]
    exact hentry

end Handler

/-! ## Operations -/

end Lockscreen

namespace Device.Event

/-- Whether the view looks for the patterns of the clock on an event. -/
def renewsFace : Event → Bool
  | userSwitch _ | locale _ => true
  | time | timeZone _ | visibility _ | wake | sleep _ | logoutEnabled | density => false

/-- Whether the view only brings the clock up to the present time on an event. -/
def refreshesFace : Event → Bool
  | time => true
  | visibility isShowing => isShowing
  | timeZone _ | wake | sleep _ | userSwitch _ | logoutEnabled | density | locale _ => false

end Device.Event

namespace Lockscreen

open Device Handler

variable {v v' : View} {exchanges : List Exchange}

/-- Whether an operation looks for the patterns of the clock. -/
def Operation.renewsFace : Operation → Bool
  | event e => e.renewsFace
  | _ => false

/-- Whether an operation only brings the clock up to the present time. -/
def Operation.refreshesFace : Operation → Bool
  | dozeTimeTick => true
  | event e => e.refreshesFace
  | _ => false

namespace View

theorem renewsFace_refreshFormat : RenewsFace refreshFormat :=
  fun _ _ _ hruns => (runs_refreshFormat hruns).2.2

theorem touches_owner : Touches [.ownerInfo, .dark, .logout] (do
    updateOwnerInfo
    updateLogoutView) :=
  .bind (touches_updateOwnerInfo.mono (by simp)) fun _ => touches_updateLogoutView.mono (by simp)

/-- What belongs to the user, apart from the time, leaves the face of the clock alone. -/
theorem touches_ofUser_rest : Touches [.ownerInfo, .dark, .logout, .letters, .alignment, .date] (do
    updateOwnerInfo
    updateLogoutView
    refreshFontsAndSizes
    updateDateStyles) :=
  .bind (touches_updateOwnerInfo.mono (by simp)) fun _ =>
    .bind (touches_updateLogoutView.mono (by simp)) fun _ =>
      .bind (touches_refreshFontsAndSizes.mono (by simp)) fun _ =>
        touches_updateDateStyles.mono (by simp)

theorem renewsFace_setUp : RenewsFace setUp :=
  .after faceless_loadIconMargins touches_loadIconMargins (by simp) fun _ =>
    .after faceless_refreshFontsAndSizes touches_refreshFontsAndSizes (by simp) fun _ =>
      .after faceless_contentChanged touches_contentChanged (by simp) fun _ =>
        .after (particular_isOfFace.spares_fact _) (show Touches [] _ from .fact _) (by simp)
          fun _ => .after (particular_isOfFace.spares_setMarqueeEnabled _)
            (touches_setMarqueeEnabled _) (by simp) fun _ =>
            .after particular_isOfFace.spares_updateAll touches_updateAll (by simp) fun _ =>
              .before renewsFace_refreshFormat particular_isOfFace.spares_owner touches_owner
                (by simp) (by simp)

/-- A view that is made asks for the colour of the clock, and then renews its face. -/
theorem create_renews {locale : String} (h : (create locale).Reaches exchanges (.done v)) :
    ∃ color later, exchanges = ⟨.query .clockTextColor, color⟩ :: later ∧
      View.Renews { locale, textColor := color } later v := by
  obtain ⟨color, later, rfl, hlater⟩ := Program.ask_reaches_done.1 h
  obtain ⟨_, hruns⟩ := after_reaches_done.1 hlater
  exact ⟨color, later, rfl, renewsFace_setUp hruns⟩

end View

theorem Operation.renews {o : Operation} (ho : o.renewsFace = true) : RenewsFace o.handler := by
  cases o with
  | event e =>
    cases e with
    | userSwitch user =>
      exact .before View.renewsFace_refreshFormat particular_isOfFace.spares_ofUser_rest
        View.touches_ofUser_rest (by simp) (by simp)
    | locale locale =>
      intro v exchanges v' hruns
      obtain ⟨_, _, _, _, rfl, hmodify, hrefresh⟩ := runs_bind.1 hruns
      obtain ⟨rfl, rfl⟩ := runs_modify.1 hmodify
      have hrenews := View.renewsFace_refreshFormat hrefresh
      exact hrenews
    | time | timeZone | visibility | wake | sleep | logoutEnabled | density =>
      simp [Operation.renewsFace, Event.renewsFace] at ho
  | updateAll | updateSettings | updateDateStyles | dozeTimeTick | setDarkAmount | setPulsing
  | marqueeTimerFired | contentChanged | logOut | replay => simp [Operation.renewsFace] at ho

theorem Operation.refreshes {o : Operation} (ho : o.refreshesFace = true)
    (hruns : o.handler.Runs v exchanges () v') : v.SameFace v' ∧ v.Refreshes exchanges := by
  -- the clock is drawn first, and what comes then leaves its face alone
  have hfirst : ∀ {areas : List Area} {f : Unit → Handler Unit},
      Spares Request.isOfFace (f ()) →
      Touches areas (f ()) → .layout ∉ areas → .time ∉ areas →
      (View.refreshTime >>= f).Runs v exchanges () v' → v.SameFace v' ∧ v.Refreshes exchanges := by
    intro areas f hface htouches hlayout htime hruns
    obtain ⟨first, second, _, v₁, rfl, hrefresh, hrest⟩ := runs_bind.1 hruns
    obtain ⟨rfl, accent, hdrawn⟩ := View.runs_refreshTime hrefresh
    refine ⟨htouches.sameFace hlayout htime hrest, accent, ?_⟩
    rw [face_append, show face second = [] from hface hrest, List.append_nil]
    exact hdrawn
  cases o with
  | dozeTimeTick =>
    exact hfirst (Spares.request rfl) (.command (.head [])) (by simp [Command.area])
      (by simp [Command.area]) hruns
  | event e =>
    cases e with
    | time =>
      obtain ⟨rfl, hrefreshes⟩ := View.runs_refreshTime hruns
      exact ⟨⟨rfl, rfl, rfl⟩, hrefreshes⟩
    | visibility isShowing =>
      obtain rfl : isShowing = true := ho
      exact hfirst particular_isOfFace.spares_ofUser_rest View.touches_ofUser_rest (by simp)
        (by simp) hruns
    | timeZone | wake | sleep | userSwitch | logoutEnabled | density | locale =>
      simp [Operation.refreshesFace, Event.refreshesFace] at ho
  | updateAll | updateSettings | updateDateStyles | setDarkAmount | setPulsing
  | marqueeTimerFired | contentChanged | logOut | replay => simp [Operation.refreshesFace] at ho

theorem View.faceless_handle {e : Event} (hrenews : e.renewsFace = false)
    (hrefreshes : e.refreshesFace = false) : Faceless (View.handle e) := by
  cases e with
  | timeZone zone => exact particular_isOfFace.spares_command rfl
  | visibility isShowing =>
    obtain rfl : isShowing = false := hrefreshes
    exact Spares.pure ()
  | wake => exact particular_isOfFace.spares_setMarqueeEnabled true
  | sleep why => exact particular_isOfFace.spares_setMarqueeEnabled false
  | logoutEnabled => exact particular_isOfFace.spares_updateLogoutView
  | density =>
    exact Spares.bind (particular_isOfFace.spares_command rfl) fun _ =>
      .bind particular_isOfFace.spares_refreshOwnerInfoSize fun _ => faceless_loadIconMargins
  | time => simp [Event.refreshesFace] at hrefreshes
  | userSwitch | locale => simp [Event.renewsFace] at hrenews

theorem Operation.faceless {o : Operation} (hrenews : o.renewsFace = false)
    (hrefreshes : o.refreshesFace = false) : Faceless o.handler := by
  cases o with
  | updateAll => exact particular_isOfFace.spares_updateAll
  | updateSettings => exact particular_isOfFace.spares_updateSettings
  | updateDateStyles => exact particular_isOfFace.spares_updateDateStyles
  | dozeTimeTick => simp [Operation.refreshesFace] at hrefreshes
  | setDarkAmount amount => exact particular_isOfFace.spares_setDarkAmount amount
  | setPulsing isPulsing => exact Spares.modify _
  | marqueeTimerFired => exact particular_isOfFace.spares_marqueeTimerFired
  | contentChanged => exact View.faceless_contentChanged
  | logOut => exact particular_isOfFace.spares_logOutCurrentUser
  | replay => exact Spares.pure ()
  | event e => exact View.faceless_handle hrenews hrefreshes

/-- No operation asks again for the colour that the text of the clock has by itself. -/
theorem Operation.answersTo_clockTextColor {o : Operation}
    (hruns : o.handler.Runs v exchanges () v') : answersTo .clockTextColor exchanges = [] := by
  have hface : answersTo .clockTextColor (face exchanges) = answersTo .clockTextColor exchanges :=
    answersTo_filter rfl exchanges
  rw [← hface]
  cases hrenews : o.renewsFace with
  | true => exact (Operation.renews hrenews hruns).answersTo_clockTextColor
  | false =>
    cases hrefreshes : o.refreshesFace with
    | true =>
      obtain ⟨-, accent, hdrawn⟩ := Operation.refreshes hrefreshes hruns
      rw [hdrawn]
      simp [answersTo, Exchange.answerTo?, refreshExchanges]
    | false => rw [Operation.faceless hrenews hrefreshes hruns, answersTo, List.filterMap_nil]

/-- What neither renews nor refreshes the face leaves the patterns as they are. -/
theorem Operation.sameIn_time {o : Operation} (hrenews : o.renewsFace = false)
    (hrefreshes : o.refreshesFace = false) (hruns : o.handler.Runs v exchanges () v') :
    v.SameIn v' .time := by
  cases o with
  | dozeTimeTick => simp [Operation.refreshesFace] at hrefreshes
  | updateAll | updateSettings | updateDateStyles | setDarkAmount | setPulsing
  | marqueeTimerFired | contentChanged | logOut | replay =>
    exact (Operation.touches _).runs hruns (by simp [Operation.areas])
  | event e =>
    cases e with
    | time => simp [Operation.refreshesFace, Event.refreshesFace] at hrefreshes
    | userSwitch | locale => simp [Operation.renewsFace, Event.renewsFace] at hrenews
    | visibility isShowing =>
      obtain rfl : isShowing = false := hrefreshes
      obtain ⟨-, -, rfl⟩ := runs_pure.1 hruns
      exact .refl v' .time
    | timeZone | wake | sleep | logoutEnabled | density =>
      exact (Operation.touches _).runs hruns (by simp [Operation.areas, Event.areas])

end Lockscreen

end DeviceStatus
