import DeviceStatus.Proofs.Device.Painted
import DeviceStatus.Proofs.Device.UserSwitch
import DeviceStatus.Proofs.Lockscreen.Header

/-!
# The gap above the notification icons

A gap is applied when the header comes or goes, with the size that was loaded last. A change of the
density loads the gaps anew but applies none, so the gap on the screen is the one of the time when
the header came or went. It is still the present one if the density has not changed since.
-/

namespace DeviceStatus.Device

open Lockscreen

variable {ℓ : Type}

/-- The last answer to a question in pieces of work, latest first. -/
def lastAnswer (q : Query) : List Piece → Option q.Answer
  | [] => none
  | p :: earlier => (answersTo q p.exchanges).getLast?.or (lastAnswer q earlier)

/-- Whether a task is the reaction to a change of the density. -/
def Task.isDensity : Task → Bool
  | create _ => false
  | operation o _ => o.isDensity

/-- How many changes of the density have been handled. -/
def densityChanges (pieces : List Piece) : Nat := pieces.countP (·.task.isDensity)

/-- The dimensions change only right before a change of the density is handled: after so many of
them, the dimensions are those of a table. -/
def DimensionsFollow (table : Nat → Dimension → Int32) : List Piece → Prop
  | [] => True
  | p :: earlier =>
    (∀ d, ∀ answer ∈ answersTo (.dimension d) p.exchanges,
      answer = table (densityChanges (p :: earlier)) d) ∧ DimensionsFollow table earlier

/-- A piece of work applied a gap, and nothing did later. It is the gap that was loaded last at that
time, for the header reported then, and later reports were the same. -/
structure LastApplied (pieces : List Piece) (hasHeader : Bool) (gap : Int32)
    (later : List Piece) : Prop where
  applied : ∃ p earlier, pieces = later ++ p :: earlier ∧ gapExchange gap ∈ p.exchanges ∧
    lastAnswer .hasHeader (p :: earlier) = some hasHeader ∧
    lastAnswer (.dimension (.iconGap hasHeader)) (p :: earlier) = some gap
  unapplied : ∀ p ∈ later, ∀ gap', gapExchange gap' ∉ p.exchanges
  reported : ∀ p ∈ later, ∀ answer ∈ answersTo .hasHeader p.exchanges, answer = hasHeader

/-- Whether a piece of work applied a gap. -/
def Piece.appliesGap (p : Piece) : Bool :=
  p.exchanges.any fun e => match e.request with
    | .command (.iconsTopMargin _) => true
    | _ => false

/-- What came after the last application did not apply a gap. -/
theorem LastApplied.later_eq {pieces later : List Piece} {hasHeader : Bool} {gap : Int32}
    (h : LastApplied pieces hasHeader gap later) :
    later = pieces.takeWhile fun p => !p.appliesGap := by
  obtain ⟨p, earlier, rfl, hp, -⟩ := h.applied
  have hthis : p.appliesGap = true := List.any_eq_true.2 ⟨_, hp, rfl⟩
  have hlater : ∀ p ∈ later, p.appliesGap = false := by
    intro p hp
    refine List.any_eq_false.2 ?_
    rintro ⟨r, answer⟩ he
    split
    · next gap' hr =>
      obtain rfl : r = .command (.iconsTopMargin gap') := hr
      exact absurd he (h.unapplied p hp gap')
    · simp
  rw [List.takeWhile_append_of_pos fun p hp => by simp [hlater p hp],
    List.takeWhile_cons_of_neg (by simp [hthis]), List.append_nil]

/-- What the view and the screen know of the header after pieces of work. -/
structure HeaderKnown (pieces : List Piece) (v : View) (shown : Option Int32) : Prop where
  reported : lastAnswer .hasHeader pieces = some v.isShowingHeader
  loaded : ∀ hasHeader,
    lastAnswer (.dimension (.iconGap hasHeader)) pieces = some (v.iconGap hasHeader)
  applied : ∀ gap, shown = some gap → ∃ later, LastApplied pieces v.isShowingHeader gap later ∧
    ((∀ p ∈ later, p.task.isDensity = false) → gap = v.iconGap v.isShowingHeader)
  current : ∀ table, DimensionsFollow table pieces → ∀ hasHeader,
    v.iconGap hasHeader = table (densityChanges pieces) (.iconGap hasHeader)

variable {p : Piece} {earlier pieces : List Piece} {v v' : View} {o : Operation}
  {exchanges : List Exchange} {shown : Option Int32}

/-! ## One piece of work -/

theorem lastAnswer_cons {q : Query} (hq : (Request.query q).isOfHeader = true) (task : Task)
    (exchanges : List Exchange) (earlier : List Piece) :
    lastAnswer q (⟨task, exchanges⟩ :: earlier) =
      (answersTo q (heading exchanges)).getLast?.or (lastAnswer q earlier) := by
  rw [answersTo_heading hq]
  rfl

theorem paint_iconsTopMargin_cons (task : Task) (exchanges : List Exchange)
    (earlier : List Piece) :
    (paint (⟨task, exchanges⟩ :: earlier)).iconsTopMargin =
      ((paint earlier).afterExchanges (heading exchanges)).iconsTopMargin :=
  (Screen.iconsTopMargin_heading _ exchanges).symm

/-- A piece of work without an order to apply a gap, and without another report, leaves the last
application to those before. -/
theorem LastApplied.next {hasHeader : Bool} {gap : Int32} {later : List Piece}
    (h : LastApplied pieces hasHeader gap later) (p : Piece)
    (hgap : ∀ gap', gapExchange gap' ∉ p.exchanges)
    (hreport : ∀ answer ∈ answersTo .hasHeader p.exchanges, answer = hasHeader) :
    LastApplied (p :: pieces) hasHeader gap (p :: later) where
  applied := by
    obtain ⟨first, earlier, rfl, hfirst⟩ := h.applied
    exact ⟨first, earlier, rfl, hfirst⟩
  unapplied := List.forall_mem_cons.2 ⟨hgap, h.unapplied⟩
  reported := List.forall_mem_cons.2 ⟨hreport, h.reported⟩

/-- What does nothing about the header leaves all that is known of it. -/
theorem HeaderKnown.spared (h : HeaderKnown pieces v shown) (hdensity : o.isDensity = false)
    (hspared : heading exchanges = []) (hsame : v.SameIn v' .header) :
    HeaderKnown (⟨.operation o v, exchanges⟩ :: pieces) v' shown := by
  obtain ⟨hshowing, hwithout, hwith⟩ := hsame
  have hgap : v'.iconGap = v.iconGap := by
    funext hasHeader
    cases hasHeader with
    | false => exact hwithout
    | true => exact hwith
  have hdone : densityChanges (⟨.operation o v, exchanges⟩ :: pieces) = densityChanges pieces :=
    List.countP_cons_of_neg (by simp [Task.isDensity, hdensity])
  refine ⟨?_, ?_, ?_, ?_⟩
  · rw [lastAnswer_cons rfl, hspared, hshowing]
    exact h.reported
  · intro hasHeader
    rw [lastAnswer_cons (isOfHeader_iconGap hasHeader), hspared, hgap]
    exact h.loaded hasHeader
  · intro gap hshown
    obtain ⟨later, hlast, hcurrent⟩ := h.applied gap hshown
    rw [hshowing, hgap]
    refine ⟨_, hlast.next _ ?_ ?_, fun hnone => hcurrent (List.forall_mem_cons.1 hnone).2⟩
    · intro gap' hmem
      rw [← gapExchange_mem_heading, hspared] at hmem
      simp at hmem
    · rw [← answersTo_heading rfl, hspared]
      simp [answersTo]
  · intro table hfollow hasHeader
    rw [hdone, hgap]
    exact h.current table hfollow.2 hasHeader

/-- A change of the density leaves the gap on the screen, whatever has been loaded. -/
theorem HeaderKnown.load (h : HeaderKnown pieces v shown) (hdensity : o.isDensity = true)
    {gap : Bool → Int32} (hload : heading exchanges = loadExchanges gap)
    (hshowing : v'.isShowingHeader = v.isShowingHeader) (hgap : v'.iconGap = gap) :
    HeaderKnown (⟨.operation o v, exchanges⟩ :: pieces) v' shown := by
  refine ⟨?_, ?_, ?_, ?_⟩
  · rw [lastAnswer_cons rfl, hload, answersTo_hasHeader_load, hshowing]
    exact h.reported
  · intro hasHeader
    rw [lastAnswer_cons (isOfHeader_iconGap hasHeader), hload, answersTo_iconGap_load, hgap]
    rfl
  · intro gap' hshown
    obtain ⟨later, hlast, -⟩ := h.applied gap' hshown
    rw [hshowing]
    refine ⟨_, hlast.next _ ?_ ?_, ?_⟩
    · intro gap'' hmem
      rw [← gapExchange_mem_heading, hload] at hmem
      exact gapExchange_notMem_load gap gap'' hmem
    · rw [← answersTo_heading rfl, hload, answersTo_hasHeader_load]
      simp
    · intro hnone
      have hnever := hnone _ List.mem_cons_self
      exact absurd (hnever.symm.trans hdensity) (by simp)
  · intro table hfollow hasHeader
    rw [hgap]
    refine hfollow.1 (.iconGap hasHeader) (gap hasHeader) ?_
    rw [← answersTo_heading (isOfHeader_iconGap hasHeader), hload, answersTo_iconGap_load]
    exact List.mem_singleton_self _

/-- When the header comes or goes, the gap that was loaded last is applied. -/
theorem HeaderKnown.report (h : HeaderKnown pieces v shown) (hdensity : o.isDensity = false)
    {hasHeader : Bool} (hreport : heading exchanges = reportExchanges v hasHeader) :
    HeaderKnown (⟨.operation o v, exchanges⟩ :: pieces) { v with isShowingHeader := hasHeader }
      (if v.isShowingHeader = hasHeader then shown else some (v.iconGap hasHeader)) := by
  have hreported : lastAnswer .hasHeader (⟨.operation o v, exchanges⟩ :: pieces) =
      some hasHeader := by
    rw [lastAnswer_cons rfl, hreport, answersTo_hasHeader_report]
    rfl
  have hloaded : ∀ hasHeader', lastAnswer (.dimension (.iconGap hasHeader'))
      (⟨.operation o v, exchanges⟩ :: pieces) = some (v.iconGap hasHeader') := by
    intro hasHeader'
    rw [lastAnswer_cons (isOfHeader_iconGap hasHeader'), hreport, answersTo_iconGap_report]
    exact h.loaded hasHeader'
  have hdone : densityChanges (⟨.operation o v, exchanges⟩ :: pieces) = densityChanges pieces :=
    List.countP_cons_of_neg (by simp [Task.isDensity, hdensity])
  refine ⟨hreported, hloaded, ?_, ?_⟩
  · intro gap hshown
    by_cases hsame : v.isShowingHeader = hasHeader
    · rw [if_pos hsame] at hshown
      obtain ⟨later, hlast, hcurrent⟩ := h.applied gap hshown
      rw [hsame] at hlast hcurrent
      refine ⟨_, hlast.next _ ?_ ?_, fun hnone => hcurrent (List.forall_mem_cons.1 hnone).2⟩
      · intro gap' hmem
        rw [← gapExchange_mem_heading, hreport, gapExchange_mem_report] at hmem
        exact hmem.1 hsame
      · rw [← answersTo_heading rfl, hreport, answersTo_hasHeader_report]
        simp
    · rw [if_neg hsame] at hshown
      obtain rfl : v.iconGap hasHeader = gap := Option.some.inj hshown
      refine ⟨[], ⟨⟨_, pieces, rfl, ?_, hreported, hloaded hasHeader⟩, by simp, by simp⟩,
        fun _ => rfl⟩
      rw [← gapExchange_mem_heading, hreport, gapExchange_mem_report]
      exact ⟨hsame, rfl⟩
  · intro table hfollow hasHeader'
    rw [hdone]
    exact h.current table hfollow.2 hasHeader'

theorem Screen.iconsTopMargin_report (x : Screen) (v : View) (hasHeader : Bool) :
    (x.afterExchanges (reportExchanges v hasHeader)).iconsTopMargin =
      if v.isShowingHeader = hasHeader then x.iconsTopMargin else some (v.iconGap hasHeader) := by
  unfold reportExchanges
  split <;> rfl

/-- A view that has just been made. -/
theorem headerKnown_create {locale : String}
    (hended : Piece.HasEnded ⟨.create locale, exchanges⟩ v) :
    HeaderKnown [⟨.create locale, exchanges⟩] v
      (paint [⟨.create locale, exchanges⟩]).iconsTopMargin := by
  obtain ⟨gap, hasHeader, v₀, hheading, hfresh, hgap₀, hshowing, hgap⟩ :=
    View.create_heading hended
  have hreported : lastAnswer .hasHeader [⟨.create locale, exchanges⟩] = some hasHeader := by
    rw [lastAnswer_cons rfl, hheading, answersTo_append, answersTo_hasHeader_load,
      answersTo_hasHeader_report]
    rfl
  have hloaded : ∀ hasHeader', lastAnswer (.dimension (.iconGap hasHeader'))
      [⟨.create locale, exchanges⟩] = some (gap hasHeader') := by
    intro hasHeader'
    rw [lastAnswer_cons (isOfHeader_iconGap hasHeader'), hheading, answersTo_append,
      answersTo_iconGap_load, answersTo_iconGap_report]
    rfl
  rw [← hshowing] at hreported
  rw [← hgap] at hloaded
  refine ⟨hreported, hloaded, ?_, ?_⟩
  · intro gap' hshown
    rw [paint_iconsTopMargin_cons, hheading, Screen.afterExchanges_append,
      Screen.iconsTopMargin_report] at hshown
    split at hshown
    · cases hshown
    · next hother =>
      obtain rfl : v₀.iconGap hasHeader = gap' := Option.some.inj hshown
      have hsame : v₀.iconGap hasHeader = v.iconGap v.isShowingHeader := by
        rw [hgap₀, hgap, hshowing]
      rw [hsame]
      refine ⟨[], ⟨⟨_, [], rfl, ?_, hreported, hloaded v.isShowingHeader⟩, by simp, by simp⟩,
        fun _ => rfl⟩
      rw [← hsame, ← gapExchange_mem_heading, hheading]
      exact List.mem_append_right _ (gapExchange_mem_report.2 ⟨hother, rfl⟩)
  · intro table hfollow hasHeader'
    refine hfollow.1 (.iconGap hasHeader') (v.iconGap hasHeader') ?_
    rw [← answersTo_heading (isOfHeader_iconGap hasHeader'), hheading, answersTo_append,
      answersTo_iconGap_load, answersTo_iconGap_report, hgap]
    exact List.mem_singleton_self _

/-! ## All pieces of work -/

/-- After every piece of work. -/
theorem Worked.headerKnown (h : Worked (p :: earlier)) (hended : p.HasEnded v) :
    HeaderKnown (p :: earlier) v (paint (p :: earlier)).iconsTopMargin := by
  generalize hpieces : p :: earlier = pieces at h
  induction h generalizing p earlier v with
  | made locale exchanges =>
    obtain ⟨rfl, rfl⟩ := List.cons.inj hpieces
    exact headerKnown_create hended
  | @next o v₀ exchanges p' earlier' hworked hlast ih =>
    obtain ⟨rfl, rfl⟩ := List.cons.inj hpieces
    have hknown := ih hlast rfl
    obtain ⟨_, hruns⟩ := Handler.after_reaches_done.1 hended
    rw [paint_iconsTopMargin_cons]
    cases hdensity : o.isDensity with
    | true =>
      obtain ⟨gap, hload, hshowing, hgap⟩ := Operation.runs_load hdensity hruns
      rw [hload]
      exact hknown.load hdensity hload hshowing hgap
    | false =>
      cases hreports : o.reportsHeader with
      | true =>
        obtain ⟨hasHeader, hreport, rfl⟩ := Operation.runs_report hreports hruns
        rw [hreport, Screen.iconsTopMargin_report]
        exact hknown.report hdensity hreport
      | false =>
        have hspared : heading exchanges = [] := Operation.spares_header hreports hdensity hruns
        rw [hspared]
        exact hknown.spared hdensity hspared (Operation.sameIn_header hreports hdensity hruns)

/-- Whenever the view is idle, the gap on the screen is the one that was loaded last when it was
applied, for the header that is still the one last reported. If no change of the density has been
handled since then, it is also the one that is loaded now; and where the dimensions change only
right before a change of the density is handled, the gaps loaded now are the present ones. -/
theorem icon_gap_as_last_applied (locale : String) (inputs : List (Input ℓ)) (v : View) :
    let start := System.start (ℓ := ℓ) locale
    let pieces := start.pieces inputs
    (start.run inputs).work = .idle (.present v) →
      ∃ hasHeader, lastAnswer .hasHeader pieces = some hasHeader ∧
        (∀ table, DimensionsFollow table pieces →
          lastAnswer (.dimension (.iconGap hasHeader)) pieces =
            some (table (densityChanges pieces) (.iconGap hasHeader))) ∧
        ∀ gap, (start.run inputs).screen.iconsTopMargin = some gap →
          ∃ later, LastApplied pieces hasHeader gap later ∧
            ((∀ p ∈ later, p.task.isDensity = false) →
              lastAnswer (.dimension (.iconGap hasHeader)) pieces = some gap) := by
  intro start pieces hidle
  have hdiary : Diary pieces (start.run inputs).work := diary_run locale inputs
  have hscreen : (start.run inputs).screen = (start.run inputs).work.pending (paint pieces) :=
    screen_eq_paint locale inputs
  rw [hidle] at hdiary hscreen
  generalize pieces = pieces at hdiary hscreen
  cases hdiary with
  | @idle p earlier v hworked hended =>
    have hknown := hworked.headerKnown hended
    refine ⟨v.isShowingHeader, hknown.reported, ?_, ?_⟩
    · intro table hfollow
      rw [← hknown.current table hfollow]
      exact hknown.loaded _
    · intro gap hshown
      rw [hscreen] at hshown
      obtain ⟨later, hlast, hcurrent⟩ := hknown.applied gap hshown
      refine ⟨later, hlast, fun hnone => ?_⟩
      rw [hcurrent hnone]
      exact hknown.loaded _

/-! ## A density that changes under a header -/

/-- The status area shows a header. -/
def headed : Surroundings where
  hasHeader := true
  bestPattern := fun _ skeleton => skeleton

/-- The same on a denser screen. -/
def headedDense : Surroundings :=
  { headed with
    resources := { Resources.fixed with
      dimension := fun | .iconMarginWithHeader => 50 | d => Dimension.fixed d } }

/-- The header comes, and then the density changes. -/
def denseUnderHeader : List (Input Empty) :=
  plainView ++ [.act (.perform .contentChanged)] ++ headed.uneventful 10 ++
    [.act (.attach "a"), .act (.change .density)] ++ headedDense.uneventful 20

/-- The dimensions before and after the density has changed. -/
def denseTable : Nat → Dimension → Int32
  | 0 => headed.resources.dimension
  | _ => headedDense.resources.dimension

theorem Dimension.mem_all (d : Dimension) : d ∈ Dimension.all := by
  cases d <;> decide

instance (table : Nat → Dimension → Int32) : (pieces : List Piece) →
    Decidable (DimensionsFollow table pieces)
  | [] => inferInstanceAs (Decidable True)
  | p :: earlier =>
    have : Decidable (DimensionsFollow table earlier) := instDecidableDimensionsFollow table earlier
    -- a search through the answers given, not through all answers that there are
    have : DecidablePred fun d => ∀ answer ∈ answersTo (.dimension d) p.exchanges,
        answer = table (densityChanges (p :: earlier)) d := fun _ => List.decidableBAll _ _
    have : Decidable (∀ d, ∀ answer ∈ answersTo (.dimension d) p.exchanges,
        answer = table (densityChanges (p :: earlier)) d) :=
      @decidable_of_iff _ _ ⟨fun h d => h d (Dimension.mem_all d), fun h d _ => h d⟩
        (List.decidableBAll _ Dimension.all)
    inferInstanceAs (Decidable (_ ∧ _))

/-- The run ends with an idle view, the header and the gap of before; the dimensions have changed
only right before the change of the density. -/
theorem idle_denseUnderHeader :
    let start := System.start "en"
    let pieces := start.pieces denseUnderHeader
    (∃ v, (start.run denseUnderHeader).work = .idle (.present v)) ∧
      (start.run denseUnderHeader).screen.iconsTopMargin = some 36 ∧
      lastAnswer .hasHeader pieces = some true ∧ DimensionsFollow denseTable pieces ∧
      densityChanges pieces = 1 := by
  intro start pieces
  have hview : (start.run denseUnderHeader).freeView?.isSome = true := by decide +kernel
  obtain ⟨v, hview⟩ := Option.isSome_iff_exists.1 hview
  refine ⟨⟨v, (shaped_run "en" denseUnderHeader).1.work_of_freeView? hview⟩, ?_, ?_, ?_, ?_⟩
  all_goals decide +kernel

/-- The density changes, and then the header comes and the time changes. -/
def headerWhenDense : List (Input Empty) :=
  plainView ++ [.act (.attach "a"), .act (.change .density)] ++
    { headedDense with hasHeader := false }.uneventful 20 ++
    [.act (.perform .contentChanged)] ++ headedDense.uneventful 10 ++
    [.act (.change .time)] ++ headedDense.uneventful 20

/-- If the density changes under the header, the gap on the screen is the one applied before that,
and the one that has been loaded since is another one. If the density has changed before the header
came, the gap on the screen is the one that was loaded last. -/
theorem icon_gap_as_last_applied_dense :
    let start := System.start "en"
    (∃ v, (start.run denseUnderHeader).work = .idle (.present v) ∧
      lastAnswer (.dimension (.iconGap true)) (start.pieces denseUnderHeader) = some 50 ∧
      ∃ later, LastApplied (start.pieces denseUnderHeader) true 36 later ∧
        ∃ p ∈ later, p.task.isDensity = true) ∧
      ∃ v, (start.run headerWhenDense).work = .idle (.present v) ∧
        (start.run headerWhenDense).screen.iconsTopMargin = some 50 ∧
        densityChanges (start.pieces headerWhenDense) = 1 ∧
        lastAnswer (.dimension (.iconGap true)) (start.pieces headerWhenDense) = some 50 ∧
        ∃ later, LastApplied (start.pieces headerWhenDense) true 50 later ∧ later ≠ [] ∧
          ∀ p ∈ later, p.task.isDensity = false := by
  intro start
  refine ⟨?_, ?_⟩
  · obtain ⟨⟨v, hidle⟩, hshown, hreported, hfollow, hchanges⟩ := idle_denseUnderHeader
    obtain ⟨hasHeader, hlast, hcurrent, hgap⟩ :=
      icon_gap_as_last_applied "en" denseUnderHeader v hidle
    obtain rfl : true = hasHeader := Option.some.inj (hreported.symm.trans hlast)
    have hloaded : lastAnswer (.dimension (.iconGap true)) (start.pieces denseUnderHeader) =
        some 50 := by
      rw [hcurrent denseTable hfollow, hchanges]
      rfl
    obtain ⟨later, happlied, hsame⟩ := hgap 36 hshown
    refine ⟨v, hidle, hloaded, later, happlied, ?_⟩
    by_contra hnone
    have hstill := hsame fun p hp => by simpa using fun hdensity => hnone ⟨p, hp, hdensity⟩
    exact absurd (hloaded.symm.trans hstill) (by decide)
  · have hview : (start.run headerWhenDense).freeView?.isSome = true := by decide +kernel
    obtain ⟨v, hview⟩ := Option.isSome_iff_exists.1 hview
    have hidle := (shaped_run "en" headerWhenDense).1.work_of_freeView? hview
    obtain ⟨hasHeader, hlast, -, hgap⟩ := icon_gap_as_last_applied "en" headerWhenDense v hidle
    have hreported : lastAnswer .hasHeader (start.pieces headerWhenDense) = some true := by
      decide +kernel
    obtain rfl : true = hasHeader := Option.some.inj (hreported.symm.trans hlast)
    have hshown : (start.run headerWhenDense).screen.iconsTopMargin = some 50 := by decide +kernel
    obtain ⟨later, happlied, hsame⟩ := hgap 50 hshown
    have hlater : (start.pieces headerWhenDense).takeWhile (fun p => !p.appliesGap) ≠ [] ∧
        ∀ p ∈ (start.pieces headerWhenDense).takeWhile (fun p => !p.appliesGap),
          p.task.isDensity = false := by
      constructor <;> decide +kernel
    rw [← happlied.later_eq] at hlater
    exact ⟨v, hidle, hshown, by decide +kernel, hsame hlater.2, later, happlied, hlater⟩

/-- So the gap on the screen is not always the present one for the header. -/
theorem not_icon_gap_current :
    ¬ ∀ (locale : String) (inputs : List (Input Empty)) (v : View)
        (table : Nat → Dimension → Int32) (hasHeader : Bool) (gap : Int32),
      ((System.start locale).run inputs).work = .idle (.present v) →
        DimensionsFollow table ((System.start locale).pieces inputs) →
        lastAnswer .hasHeader ((System.start locale).pieces inputs) = some hasHeader →
        ((System.start locale).run inputs).screen.iconsTopMargin = some gap →
          gap = table (densityChanges ((System.start locale).pieces inputs))
            (.iconGap hasHeader) := by
  intro h
  obtain ⟨⟨v, hidle⟩, hshown, hreported, hfollow, hchanges⟩ := idle_denseUnderHeader
  have hgap := h "en" denseUnderHeader v denseTable true 36 hidle hfollow hreported hshown
  rw [hchanges] at hgap
  exact absurd hgap (by decide)

end DeviceStatus.Device
