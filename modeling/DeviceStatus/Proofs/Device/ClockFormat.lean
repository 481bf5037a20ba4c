import DeviceStatus.Proofs.Device.Painted
import DeviceStatus.Proofs.Device.UserSwitch
import DeviceStatus.Proofs.Lockscreen.ClockDrawn

/-!
# The format of the clock

The digital clock is told its format when the clock is drawn. Taking over another clock from the
settings lays the screen out for it and does not draw it, so the format on the screen is that of the
clock that was drawn last, in the patterns that the view still holds. This is the clock of the view
as long as none has been taken over since.
-/

namespace DeviceStatus

namespace Lockscreen

open Clock (Patterns)

variable {exchanges : List Exchange} {x : Screen} {refresh : Clock.Refresh}

/-- What was done last to bring a clock up to the present time. The format of the digital clock
stays behind the other clocks. -/
structure Screen.ShowsTime (x : Screen) (refresh : Clock.Refresh) : Prop where
  clockRefresh : x.clockRefresh = some refresh
  clockFormat : ∀ format, refresh = .format format → x.clockFormat = some format

theorem Screen.showsTime_after_ofRefresh (x : Screen) (refresh : Clock.Refresh) :
    (x.after (.ofRefresh refresh)).ShowsTime refresh := by
  cases refresh with
  | format format =>
    refine ⟨rfl, ?_⟩
    rintro _ ⟨⟩
    rfl
  | widget slot => exact ⟨rfl, by simp⟩

/-- Only what draws the face of a clock changes the time on the screen. -/
theorem Screen.ShowsTime.request (h : x.ShowsTime refresh) {r : Request}
    (hr : r.isOfFace = false) : (x.afterRequest r).ShowsTime refresh := by
  have hsame : (x.afterRequest r).clockFormat = x.clockFormat ∧
      (x.afterRequest r).clockRefresh = x.clockRefresh := by
    cases r with
    | fact | query | user | log => exact ⟨rfl, rfl⟩
    | command c =>
      cases c with
      | clockFormat | clockTimeChanged => simp [Request.isOfFace, Command.isOfFace] at hr
      | _ => exact ⟨rfl, rfl⟩
  obtain ⟨hformat, hrefresh⟩ := hsame
  exact ⟨hrefresh.trans h.clockRefresh, fun format hf => hformat.trans (h.clockFormat format hf)⟩

theorem Screen.ShowsTime.faceless (h : x.ShowsTime refresh) (hface : face exchanges = []) :
    (x.afterExchanges exchanges).ShowsTime refresh := by
  have hnone := List.filter_eq_nil_iff.1 hface
  clear hface
  induction exchanges generalizing x with
  | nil => exact h
  | cons e exchanges ih =>
    obtain ⟨hhead, htail⟩ := List.forall_mem_cons.1 hnone
    exact ih (h.request (by simpa using hhead)) htail

/-- After a clock has been drawn, its time is on the screen. -/
theorem Draws.showsTime {clock : Clock.Style} {patterns : Patterns} {accent : UInt32}
    (h : Draws exchanges clock patterns accent) (x : Screen) :
    (x.afterExchanges exchanges).ShowsTime (clock.refresh patterns accent) := by
  obtain ⟨asked, -, hface⟩ := h
  -- the order comes behind what was asked, and what is behind the order is not about the face
  obtain ⟨before, after, rfl, -, hlast⟩ := List.filter_eq_append_iff.1 hface
  obtain ⟨between, rest, rfl, -, -, hdraw⟩ := List.filter_eq_cons_iff.1 hlast
  obtain ⟨still, rest, rfl, -, -, hrest⟩ := List.filter_eq_cons_iff.1 hdraw
  simp only [Screen.afterExchanges_append, Screen.afterExchanges_cons]
  exact (Screen.showsTime_after_ofRefresh _ _).faceless hrest

/-- Whether an operation takes over the clock that is chosen in the settings. -/
def Operation.takesClock : Operation → Bool
  | updateAll | updateSettings => true
  | _ => false

/-- All other operations leave the view with the clock that it has. -/
theorem Operation.clock_eq {o : Operation} (ho : o.takesClock = false) {v v' : View}
    (hruns : o.handler.Runs v exchanges () v') : v'.clock = v.clock := by
  have hlayout : .layout ∉ o.areas := by
    cases o with
    | updateAll | updateSettings => simp [Operation.takesClock] at ho
    | event e => cases e <;> simp [Operation.areas, Device.Event.areas, Area.ofUser]
    | _ => simp [Operation.areas]
  exact (Operation.touches o).runs hruns hlayout

end Lockscreen

namespace Device

open Lockscreen
open Clock (Patterns)

variable {ℓ : Type}

/-! ## The clock that was drawn last -/

/-- Whether a task draws the clock. -/
def Task.drawsFace : Task → Bool
  | create _ => true
  | operation o _ => o.renewsFace || o.refreshesFace

/-- Whether a task takes over the clock that is chosen in the settings. -/
def Task.takesClock : Task → Bool
  | create _ => true
  | operation o _ => o.takesClock

/-- What a clock is drawn with. -/
structure Drawing where
  clock : Clock.Style
  patterns : Patterns
  accent : UInt32

/-- What is done to bring the clock up to the present time. -/
def Drawing.refresh (d : Drawing) : Clock.Refresh := d.clock.refresh d.patterns d.accent

/-- A piece of work drew the clock, and nothing did later. The view still holds the patterns of that
time, and also the clock, if none was taken over later. -/
structure LastDrawn (pieces : List Piece) (v : View) (d : Drawing) (later : List Piece) :
    Prop where
  drawn : ∃ p earlier, pieces = later ++ p :: earlier ∧ p.task.drawsFace = true ∧
    Draws p.exchanges d.clock d.patterns d.accent
  undrawn : ∀ p ∈ later, p.task.drawsFace = false
  patterns : v.patternCache.patterns? = some d.patterns
  clock : (∀ p ∈ later, p.task.takesClock = false) → v.clock = d.clock

variable {p : Piece} {earlier : List Piece} {v : View}

/-- A piece of work that has just drawn the clock is the last to have done so. -/
theorem LastDrawn.now (hp : p.task.drawsFace = true) {patterns : Patterns} {accent : UInt32}
    (hdraws : Draws p.exchanges v.clock patterns accent)
    (hpatterns : v.patternCache.patterns? = some patterns) :
    LastDrawn (p :: earlier) v ⟨v.clock, patterns, accent⟩ [] where
  drawn := ⟨p, earlier, rfl, hp, hdraws⟩
  undrawn := by simp
  patterns := hpatterns
  clock _ := rfl

/-- A piece of work that does not draw the clock leaves the last drawing to the pieces before. -/
theorem LastDrawn.next {pieces later : List Piece} {d : Drawing} {o : Operation} {v' : View}
    {exchanges : List Exchange} (h : LastDrawn pieces v d later) (hrenews : o.renewsFace = false)
    (hrefreshes : o.refreshesFace = false) (hruns : o.handler.Runs v exchanges () v') :
    LastDrawn (⟨.operation o v, exchanges⟩ :: pieces) v' d
      (⟨.operation o v, exchanges⟩ :: later) where
  drawn := by
    obtain ⟨p, earlier, rfl, hp, hdraws⟩ := h.drawn
    exact ⟨p, earlier, rfl, hp, hdraws⟩
  undrawn := List.forall_mem_cons.2 ⟨by simp [Task.drawsFace, hrenews, hrefreshes], h.undrawn⟩
  patterns := by
    obtain ⟨-, hcache⟩ := Operation.sameIn_time hrenews hrefreshes hruns
    rw [hcache]
    exact h.patterns
  clock hlater := by
    obtain ⟨hthis, hbefore⟩ := List.forall_mem_cons.1 hlater
    exact (Operation.clock_eq hthis hruns).trans (h.clock hbefore)

/-- What came after the last drawing did not draw. -/
theorem LastDrawn.later_eq {pieces later : List Piece} {d : Drawing}
    (h : LastDrawn pieces v d later) :
    later = pieces.takeWhile fun p => !p.task.drawsFace := by
  obtain ⟨p, earlier, rfl, hp, -⟩ := h.drawn
  rw [List.takeWhile_append_of_pos fun p hp => by simp [h.undrawn p hp],
    List.takeWhile_cons_of_neg (by simp [hp]), List.append_nil]

/-- After every piece of work there is a last drawing, and its time is on the screen. -/
theorem Worked.lastDrawn (h : Worked (p :: earlier)) (hended : p.HasEnded v) :
    ∃ d later, LastDrawn (p :: earlier) v d later ∧ (paint (p :: earlier)).ShowsTime d.refresh := by
  generalize hpieces : p :: earlier = pieces at h
  induction h generalizing p earlier v with
  | made locale exchanges =>
    obtain ⟨rfl, rfl⟩ := List.cons.inj hpieces
    obtain ⟨color, later, hexchanges, hrenews⟩ := View.create_renews hended
    obtain rfl : exchanges = _ := hexchanges
    obtain ⟨key, patterns, accent, hentry, hdraws⟩ := hrenews.draws
    have hdrawn := hdraws.cons (e := ⟨.query .clockTextColor, color⟩) rfl
    have hpatterns : v.patternCache.patterns? = some patterns := congrArg (Option.map _) hentry
    exact ⟨_, [], .now rfl hdrawn hpatterns, hdrawn.showsTime _⟩
  | @next o v₀ exchanges p' earlier' hworked hlast ih =>
    obtain ⟨rfl, rfl⟩ := List.cons.inj hpieces
    obtain ⟨d, later, hlastDrawn, htime⟩ := ih hlast rfl
    obtain ⟨_, hruns⟩ := Handler.after_reaches_done.1 hended
    cases hrenews : o.renewsFace with
    | true =>
      obtain ⟨key, patterns, accent, hentry, hdraws⟩ := (Operation.renews hrenews hruns).draws
      have hpatterns : v.patternCache.patterns? = some patterns := congrArg (Option.map _) hentry
      exact ⟨_, [], .now (by simp [Task.drawsFace, hrenews]) hdraws hpatterns, hdraws.showsTime _⟩
    | false =>
      cases hrefreshes : o.refreshesFace with
      | true =>
        obtain ⟨hsame, hrefreshed⟩ := Operation.refreshes hrefreshes hruns
        obtain ⟨accent, hdraws⟩ := hrefreshed.draws
        -- nothing looks the patterns up here: they are those of the drawing before
        rw [hlastDrawn.patterns, Option.getD_some, ← hsame.clock] at hdraws
        have hpatterns : v.patternCache.patterns? = some d.patterns := by
          rw [hsame.patternCache]
          exact hlastDrawn.patterns
        exact ⟨_, [], .now (by simp [Task.drawsFace, hrefreshes]) hdraws hpatterns,
          hdraws.showsTime _⟩
      | false =>
        exact ⟨d, _, hlastDrawn.next hrenews hrefreshes hruns,
          htime.faceless (Operation.faceless hrenews hrefreshes hruns)⟩

/-- Whenever the view is idle, the screen shows the time of the clock that was drawn last, in the
patterns that the view holds and in the accent that was asked for then. If no clock has been taken
over from the settings since and the clock of the view is the digital one, then the format on the
screen is the format of this clock. -/
theorem clock_format_as_last_drawn (locale : String) (inputs : List (Input ℓ)) (v : View) :
    let start := System.start (ℓ := ℓ) locale
    let screen := (start.run inputs).screen
    (start.run inputs).work = .idle (.present v) →
      ∃ d later, LastDrawn (start.pieces inputs) v d later ∧ screen.ShowsTime d.refresh ∧
        ((∀ p ∈ later, p.task.takesClock = false) → ∀ format,
          v.clock.refresh d.patterns d.accent = .format format →
            screen.clockFormat = some format) := by
  intro start screen hidle
  have hdiary : Diary (start.pieces inputs) (start.run inputs).work := diary_run locale inputs
  have hscreen : screen = (start.run inputs).work.pending (paint (start.pieces inputs)) :=
    screen_eq_paint locale inputs
  rw [hidle] at hdiary hscreen
  generalize start.pieces inputs = pieces at hdiary hscreen
  cases hdiary with
  | idle hworked hended =>
    obtain ⟨d, later, hlast, htime⟩ := hworked.lastDrawn hended
    have htime : screen.ShowsTime d.refresh := hscreen ▸ htime
    refine ⟨d, later, hlast, htime, fun hkept format hformat => ?_⟩
    rw [hlast.clock hkept] at hformat
    exact htime.clockFormat format hformat

/-! ## A clock that is taken over -/

/-- The system user has chosen the clock with a bold hour. -/
def boldHour : Surroundings where
  settings := [((.clock, some 0), 3)]
  bestPattern := fun _ skeleton => skeleton

/-- A view is made for a user who has not chosen a clock; then one is chosen and taken over. -/
def boldTakenOver : List (Input Empty) :=
  plainView ++ [.act (.perform .updateSettings)] ++ boldHour.uneventful 20

theorem idle_boldTakenOver :
    let s := (System.start "en").run boldTakenOver
    ∃ v, s.work = .idle (.present v) ∧ v.clock = .defaultBold ∧
      s.screen.clockFormat = some ⟨"hm", "Hm"⟩ := by
  intro s
  have hview : s.freeView?.map (·.clock) = some .defaultBold := by decide +kernel
  have hformat : s.screen.clockFormat = some ⟨"hm", "Hm"⟩ := by decide +kernel
  obtain ⟨v, hview, hbold⟩ := Option.map_eq_some_iff.1 hview
  exact ⟨v, (shaped_run "en" boldTakenOver).1.work_of_freeView? hview, hbold, hformat⟩

/-- After that the time changes, so that the clock is drawn, and the date is taken over. -/
def boldDrawn : List (Input Empty) :=
  boldTakenOver ++ [.act (.perform (.event .time))] ++ boldHour.uneventful 20 ++
    [.act (.perform .updateDateStyles)] ++ boldHour.uneventful 20

/-- When the clock with the bold hour has just been taken over, it is another clock that was drawn
last. When it has been drawn and only the date has been taken over since, the format is its own. -/
theorem clock_format_as_last_drawn_taken_over :
    let start := System.start "en"
    (∃ v, (start.run boldTakenOver).work = .idle (.present v) ∧ v.clock = .defaultBold ∧
      ∃ d later, LastDrawn (start.pieces boldTakenOver) v d later ∧
        (start.run boldTakenOver).screen.ShowsTime d.refresh ∧ d.clock ≠ v.clock ∧
        ∃ p ∈ later, p.task.takesClock = true) ∧
      ∃ v, (start.run boldDrawn).work = .idle (.present v) ∧ v.clock = .defaultBold ∧
        ∃ d later, LastDrawn (start.pieces boldDrawn) v d later ∧ later ≠ [] ∧
          (∀ p ∈ later, p.task.takesClock = false) ∧ (start.run boldDrawn).screen.clockFormat =
            some ⟨"<strong>h</strong>:mm", "<strong>kk</strong>:mm"⟩ := by
  intro start
  refine ⟨?_, ?_⟩
  · obtain ⟨v, hidle, hbold, hformat⟩ := idle_boldTakenOver
    obtain ⟨d, later, hlast, htime, -⟩ := clock_format_as_last_drawn "en" boldTakenOver v hidle
    have hother : d.clock ≠ v.clock := by
      intro hsame
      have hshown := htime.clockFormat ⟨"<strong>h</strong>:mm", "<strong>kk</strong>:mm"⟩ (by
        rw [Drawing.refresh, hsame, hbold]
        rfl)
      exact absurd (hformat.symm.trans hshown) (by decide)
    refine ⟨v, hidle, hbold, d, later, hlast, htime, hother, ?_⟩
    by_contra hnone
    refine hother (hlast.clock fun p hp => ?_).symm
    simpa using fun htakes => hnone ⟨p, hp, htakes⟩
  · have hview : (start.run boldDrawn).freeView?.map (·.clock) = some .defaultBold := by
      decide +kernel
    obtain ⟨v, hview, hbold⟩ := Option.map_eq_some_iff.1 hview
    have hidle := (shaped_run "en" boldDrawn).1.work_of_freeView? hview
    obtain ⟨d, later, hlast, -, hformat⟩ := clock_format_as_last_drawn "en" boldDrawn v hidle
    have hlater : (start.pieces boldDrawn).takeWhile (fun p => !p.task.drawsFace) ≠ [] ∧
        ∀ p ∈ (start.pieces boldDrawn).takeWhile (fun p => !p.task.drawsFace),
          p.task.takesClock = false := by
      constructor <;> decide +kernel
    rw [← hlast.later_eq] at hlater
    refine ⟨v, hidle, hbold, d, later, hlast, hlater.1, hlater.2, hformat hlater.2 _ ?_⟩
    rw [hbold]
    rfl

/-- So the digital clock does not always have the format of the clock of the view. -/
theorem not_format_of_clock :
    ¬ ∀ (locale : String) (inputs : List (Input Empty)) (v : View),
      ((System.start locale).run inputs).work = .idle (.present v) →
        ∃ patterns accent, v.patternCache.patterns? = some patterns ∧
          ∀ format, v.clock.refresh patterns accent = .format format →
            ((System.start locale).run inputs).screen.clockFormat = some format := by
  intro h
  obtain ⟨v, hidle, hbold, hformat⟩ := idle_boldTakenOver
  obtain ⟨patterns, accent, -, hshown⟩ := h "en" boldTakenOver v hidle
  rw [hbold] at hshown
  exact absurd (hformat.symm.trans (hshown _ rfl)) (by decide)

end Device

end DeviceStatus
