import DeviceStatus.Proofs.Device.Delivery
import DeviceStatus.Proofs.Device.Pieces
import DeviceStatus.Proofs.Lockscreen.ClockDrawn

/-!
# The clock in the patterns of the locale

The patterns of the clock are computed when the view is made and on a change of the locale or of the
user, and used until the next of these. `Renewed` ties together what has to agree in between: the
locale of the view, the skeletons that it was told when it last asked for them, and the entry of the
cache. Each piece of work keeps that up, so whenever a clock is drawn, it is drawn in the patterns
that would be found if they were looked for then.
-/

namespace DeviceStatus.Device

open Lockscreen
open Clock (PatternKey Patterns)

variable {ℓ : Type}

/-- Whether a task looks for the patterns of the clock. -/
def Task.renewsFace : Task → Bool
  | create _ => true
  | operation o _ => o.renewsFace

/-- The latest of the pieces of work that looked for the patterns of the clock. -/
def lastRenewal? (pieces : List Piece) : Option Piece := pieces.find? (·.task.renewsFace)

/-- After these pieces of work, the view holds the patterns that a generator gives for its locale
and for the skeletons that were asked for last. -/
structure Renewed (best : String → String → String) (pieces : List Piece) (v : View)
    (key : PatternKey) : Prop where
  inPatterns : v.InPatterns best key
  skeletons : ∃ source, lastRenewal? pieces = some source ∧
    answersTo (.label .clock12Skeleton) source.exchanges = [key.skeleton12] ∧
    answersTo (.label .clock24Skeleton) source.exchanges = [key.skeleton24]

variable {best : String → String → String} {p : Piece} {earlier : List Piece} {v : View}

theorem lastRenewal?_of_renews (hp : p.task.renewsFace = true) (earlier : List Piece) :
    lastRenewal? (p :: earlier) = some p :=
  List.find?_cons_of_pos hp

theorem lastRenewal?_of_other (hp : p.task.renewsFace = false) (earlier : List Piece) :
    lastRenewal? (p :: earlier) = lastRenewal? earlier :=
  List.find?_cons_of_neg (by simp [hp])

/-- Exchanges that are not about the face of the clock do not matter to what was renewed. -/
theorem Renewed.of_append {task : Task} {exchanges rest : List Exchange} {key : PatternKey}
    (h : Renewed best (⟨task, exchanges ++ rest⟩ :: earlier) v key) (hrest : face rest = []) :
    Renewed best (⟨task, exchanges⟩ :: earlier) v key := by
  refine ⟨h.inPatterns, ?_⟩
  obtain ⟨source, hsource, h12, h24⟩ := h.skeletons
  cases htask : task.renewsFace with
  | true =>
    rw [lastRenewal?_of_renews htask] at hsource
    obtain rfl := Option.some.inj hsource
    have hanswers : ∀ q : Query, q.isOfFace = true →
        answersTo q (exchanges ++ rest) = answersTo q exchanges := by
      intro q hq
      have hnil : answersTo q (face rest) = answersTo q rest := answersTo_filter hq rest
      rw [hrest] at hnil
      rw [answersTo_append, ← hnil]
      exact List.append_nil _
    rw [hanswers _ rfl] at h12 h24
    exact ⟨_, lastRenewal?_of_renews htask earlier, h12, h24⟩
  | false =>
    rw [lastRenewal?_of_other htask] at hsource
    exact ⟨source, (lastRenewal?_of_other htask earlier).trans hsource, h12, h24⟩

/-! ## Along the pieces of work -/

/-- All pieces of work leave the patterns of the view in line with its locale, and if they draw the
clock, they draw it in them. -/
theorem Worked.renewed (h : Worked (p :: earlier)) (hended : p.HasEnded v)
    (hanswers : ∀ p' ∈ p :: earlier, AnsweredBy best p'.exchanges) :
    ∃ key, Renewed best (p :: earlier) v key ∧
      (face p.exchanges = [] ∨
        ∃ accent, Draws p.exchanges v.clock (Patterns.of best key) accent) := by
  generalize hpieces : p :: earlier = pieces at h
  induction h generalizing p earlier v with
  | made locale exchanges =>
    obtain ⟨rfl, rfl⟩ := List.cons.inj hpieces
    obtain ⟨color, later, hexchanges, hrenews⟩ := View.create_renews hended
    obtain rfl : exchanges = _ := hexchanges
    have hlater : AnsweredBy best later := fun locale skeleton pattern hmem =>
      hanswers _ List.mem_cons_self locale skeleton pattern (List.mem_cons_of_mem _ hmem)
    obtain ⟨key, accent, hin, h12, h24, hdraws⟩ := hrenews.inPatterns filledBy_empty hlater
    have hsame : ∀ l, answersTo (.label l) (⟨.query .clockTextColor, color⟩ :: later) =
        answersTo (.label l) later := by
      intro l
      simp [answersTo, Exchange.answerTo?]
    refine ⟨key, ⟨hin, _, lastRenewal?_of_renews rfl [], ?_, ?_⟩, .inr ⟨accent, hdraws.cons rfl⟩⟩
    · exact (hsame _).trans h12
    · exact (hsame _).trans h24
  | @next o v₀ exchanges p' earlier' hworked hlast ih =>
    obtain ⟨rfl, rfl⟩ := List.cons.inj hpieces
    obtain ⟨hthis, hbefore⟩ := List.forall_mem_cons.1 hanswers
    obtain ⟨key, hrenewed, -⟩ := ih hlast hbefore rfl
    obtain ⟨_, hruns⟩ := Handler.after_reaches_done.1 hended
    have hrenews := lastRenewal?_of_renews (p := ⟨.operation o v₀, exchanges⟩)
    have hother := lastRenewal?_of_other (p := ⟨.operation o v₀, exchanges⟩)
    cases ho : o.renewsFace with
    | true =>
      obtain ⟨key', accent, hin, h12, h24, hdraws⟩ :=
        (Operation.renews ho hruns).inPatterns hrenewed.inPatterns.filledBy hthis
      exact ⟨key', ⟨hin, _, hrenews ho _, h12, h24⟩, .inr ⟨accent, hdraws⟩⟩
    | false =>
      obtain ⟨hin, hdraws⟩ := Operation.inPatterns ho hruns hrenewed.inPatterns
      obtain ⟨source, hsource, hskeletons⟩ := hrenewed.skeletons
      exact ⟨key, ⟨hin, source, (hother ho _).trans hsource, hskeletons⟩, hdraws⟩

/-- If a piece of work draws the clock, it does so once. -/
theorem Task.draws {task : Task} {exchanges : List Exchange}
    (h : task.program.Reaches exchanges (.done v)) :
    face exchanges = [] ∨ ∃ patterns accent, Draws exchanges v.clock patterns accent := by
  cases task with
  | create locale =>
    obtain ⟨color, later, rfl, hrenews⟩ := View.create_renews h
    obtain ⟨_, patterns, accent, -, hdraws⟩ := hrenews.draws
    exact .inr ⟨patterns, accent, hdraws.cons rfl⟩
  | operation o v₀ =>
    obtain ⟨_, hruns⟩ := Handler.after_reaches_done.1 h
    exact Operation.draws hruns

/-- Where a piece of work draws the clock, it draws it in the patterns that are in line with the
locale then. -/
theorem Worked.drawn (h : Worked (p :: earlier))
    (hanswers : ∀ p' ∈ p :: earlier, AnsweredBy best p'.exchanges) {before after : List Exchange}
    {c : Command} (hexchanges : p.exchanges = before ++ ⟨.command c, ()⟩ :: after)
    (hc : c.isOfFace = true) (hend : p.MayEnd v) :
    ∃ key accent, Renewed best (p :: earlier) v key ∧
      (answersTo .accent before).getLast? = some accent ∧
      c = .ofRefresh (v.clock.refresh (Patterns.of best key) accent) := by
  obtain ⟨rest, hreaches⟩ := hend
  have hsplit : p.exchanges ++ rest = before ++ ⟨.command c, ()⟩ :: (after ++ rest) := by
    rw [hexchanges, List.append_assoc, List.cons_append]
  have hdrawn : face (p.exchanges ++ rest) ≠ [] := by
    rw [hsplit, face_append, face_cons (e := ⟨.command c, ()⟩) hc]
    simp
  -- nothing about the face is left to be done, so no patterns are asked for either
  have hrest : face rest = [] := by
    obtain ⟨patterns, accent, hdraws⟩ := (Task.draws hreaches).resolve_left hdrawn
    rw [hsplit] at hdraws
    have hlater := (hdraws.drawn hc).2.2
    rw [face_append] at hlater
    exact (List.append_eq_nil_iff.1 hlater).2
  obtain ⟨hthis, hbefore⟩ := List.forall_mem_cons.1 hanswers
  obtain ⟨key, hrenewed, hdraws⟩ := Worked.renewed (h.exchanges (p.exchanges ++ rest)) hreaches
    (List.forall_mem_cons.2 ⟨hthis.append hrest, hbefore⟩)
  obtain ⟨accent, hdraws⟩ := hdraws.resolve_left hdrawn
  rw [hsplit] at hdraws
  obtain ⟨haccent, horder, -⟩ := hdraws.drawn hc
  exact ⟨key, accent, hrenewed.of_append hrest, haccent, horder⟩

/-! ## Along a run -/

/-- With a generator that always gives the same pattern for a locale and a skeleton, the clock is
always drawn in the patterns of the locale. Whenever the view rests, and whenever an operation
begins, the cache holds the patterns that the generator gives for the locale of the view and for the
skeletons that the resources gave at the latest creation, change of the locale or change of the
user. And all orders to the clock bring it up to the present time in these patterns, and with the
accent that was just asked for. -/
theorem clock_in_patterns_of_locale (best : String → String → String) (locale : String)
    (inputs : List (Input ℓ))
    (hbest : ∀ answers, .reply answers ∈ inputs → ∀ locale skeleton,
      answers (.query (.bestPattern locale skeleton)) = best locale skeleton) :
    let start := System.start (ℓ := ℓ) locale
    let pieces := start.pieces inputs
    (∀ v, (start.run inputs).work = .idle (.present v) → ∃ key, Renewed best pieces v key) ∧
      (∀ later o v exchanges earlier, pieces = later ++ ⟨.operation o v, exchanges⟩ :: earlier →
        ∃ key, Renewed best earlier v key) ∧
      ∀ later p earlier before c after, pieces = later ++ p :: earlier →
        p.exchanges = before ++ ⟨.command c, ()⟩ :: after → c.isOfFace = true →
        (∃ v, p.MayEnd v) ∧ ∀ v, p.MayEnd v → ∃ key accent, Renewed best (p :: earlier) v key ∧
          (answersTo .accent before).getLast? = some accent ∧
          c = .ofRefresh (v.clock.refresh (Patterns.of best key) accent) := by
  intro start pieces
  have hdiary : Diary pieces (start.run inputs).work := diary_run locale inputs
  have hanswers : ∀ p ∈ pieces, AnsweredBy best p.exchanges := by
    intro p hp locale skeleton pattern hmem
    obtain ⟨answers, hreply, heq⟩ := System.exists_reply_of_piece hp hmem rfl
    have hpattern : pattern = answers (.query (.bestPattern locale skeleton)) :=
      eq_of_heq (Exchange.mk.inj heq).2
    rw [hpattern]
    exact hbest answers hreply locale skeleton
  have hsuffix : ∀ {later earlier : List Piece}, pieces = later ++ earlier →
      ∀ p ∈ earlier, AnsweredBy best p.exchanges := by
    intro later earlier heq p hp
    exact hanswers p (heq ▸ List.mem_append_right later hp)
  refine ⟨?_, ?_, ?_⟩
  · intro v hidle
    rw [hidle] at hdiary
    generalize hpieces : pieces = all at hdiary
    cases hdiary with
    | idle hworked hended =>
      obtain ⟨key, hrenewed, -⟩ := hworked.renewed hended (hpieces ▸ hanswers)
      exact ⟨key, hrenewed⟩
  · intro later o v exchanges earlier hpieces
    obtain ⟨hworked, -⟩ := Diary.split (hpieces ▸ hdiary)
    cases hworked with
    | next _ _ hbefore hended =>
      obtain ⟨-, hanswers⟩ := List.forall_mem_cons.1 (hsuffix hpieces)
      obtain ⟨key, hrenewed, -⟩ := hbefore.renewed hended hanswers
      exact ⟨key, hrenewed⟩
  · intro later p earlier before c after hpieces hexchanges hc
    obtain ⟨hworked, hend⟩ := Diary.split (hpieces ▸ hdiary)
    exact ⟨hend, fun v hv => hworked.drawn (hsuffix hpieces) hexchanges hc hv⟩

/-! ## A view that moves to another language -/

/-- The generator puts the locale before the skeleton. -/
def labelled : Surroundings where
  bestPattern := fun locale skeleton => locale ++ " " ++ skeleton

/-- A view is made, the locale changes, and some time later the time goes on. -/
def movedToGerman : List (Input Empty) :=
  .act .create :: labelled.uneventful 70 ++
    [.act (.attach "a"), .act (.change (.setLocale "de"))] ++ labelled.uneventful 30 ++
    [.act (.change .time)] ++ labelled.uneventful 10

/-- The clock is drawn in the patterns of the other language, long after these have been found. -/
theorem clock_in_patterns_of_locale_german :
    let pieces := (System.start "en").pieces movedToGerman
    (∀ answers, .reply answers ∈ movedToGerman → ∀ locale skeleton,
        answers (.query (.bestPattern locale skeleton)) = labelled.bestPattern locale skeleton) ∧
      (∃ v key, ((System.start "en").run movedToGerman).work = .idle (.present v) ∧
        v.locale = "de" ∧ Renewed labelled.bestPattern pieces v key) ∧
      ∃ p earlier v key accent, pieces = p :: earlier ∧
        p.exchanges.map (·.request) =
          [.command .refreshClock, .query .accent, .command (.clockFormat ⟨"de hm", "de Hm"⟩)] ∧
        p.MayEnd v ∧ Renewed labelled.bestPattern pieces v key ∧
        .clockFormat ⟨"de hm", "de Hm"⟩ =
          Command.ofRefresh (v.clock.refresh (Patterns.of labelled.bestPattern key) accent) := by
  intro pieces
  have hbest : ∀ answers, .reply answers ∈ movedToGerman → ∀ locale skeleton,
      answers (.query (.bestPattern locale skeleton)) = labelled.bestPattern locale skeleton := by
    intro answers hmem locale skeleton
    have hanswers : answers = labelled.answers := by
      simp only [movedToGerman, List.cons_append, List.mem_cons, List.mem_append, List.not_mem_nil,
        reduceCtorEq, false_or, or_false] at hmem
      rcases hmem with (h | h) | h
      all_goals exact Surroundings.eq_of_reply h
    rw [hanswers]
    rfl
  obtain ⟨hidle, -, hdrawn⟩ :=
    clock_in_patterns_of_locale labelled.bestPattern "en" movedToGerman hbest
  refine ⟨hbest, ?_, ?_⟩
  · have hview : ((System.start "en").run movedToGerman).freeView?.map (·.locale) = some "de" := by
      decide +kernel
    obtain ⟨v, hview, hlocale⟩ := Option.map_eq_some_iff.1 hview
    have hwork := (shaped_run "en" movedToGerman).1.work_of_freeView? hview
    obtain ⟨key, hrenewed⟩ := hidle v hwork
    exact ⟨v, key, hwork, hlocale, hrenewed⟩
  · have hlast : pieces.head?.map (·.exchanges.map (·.request)) =
        some [.command .refreshClock, .query .accent,
          .command (.clockFormat ⟨"de hm", "de Hm"⟩)] := by
      decide +kernel
    obtain ⟨p, hp, hrequests⟩ := Option.map_eq_some_iff.1 hlast
    obtain ⟨earlier, hpieces⟩ := List.head?_eq_some_iff.1 hp
    obtain ⟨first, second, ⟨r, answer⟩, hexchanges⟩ : ∃ first second third,
        p.exchanges = [first, second, third] :=
      List.length_eq_three.1 (by simpa using congrArg List.length hrequests)
    have hrequest : r = .command (.clockFormat ⟨"de hm", "de Hm"⟩) := by
      simpa [hexchanges] using congrArg List.getLast? hrequests
    subst hrequest
    obtain ⟨⟨v, hend⟩, hrenewed⟩ :=
      hdrawn [] p earlier [first, second] (.clockFormat ⟨"de hm", "de Hm"⟩) [] hpieces hexchanges
        rfl
    obtain ⟨key, accent, hrenewed, -, horder⟩ := hrenewed v hend
    exact ⟨p, earlier, v, key, accent, hpieces, hrequests, hend, hpieces ▸ hrenewed, horder⟩

end DeviceStatus.Device
