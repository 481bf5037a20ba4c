import DeviceStatus.Proofs.Lockscreen.ClockFace

/-!
# What is drawn on the face of the clock

With a generator that always gives the same patterns, what is in the cache is what would be found if
the generator were asked again. So the fields of a view tell in which patterns its clock is drawn
(`View.InPatterns`): a renewal brings them in line with the locale and with the skeletons, and all
other operations leave them so.
-/

namespace DeviceStatus.Lockscreen

open Handler
open Clock (PatternKey Patterns PatternCache)

variable {best : String → String → String} {exchanges : List Exchange} {key : PatternKey}
  {v v' : View}

/-! ## The place of an order -/

/-- The clock is drawn once, after some questions. -/
def Draws (exchanges : List Exchange) (clock : Clock.Style) (patterns : Patterns)
    (accent : UInt32) : Prop :=
  ∃ asked, (∀ e ∈ asked, ∃ q, e.request = .query q) ∧
    face exchanges = asked ++ refreshExchanges clock patterns accent

/-- One more question before makes no difference. -/
theorem Draws.cons {clock : Clock.Style} {patterns : Patterns} {accent : UInt32}
    (h : Draws exchanges clock patterns accent) {e : Exchange} {q : Query}
    (he : e.request = .query q) : Draws (e :: exchanges) clock patterns accent := by
  obtain ⟨asked, hasked, hface⟩ := h
  by_cases hof : e.request.isOfFace = true
  · refine ⟨e :: asked, List.forall_mem_cons.2 ⟨⟨q, he⟩, hasked⟩, ?_⟩
    rw [face_cons hof, hface]
    rfl
  · have hskip : face (e :: exchanges) = face exchanges := List.filter_cons_of_neg hof
    exact ⟨asked, hasked, hskip.trans hface⟩

/-- Where the clock is drawn, the accent has just been asked for, and nothing about the face of the
clock comes later. -/
theorem Draws.drawn {clock : Clock.Style} {patterns : Patterns} {accent : UInt32}
    {before after : List Exchange} {c : Command}
    (h : Draws (before ++ ⟨.command c, ()⟩ :: after) clock patterns accent)
    (hc : c.isOfFace = true) :
    (answersTo .accent before).getLast? = some accent ∧
      c = .ofRefresh (clock.refresh patterns accent) ∧ face after = [] := by
  obtain ⟨asked, hasked, hface⟩ := h
  have hsplit : face before ++ (⟨.command c, ()⟩ :: face after) =
      (asked ++ [⟨.query .accent, accent⟩]) ++
        [⟨.command (.ofRefresh (clock.refresh patterns accent)), ()⟩] := by
    rw [face_append, face_cons (e := ⟨.command c, ()⟩) hc] at hface
    rw [List.append_assoc]
    exact hface
  -- only the last exchange is an order
  have hlast : face after = [] := by
    cases hafter : face after with
    | nil => rfl
    | cons e later =>
      rw [hafter] at hsplit
      have hdrop := congrArg List.dropLast hsplit
      rw [List.dropLast_append_of_ne_nil (by simp), List.dropLast_cons_of_ne_nil (by simp),
        List.dropLast_concat] at hdrop
      have hmem : (⟨.command c, ()⟩ : Exchange) ∈ asked ++ [⟨.query .accent, accent⟩] := by
        rw [← hdrop]
        exact List.mem_append_right _ List.mem_cons_self
      rcases List.mem_append.1 hmem with hmem | hmem
      · obtain ⟨q, hq⟩ := hasked _ hmem
        exact Request.noConfusion hq
      · have hsame := congrArg Exchange.request (List.mem_singleton.1 hmem)
        exact Request.noConfusion hsame
  rw [hlast] at hsplit
  obtain ⟨hbefore, hdrawn⟩ := List.append_inj' hsplit rfl
  refine ⟨?_, ?_, hlast⟩
  · have hanswers : answersTo .accent (face before) = answersTo .accent before :=
      answersTo_filter rfl before
    rw [← hanswers, hbefore, answersTo_append]
    simp [answersTo]
  · have hrequest := congrArg Exchange.request (List.cons.inj hdrawn).1
    exact Request.command.inj hrequest

/-! ## A steady generator -/

/-- All patterns that were asked for are those of the generator. -/
def AnsweredBy (best : String → String → String) (exchanges : List Exchange) : Prop :=
  ∀ locale skeleton pattern, ⟨.query (.bestPattern locale skeleton), pattern⟩ ∈ exchanges →
    pattern = best locale skeleton

/-- What leaves the face alone asks for no patterns. -/
theorem AnsweredBy.append {rest : List Exchange} (h : AnsweredBy best exchanges)
    (hrest : face rest = []) : AnsweredBy best (exchanges ++ rest) := by
  intro locale skeleton pattern hmem
  rcases List.mem_append.1 hmem with hmem | hmem
  · exact h locale skeleton pattern hmem
  · have hface := mem_face.2 ⟨hmem, rfl⟩
    rw [hrest] at hface
    exact absurd hface List.not_mem_nil

/-- What the cache holds is what the generator gives. -/
def FilledBy (best : String → String → String) (cache : PatternCache) : Prop :=
  ∀ key patterns, cache.entry = some (key, patterns) → patterns = Patterns.of best key

theorem filledBy_empty : FilledBy best {} := by
  intro key patterns hentry
  cases hentry

theorem PatternsFound.eq_of {cache : PatternCache} {patterns : Patterns}
    (h : PatternsFound cache key exchanges patterns) (hcache : FilledBy best cache)
    (hanswers : AnsweredBy best exchanges) : patterns = Patterns.of best key := by
  cases h with
  | known hentry => exact hcache key patterns hentry
  | asked pattern12 pattern24 =>
    have h12 := hanswers _ _ pattern12 (.head _)
    have h24 := hanswers _ _ pattern24 (.tail _ (.head _))
    rw [h12, h24]
    rfl

theorem PatternsFound.isQuery {cache : PatternCache} {patterns : Patterns}
    (h : PatternsFound cache key exchanges patterns) :
    ∀ e ∈ exchanges, ∃ locale skeleton, e.request = .query (.bestPattern locale skeleton) := by
  intro e he
  cases h with
  | known => exact absurd he List.not_mem_nil
  | asked =>
    rcases List.mem_cons.1 he with rfl | he
    · exact ⟨_, _, rfl⟩
    · rw [List.mem_singleton.1 he]
      exact ⟨_, _, rfl⟩

theorem isQuery_of_skeletons {skeleton12 skeleton24 : String} :
    ∀ e ∈ skeletonExchanges skeleton12 skeleton24, ∃ q, e.request = .query q := by
  intro e he
  rcases List.mem_cons.1 he with rfl | he
  · exact ⟨_, rfl⟩
  · rw [List.mem_singleton.1 he]
    exact ⟨_, rfl⟩

/-! ## Operations -/

/-- The view holds the patterns that the generator gives for a key, which is of its locale. -/
structure View.InPatterns (best : String → String → String) (v : View) (key : PatternKey) :
    Prop where
  locale : key.locale = v.locale
  entry : v.patternCache.entry = some (key, Patterns.of best key)

theorem View.InPatterns.filledBy (h : v.InPatterns best key) : FilledBy best v.patternCache := by
  intro key' patterns hentry
  obtain ⟨rfl, rfl⟩ := Prod.mk.inj (Option.some.inj (h.entry.symm.trans hentry))
  rfl

theorem View.Renews.draws (h : v.Renews exchanges v') :
    ∃ key patterns accent, v'.patternCache.entry = some (key, patterns) ∧
      Draws exchanges v'.clock patterns accent := by
  obtain ⟨skeleton12, skeleton24, found, patterns, accent, hface, hfound, hentry⟩ := h
  refine ⟨_, patterns, accent, hentry, skeletonExchanges skeleton12 skeleton24 ++ found, ?_, ?_⟩
  · intro e he
    rcases List.mem_append.1 he with he | he
    · exact isQuery_of_skeletons e he
    · obtain ⟨locale, skeleton, hrequest⟩ := hfound.isQuery e he
      exact ⟨_, hrequest⟩
  · rw [hface, List.append_assoc]

theorem View.Refreshes.draws (h : v.Refreshes exchanges) :
    ∃ accent, Draws exchanges v.clock (v.patternCache.patterns?.getD {}) accent := by
  obtain ⟨accent, hface⟩ := h
  exact ⟨accent, [], by simp, hface⟩

/-- A renewal brings the patterns in line with the locale and with the skeletons that it is told,
and draws the clock in them. -/
theorem View.Renews.inPatterns (h : v.Renews exchanges v') (hcache : FilledBy best v.patternCache)
    (hanswers : AnsweredBy best exchanges) :
    ∃ key accent, v'.InPatterns best key ∧
      answersTo (.label .clock12Skeleton) exchanges = [key.skeleton12] ∧
      answersTo (.label .clock24Skeleton) exchanges = [key.skeleton24] ∧
      Draws exchanges v'.clock (Patterns.of best key) accent := by
  obtain ⟨key, patterns, accent, hentry, hdraws⟩ := h.draws
  obtain ⟨skeleton12, skeleton24, found, patterns', accent', hface, hfound, hentry'⟩ := h
  obtain ⟨rfl, rfl⟩ := Prod.mk.inj (Option.some.inj (hentry'.symm.trans hentry))
  have hpatterns : patterns' = Patterns.of best ⟨v'.locale, skeleton12, skeleton24⟩ := by
    refine hfound.eq_of hcache fun locale skeleton pattern hmem => ?_
    have hexchange : (⟨.query (.bestPattern locale skeleton), pattern⟩ : Exchange) ∈
        face exchanges := by
      rw [hface]
      exact List.mem_append_right _ (List.mem_append_left _ hmem)
    exact hanswers locale skeleton pattern (mem_face.1 hexchange).1
  have hanswersTo : ∀ q : Query, q.isOfFace = true →
      (∀ locale skeleton, q ≠ .bestPattern locale skeleton) →
      answersTo q exchanges = answersTo q (skeletonExchanges skeleton12 skeleton24) ++
        answersTo q (refreshExchanges v'.clock patterns' accent') := by
    intro q hq hother
    have hfoundNil : answersTo q found = [] := by
      refine answersTo_eq_nil fun e he heq => ?_
      obtain ⟨locale, skeleton, hrequest⟩ := hfound.isQuery e he
      exact hother locale skeleton (Request.query.inj (heq.symm.trans hrequest))
    have hall : answersTo q (face exchanges) = answersTo q exchanges :=
      answersTo_filter hq exchanges
    rw [← hall, hface, answersTo_append, answersTo_append, hfoundNil, List.nil_append]
  rw [hpatterns] at hentry hdraws
  refine ⟨_, accent, ⟨rfl, hentry⟩, ?_, ?_, hdraws⟩
  · rw [hanswersTo _ rfl (by simp)]
    simp [answersTo, Exchange.answerTo?, skeletonExchanges, refreshExchanges]
  · rw [hanswersTo _ rfl (by simp)]
    simp [answersTo, Exchange.answerTo?, skeletonExchanges, refreshExchanges]

/-- If an operation draws the clock of the view, it does so once. -/
theorem Operation.draws {o : Operation} (hruns : o.handler.Runs v exchanges () v') :
    face exchanges = [] ∨ ∃ patterns accent, Draws exchanges v'.clock patterns accent := by
  cases hrenews : o.renewsFace with
  | true =>
    obtain ⟨_, patterns, accent, -, hdraws⟩ := (Operation.renews hrenews hruns).draws
    exact .inr ⟨patterns, accent, hdraws⟩
  | false =>
    cases hrefreshes : o.refreshesFace with
    | true =>
      obtain ⟨hsame, hdrawn⟩ := Operation.refreshes hrefreshes hruns
      obtain ⟨accent, hdraws⟩ := hdrawn.draws
      exact .inr ⟨_, accent, hsame.clock ▸ hdraws⟩
    | false => exact .inl (Operation.faceless hrenews hrefreshes hruns)

/-- An operation that does not look for the patterns leaves them as they are; if it draws the clock,
then in these. -/
theorem Operation.inPatterns {o : Operation} (ho : o.renewsFace = false)
    (hruns : o.handler.Runs v exchanges () v') (hv : v.InPatterns best key) :
    v'.InPatterns best key ∧
      (face exchanges = [] ∨ ∃ accent, Draws exchanges v'.clock (Patterns.of best key) accent) := by
  cases hrefreshes : o.refreshesFace with
  | true =>
    obtain ⟨hsame, hdraws⟩ := Operation.refreshes hrefreshes hruns
    obtain ⟨accent, hdraws⟩ := hdraws.draws
    have hpatterns : v.patternCache.patterns?.getD {} = Patterns.of best key := by
      rw [PatternCache.patterns?, hv.entry]
      rfl
    rw [hpatterns, ← hsame.clock] at hdraws
    exact ⟨⟨hv.locale.trans hsame.locale.symm, hsame.patternCache ▸ hv.entry⟩,
      .inr ⟨accent, hdraws⟩⟩
  | false =>
    obtain ⟨hlocale, hcache⟩ := Operation.sameIn_time ho hrefreshes hruns
    exact ⟨⟨hv.locale.trans hlocale.symm, hcache ▸ hv.entry⟩,
      .inl (Operation.faceless ho hrefreshes hruns)⟩

end DeviceStatus.Lockscreen
