import DeviceStatus.Proofs.Device.AsNew
import DeviceStatus.Proofs.Lockscreen.Twice

/-!
# An operation that is done again

Events may be told twice, and an owner may do again what it has done. While the surroundings answer
as before, nothing comes of it: the view keeps its fields, the widgets what they show, and the timer
gets no further orders.
-/

namespace DeviceStatus.Device

open Lockscreen Handler

variable {ℓ : Type}

/-! ## One more piece of work -/

theorem foldl_record_exchanged (p : Piece) (earlier : List Piece) (exchanges : List Exchange) :
    (exchanges.map Doing.exchanged).foldl record (p :: earlier) =
      { p with exchanges := p.exchanges ++ exchanges } :: earlier := by
  induction exchanges generalizing p with
  | nil => simp
  | cons e exchanges ih =>
    have hnext := ih { p with exchanges := p.exchanges ++ [e] }
    rw [List.append_assoc] at hnext
    exact hnext

/-- Whatever was done before, and whatever the operation is, even a handler of an event: if it is
the last piece of work, and all that the view does next is to go through it once more, while all
requests are answered as before, then the fields of the view and all values on the screen are the
same as after the first time, and the timer is neither started nor stopped. -/
theorem once_is_enough (locale : String) (inputs more : List (Input ℓ)) (answers : Answers)
    (o : Operation) {v₀ v v₁ v₂ : View} {first second : List Exchange} {earlier : List Piece}
    (hidle : ((System.start (ℓ := ℓ) locale).run inputs).work = .idle (.present v₁))
    (hpieces : (System.start (ℓ := ℓ) locale).pieces inputs = ⟨.operation o v₀, first⟩ :: earlier)
    (hmore : ((System.start (ℓ := ℓ) locale).run inputs).doings more =
      .begun (.operation o v) :: second.map .exchanged)
    (hidle' : ((System.start (ℓ := ℓ) locale).run (inputs ++ more)).work = .idle (.present v₂))
    (hfirst : AnsweredAs answers first) (hsecond : AnsweredAs answers second) :
    v₂ = v₁ ∧
      ((System.start (ℓ := ℓ) locale).run (inputs ++ more)).screen =
        ((System.start (ℓ := ℓ) locale).run inputs).screen ∧
      ∀ e ∈ second, e.request.alarm? = none := by
  have hpieces' : (System.start (ℓ := ℓ) locale).pieces (inputs ++ more) =
      ⟨.operation o v, second⟩ :: ⟨.operation o v₀, first⟩ :: earlier := by
    rw [← hpieces, System.pieces, System.doings_append, List.foldl_append, hmore, List.foldl_cons]
    exact foldl_record_exchanged _ _ second
  have hdiary := diary_run locale inputs
  have hscreen := screen_eq_paint locale inputs
  rw [hidle, hpieces] at hdiary hscreen
  have hdiary' := diary_run locale (inputs ++ more)
  have hscreen' := screen_eq_paint locale (inputs ++ more)
  rw [hidle', hpieces'] at hdiary' hscreen'
  cases hdiary with
  | idle hworked hended =>
    cases hdiary' with
    | idle hworked' hended' =>
      -- the second time begins with the fields that the first time has left
      obtain rfl : v = v₁ := by
        cases hworked' with
        | next _ _ _ hlast => exact hended.eq hlast.mayEnd
      obtain ⟨_, hruns⟩ := after_reaches_done.1 hended
      obtain ⟨_, hruns'⟩ := after_reaches_done.1 hended'
      have htwice := Operation.acting_twice answers o ⟨v₀, paint earlier, []⟩
      rw [acting_of_runs hruns hfirst, acting_of_runs hruns' hsecond, Scene.mk.injEq] at htwice
      obtain ⟨hview, hpainted, halarms⟩ := htwice
      refine ⟨hview, ?_, ?_⟩
      · rw [hscreen', hscreen]
        exact hpainted
      · have hnone : second.filterMap (·.request.alarm?) = [] := by simpa using halarms
        exact List.filterMap_eq_nil_iff.1 hnone

/-! ## A view that is attached twice -/

/-- A view is attached twice, and has handled the change of the user that the first attachment
brought. -/
def toldOnce : List (Input Empty) :=
  .act .create :: ownLook.uneventful 70 ++
    [.act (.attach "a"), .act (.attach "b"), .act (.change (.userSwitch 10))] ++
    ownLook.uneventful 52

/-- It handles the same change once more, from the second attachment. -/
def toldAgain : List (Input Empty) := ownLook.uneventful 52

/-- An exchange. -/
def Doing.exchange? : Doing → Option Exchange
  | exchanged e => some e
  | begun _ => none

theorem Doing.eq_map_exchanged {doings : List Doing}
    (h : doings.all (·.exchange?.isSome) = true) :
    doings = (doings.filterMap Doing.exchange?).map .exchanged := by
  induction doings with
  | nil => rfl
  | cons d doings ih =>
    simp only [List.all_cons, Bool.and_eq_true] at h
    obtain ⟨hd, hrest⟩ := h
    cases d with
    | begun => simp [Doing.exchange?] at hd
    | exchanged e => simp [Doing.exchange?, ← ih hrest]

/-- Whether the view handles an event, with fixed answers, and does nothing else. -/
def handlesOnly (answers : Answers) (e : Event) : List Doing → Bool
  | .begun task :: rest =>
    task.event? == some e && rest.all (·.exchange?.isSome) &&
      decide (AnsweredAs answers (rest.filterMap Doing.exchange?))
  | _ => false

theorem exists_of_handlesOnly {answers : Answers} {e : Event} {doings : List Doing}
    (h : handlesOnly answers e doings = true) :
    ∃ v exchanges, doings = .begun (.operation (.event e) v) :: exchanges.map .exchanged ∧
      AnsweredAs answers exchanges := by
  match doings with
  | [] | .exchanged _ :: _ => simp [handlesOnly] at h
  | .begun task :: rest =>
    simp only [handlesOnly, Bool.and_eq_true, beq_iff_eq, decide_eq_true_eq] at h
    obtain ⟨⟨hevent, hrest⟩, hanswers⟩ := h
    obtain ⟨v, rfl⟩ := Task.eq_of_event? hevent
    exact ⟨v, _, congrArg _ (Doing.eq_map_exchanged hrest), hanswers⟩

/-- The second user's text is shown after the first time, and the second time changes nothing. -/
theorem once_is_enough_attached_twice :
    let start := System.start "en"
    ∃ v₁ v₂, (start.run toldOnce).work = .idle (.present v₁) ∧
      (start.run (toldOnce ++ toldAgain)).work = .idle (.present v₂) ∧ v₂ = v₁ ∧
      (start.run toldOnce).screen.ownerInfo = some (some "Sam") ∧
      (start.run (toldOnce ++ toldAgain)).screen = (start.run toldOnce).screen := by
  intro start
  obtain ⟨v₁, hview⟩ : ∃ v, (start.run toldOnce).freeView? = some v :=
    Option.isSome_iff_exists.1 (by decide +kernel)
  obtain ⟨v₂, hview'⟩ : ∃ v, (start.run (toldOnce ++ toldAgain)).freeView? = some v :=
    Option.isSome_iff_exists.1 (by decide +kernel)
  have hidle := (shaped_run "en" toldOnce).1.work_of_freeView? hview
  have hidle' := (shaped_run "en" (toldOnce ++ toldAgain)).1.work_of_freeView? hview'
  have hlast : (start.pieces toldOnce).head?.map (fun p =>
      (p.task.event?, decide (AnsweredAs ownLookAnswers p.exchanges))) =
        some (some (.userSwitch 10), true) := by
    decide +kernel
  obtain ⟨⟨task, first⟩, hhead, htask⟩ := Option.map_eq_some_iff.1 hlast
  obtain ⟨earlier, hpieces⟩ := List.head?_eq_some_iff.1 hhead
  obtain ⟨hevent, hfirst⟩ := Prod.mk.inj htask
  obtain ⟨v₀, rfl⟩ := Task.eq_of_event? hevent
  have hagain : handlesOnly ownLookAnswers (.userSwitch 10)
      ((start.run toldOnce).doings toldAgain) = true := by
    decide +kernel
  obtain ⟨v, second, hmore, hsecond⟩ := exists_of_handlesOnly hagain
  obtain ⟨hsame, hscreen, -⟩ := once_is_enough "en" toldOnce toldAgain ownLookAnswers
    (.event (.userSwitch 10)) hidle hpieces hmore hidle' (of_decide_eq_true hfirst) hsecond
  exact ⟨v₁, v₂, hidle, hidle', hsame, by decide +kernel, hscreen⟩

end DeviceStatus.Device
