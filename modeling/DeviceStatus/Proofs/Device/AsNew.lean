import DeviceStatus.Proofs.Device.DarkOnScreen
import DeviceStatus.Proofs.Device.Painted
import DeviceStatus.Proofs.Lockscreen.UserShown

/-!
# A refreshed view looks like a new one

After a change of the user, and whenever the lock screen is shown, the view shows the date, the
owner information and the logout button as a view would that is made at this moment. Whatever was
done before leaves no trace in them: neither an earlier user, nor earlier settings, nor an owner of
the device who is gone.
-/

namespace DeviceStatus.Device

open Lockscreen

variable {ℓ : Type}

/-- Two screens show the same of the user. -/
structure SameForUser (answers : Answers) (x x' : Screen) : Prop where
  dateStyle : x'.dateStyle = x.dateStyle
  dateTypeface : x'.dateTypeface = x.dateTypeface
  ownerInfo : x'.ownerInfo = x.ownerInfo
  ownerInfoVisible : x'.ownerInfoVisible = x.ownerInfoVisible
  ownerInfoTypeface : x'.ownerInfoTypeface = x.ownerInfoTypeface
  ownerInfoTextSize : x'.ownerInfoTextSize = x.ownerInfoTextSize
  logoutVisible : x'.logoutVisible = x.logoutVisible
  logoutText : x'.logoutText = x.logoutText
  /-- Where the owner of the device has left no information, that of the user is aligned anew. -/
  ownerInfoAlignment : answers (.query .deviceOwnerInfo) = none →
    x'.ownerInfoAlignment = x.ownerInfoAlignment

/-- What is shown of the user is determined by the answers. -/
theorem sameForUser_of_userShown {answers : Answers} {v v' : View} {x x' : Screen}
    (h : v.UserShown answers x) (h' : v'.UserShown answers x') : SameForUser answers x x' where
  dateStyle := h'.date.trans h.date.symm
  dateTypeface := h'.letters.dateTypeface.trans h.letters.dateTypeface.symm
  ownerInfo := by
    rw [h'.ownerInfo.inDark.ownerInfo, h'.ownerInfo.text, h.ownerInfo.inDark.ownerInfo,
      h.ownerInfo.text]
  ownerInfoVisible := by
    rw [h'.ownerInfo.inDark.ownerInfoVisible, h'.ownerInfo.text,
      h.ownerInfo.inDark.ownerInfoVisible, h.ownerInfo.text]
  ownerInfoTypeface := h'.letters.ownerInfoTypeface.trans h.letters.ownerInfoTypeface.symm
  ownerInfoTextSize := h'.letters.ownerInfoTextSize.trans h.letters.ownerInfoTextSize.symm
  logoutVisible := h'.logout.isVisible.trans h.logout.isVisible.symm
  logoutText := h'.logout.text.trans h.logout.text.symm
  ownerInfoAlignment hdevice :=
    (h'.ownerInfo.alignment hdevice).trans (h.ownerInfo.alignment hdevice).symm

/-- When a change of the user or the showing of the lock screen has been handled, in whatever state
the view was before, the date, the owner information and the logout button have been set to what the
answers come to, and are those of any view that is made while the same is answered. The owner
information is that of the owner of the device, or else that of the current user if it is switched
on, and it is shown exactly if it is not empty. What is answered about the face of the clock may
change at any time. -/
theorem shown_as_in_new_view (locale : String) (inputs : List (Input ℓ)) (answers : Answers)
    {e : Event} (he : e.showsUser = true) {v v₀ : View} {exchanges : List Exchange}
    {earlier : List Piece}
    (hidle : ((System.start (ℓ := ℓ) locale).run inputs).work = .idle (.present v))
    (hpieces : (System.start (ℓ := ℓ) locale).pieces inputs =
      ⟨.operation (.event e) v₀, exchanges⟩ :: earlier)
    (hanswers : AnsweredApart answers exchanges) :
    let screen := ((System.start (ℓ := ℓ) locale).run inputs).screen
    v.UserShown answers screen ∧
      (∀ locale' exchanges' v', Piece.HasEnded ⟨.create locale', exchanges'⟩ v' →
        AnsweredApart answers exchanges' →
          SameForUser answers screen (paint [⟨.create locale', exchanges'⟩])) ∧
      screen.ownerInfo = some answers.ownerInfo ∧
      ∃ isVisible, screen.ownerInfoVisible = some isVisible ∧
        (isVisible = true ↔ ∃ text, answers.ownerInfo = some text ∧ text ≠ "") := by
  intro screen
  have hscreen : screen = (paint earlier).afterExchanges exchanges := by
    have hpainted := screen_eq_paint locale inputs
    rw [hidle, hpieces] at hpainted
    exact hpainted
  have hdiary := diary_run locale inputs
  rw [hidle, hpieces] at hdiary
  have hshown : v.UserShown answers screen := by
    cases hdiary with
    | idle hworked hended =>
      obtain ⟨_, hruns⟩ := Handler.after_reaches_done.1 hended
      rw [hscreen]
      exact View.userShown_handle he hruns hanswers _
  have hinfo : screen.ownerInfo = some answers.ownerInfo := by
    rw [hshown.ownerInfo.inDark.ownerInfo, hshown.ownerInfo.text]
  refine ⟨hshown, ?_, hinfo, View.hasText answers.ownerInfo, ?_, hasText_iff⟩
  · intro locale' exchanges' v' hended hanswers'
    exact sameForUser_of_userShown hshown (View.userShown_create hended hanswers' {})
  · rw [hshown.ownerInfo.inDark.ownerInfoVisible, hshown.ownerInfo.text]

/-! ## A second user with a look of her own -/

/-- The second user has chosen a date and a typeface of her own, and a text that she shows. -/
def ownLook : Surroundings where
  settings := [((.date, some 10), 3), ((.dateFont, some 10), 2)]
  ownerInfo := { users := [(0, true, some "Alex"), (10, true, some "Sam")] }
  bestPattern := fun _ skeleton => skeleton

/-- What is answered while the second user is the current one. -/
def ownLookAnswers : Answers
  | .fact .currentUser => (10 : Int32)
  | r => ownLook.answers r

/-- A view is made for the system user, and then shown to the second user. -/
def shownToSecond : List (Input Empty) :=
  .act .create :: ownLook.uneventful 70 ++
    [.act (.attach "a"), .act (.change (.userSwitch 10))] ++ ownLook.uneventful 60

/-- The event that a task handles. -/
def Task.event? : Task → Option Event
  | operation (.event e) _ => some e
  | create _ | operation _ _ => none

theorem Task.eq_of_event? {task : Task} {e : Event} (h : task.event? = some e) :
    ∃ v, task = .operation (.event e) v := by
  cases task with
  | create => simp [Task.event?] at h
  | operation o v =>
    cases o with
    | event e' =>
      obtain rfl : e' = e := by simpa [Task.event?] using h
      exact ⟨v, rfl⟩
    | _ => simp [Task.event?] at h

/-- The second user sees her own date and text, as in a new view, and is not offered a logout. -/
theorem shown_as_in_new_view_second :
    let screen := ((System.start "en").run shownToSecond).screen
    (∃ exchanges' v', Piece.HasEnded ⟨.create "en", exchanges'⟩ v' ∧
        SameForUser ownLookAnswers screen (paint [⟨.create "en", exchanges'⟩])) ∧
      screen.dateStyle.map (·.1) = some .pill ∧
      screen.dateTypeface = some ⟨"sans-serif", .italic⟩ ∧
      screen.ownerInfo = some (some "Sam") ∧ screen.ownerInfoVisible = some true ∧
      screen.logoutVisible = some false ∧ screen.logoutText = some "Log out" := by
  intro screen
  obtain ⟨v, hview⟩ : ∃ v, ((System.start "en").run shownToSecond).freeView? = some v :=
    Option.isSome_iff_exists.1 (by decide +kernel)
  have hidle := (shaped_run "en" shownToSecond).1.work_of_freeView? hview
  have hlast : ((System.start "en").pieces shownToSecond).head?.map (fun p =>
      (p.task.event?, decide (AnsweredApart ownLookAnswers p.exchanges))) =
        some (some (.userSwitch 10), true) := by
    decide +kernel
  obtain ⟨⟨task, exchanges⟩, hhead, htask⟩ := Option.map_eq_some_iff.1 hlast
  obtain ⟨earlier, hpieces⟩ := List.head?_eq_some_iff.1 hhead
  obtain ⟨hevent, hanswers⟩ := Prod.mk.inj htask
  obtain ⟨v₀, rfl⟩ := Task.eq_of_event? hevent
  obtain ⟨hshown, hnew, hinfo, isVisible, hvisible, hiff⟩ := shown_as_in_new_view "en"
    shownToSecond ownLookAnswers (e := .userSwitch 10) rfl hidle hpieces
    (of_decide_eq_true hanswers)
  have htext : ownLookAnswers.ownerInfo = some "Sam" := by decide +kernel
  rw [htext] at hinfo hiff
  obtain ⟨made, v', hmade, hmadeAnswers⟩ :=
    exists_reaches_answeredApart ownLookAnswers (View.create "en")
  refine ⟨⟨made, v', hmade, hnew _ _ _ hmade hmadeAnswers⟩, ?_, ?_, hinfo, ?_, ?_, ?_⟩
  · have hdate : ownLookAnswers.date = .pill := by decide +kernel
    rw [hshown.date, Option.map_some, hdate]
  · have htypeface : ownLookAnswers.typeface .dateFont = ⟨"sans-serif", .italic⟩ := by
      decide +kernel
    rw [hshown.letters.dateTypeface, htypeface]
  · rw [hvisible, hiff.2 ⟨"Sam", rfl, by decide⟩]
  · have hoffers : ownLookAnswers.offersLogout = false := by decide +kernel
    rw [hshown.logout.isVisible, hoffers]
  · exact hshown.logout.text

end DeviceStatus.Device
