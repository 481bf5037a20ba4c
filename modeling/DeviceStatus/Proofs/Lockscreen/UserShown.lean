import DeviceStatus.Proofs.Lockscreen.Appearance
import DeviceStatus.Proofs.Lockscreen.Dark

/-!
# What is shown of the user

The date, the owner information and the logout button depend on what is stored for the current user
and on nothing that a view remembers. `View.UserShown` says what they come to under fixed answers;
it is established by every handler that goes through all the partial refreshes, in whatever order,
since each refresh sets its own part and leaves the others alone.

The face of the clock is refreshed on the way, but what is asked about it decides none of this, and
need not be answered in the same way twice (`Watch.answeredApart`).
-/

namespace DeviceStatus

namespace Lockscreen

open Handler

/-! ## What the answers say -/

namespace Answers

/-- The owner information: that of the owner of the device comes first, and then that of the current
user, if this user has switched it on. -/
def ownerInfo (answers : Answers) : Option String :=
  (answers (.query .deviceOwnerInfo)).or
    (if answers (.query (.isOwnerInfoEnabled (answers (.fact .currentUser)))) then
      answers (.query (.ownerInfo (answers (.fact .currentUser))))
    else none)

/-- Whether the logout button is offered to the current user. -/
def offersLogout (answers : Answers) : Bool :=
  answers (.fact .isLogoutEnabled) && answers (.fact .currentUser) != systemUser

end Answers

instance (r : Request) : DecidableEq r.Answer :=
  match r with
  | .fact f =>
    match f with
    | .isInteractive | .isLogoutEnabled => inferInstanceAs (DecidableEq Bool)
    | .currentUser => inferInstanceAs (DecidableEq Int32)
  | .query q =>
    match q with
    | .clockTextColor | .accent => inferInstanceAs (DecidableEq UInt32)
    | .hasHeader | .isOwnerInfoEnabled _ => inferInstanceAs (DecidableEq Bool)
    | .setting .. => inferInstanceAs (DecidableEq (Option Int32))
    | .dimension _ => inferInstanceAs (DecidableEq Int32)
    | .label _ | .bestPattern .. => inferInstanceAs (DecidableEq String)
    | .deviceOwnerInfo | .ownerInfo _ => inferInstanceAs (DecidableEq (Option String))
  | .command _ | .log _ => inferInstanceAs (DecidableEq Unit)
  | .user _ => fun
    | .ok (), .ok () => isTrue rfl
    | .error cause, .error cause' => decidable_of_iff (cause = cause') (by simp)
    | .ok (), .error _ | .error _, .ok () => isFalse nofun

variable {α β : Type}

/-- Exchanges with fixed answers, apart from what is about the face of the clock. -/
def AnsweredApart (answers : Answers) (exchanges : List Exchange) : Prop :=
  ∀ e ∈ exchanges, e.request.isOfFace = false → e.answer = answers e.request

instance (answers : Answers) (exchanges : List Exchange) :
    Decidable (AnsweredApart answers exchanges) :=
  inferInstanceAs (Decidable (∀ e ∈ exchanges, e.request.isOfFace = false → _))

theorem answeredApart_map (answers : Answers) (requests : List Request) :
    AnsweredApart answers (requests.map fun r => ⟨r, answers r⟩) := by
  intro e he _
  obtain ⟨r, -, rfl⟩ := List.mem_map.1 he
  rfl

theorem exists_reaches_answeredApart (answers : Answers) (p : Program α) :
    ∃ exchanges value, p.Reaches exchanges (.done value) ∧ AnsweredApart answers exchanges :=
  ⟨_, _, Program.reaches_under answers p, answeredApart_map answers _⟩

/-- The screen is watched under fixed answers, apart from those about the face of the clock. -/
abbrev Watch.answeredApart (answers : Answers) : Watch Screen :=
  .screen fun r answer => r.isOfFace = false → answer = answers r

variable {answers : Answers} {areas : List Area} {h : Handler α}

/-- What leaves the face of the clock alone may rely on fixed answers. -/
theorem Handler.Establishes.apart {property : View → Screen → Prop} (hface : Faceless h)
    (hh : Establishes (.answered answers) property h) :
    Establishes (.answeredApart answers) property h := by
  intro v x
  refine Program.ensures_of_reaches (fun _ _ => trivial) ?_
  rintro exchanges ⟨value, v'⟩ hreaches hadmits
  refine hh.runs hreaches fun e he => hadmits e he ?_
  have hnone := hface hreaches
  rw [face, List.filter_eq_nil_iff] at hnone
  simpa using hnone e he

namespace View

/-! ## The parts -/

/-- The date has the look that the current user has chosen. -/
def DateShown (answers : Answers) (_ : View) (x : Screen) : Prop :=
  x.dateStyle = some (answers.date, answers.resolved answers.date)

/-- Typefaces and sizes are those that the current user has chosen. -/
structure LettersShown (answers : Answers) (_ : View) (x : Screen) : Prop where
  dateTypeface : x.dateTypeface = some (answers.typeface .dateFont)
  ownerInfoTextSize :
    x.ownerInfoTextSize = some (Float32.ofInt (answers.setting .ownerInfoSize).toInt)
  ownerInfoTypeface : x.ownerInfoTypeface = some (answers.typeface .ownerInfoFont)

/-- The logout button is offered to the current user or not, under its label. -/
structure LogoutOffered (answers : Answers) (_ : View) (x : Screen) : Prop where
  isVisible : x.logoutVisible = some answers.offersLogout
  text : x.logoutText = some (answers (.query (.label .logout)))

/-- The owner information is that of the owner of the device or of the current user, and this one's
is aligned under the clock that the user has chosen. -/
structure OwnerInfoShown (answers : Answers) (v : View) (x : Screen) : Prop where
  text : v.ownerInfo = answers.ownerInfo
  inDark : v.DarkShown x
  alignment : answers (.query .deviceOwnerInfo) = none → OwnerInfoAligned answers v x

theorem establishes_updateDateStyles_date :
    Establishes (.answered answers) (DateShown answers) updateDateStyles := by
  refine (finds_setting _).establishes ((finds_choose _).establishes ?_)
  refine (finds_resolveDate _).establishes (.bind (fun v x => ⟨trivial, fun _ _ => rfl⟩) ?_)
  intro _
  refine touches_updateClockAlignment.keeps_screen [.date] (by simp) ?_
  intro v v' x x' hsame hshown
  exact (hsame .date (by simp)).2.trans hshown

/-- What comes after an order goes on with the screen after it. -/
theorem ensures_command_bind {known : (r : Request) → r.Answer → Prop} {c : Command}
    {f : Unit → Handler β} {post : β × View → Screen → Prop} {v : View} {x : Screen}
    (hf : ((f ()).run v).Ensures (.screen known) post (x.after c)) :
    ((command c >>= f).run v).Ensures (.screen known) post x :=
  ⟨trivial, fun _ _ => hf⟩

theorem establishes_refreshFontsAndSizes :
    Establishes (.answered answers) (LettersShown answers) refreshFontsAndSizes := by
  intro v x
  simp only [refreshFontsAndSizes, refreshOwnerInfoSize, bind_assoc]
  refine ensures_command_bind ?_
  refine (finds_setting _).ensures ((finds_choose _).ensures (ensures_command_bind ?_))
  refine ensures_command_bind (ensures_command_bind ?_)
  refine (finds_setting _).ensures (ensures_command_bind ?_)
  refine (finds_setting _).ensures ((finds_choose _).ensures ?_)
  exact ⟨trivial, fun _ _ => ⟨rfl, rfl, rfl⟩⟩

theorem establishes_updateLogoutView :
    Establishes (.answered answers) (LogoutOffered answers) updateLogoutView := by
  refine (finds_fact _).establishes ((finds_fact _).establishes ?_)
  refine .of_last (fun _ _ => trivial) fun _ => ?_
  refine fun v x => ensures_command_bind ((finds_query _).ensures ?_)
  exact ⟨trivial, fun _ _ => ⟨rfl, rfl⟩⟩

/-- The owner information that is found is the one to be shown. -/
theorem ensures_findOwnerInfo (v : View) (x : Screen) :
    ((findOwnerInfo (answers (.fact .currentUser))).run v).Ensures (.answered answers)
      (fun result _ => result = (answers.ownerInfo, v)) x := by
  refine (finds_query .deviceOwnerInfo).ensures ?_
  unfold Answers.ownerInfo
  cases answers (.query .deviceOwnerInfo) with
  | some text => rfl
  | none =>
    refine finds_chosenClock.ensures ((finds_alignmentUnder _).ensures (ensures_command_bind ?_))
    refine (finds_query _).ensures ?_
    cases answers (.query (.isOwnerInfoEnabled (answers (.fact .currentUser)))) with
    | true => exact (finds_query _ v _).imp fun result x h => h.1
    | false => rfl

theorem establishes_updateOwnerInfo_text :
    Establishes (.answered answers) (fun v _ => v.ownerInfo = answers.ownerInfo)
      updateOwnerInfo := by
  refine (finds_fact _).establishes fun v x => ?_
  rw [StateT.run_bind, Program.ensures_bind]
  refine (ensures_findOwnerInfo v x).imp ?_
  rintro _ x rfl
  refine ensures_command_bind ?_
  rw [StateT.run_bind, StateT.run_modify, pure_bind]
  refine (ensures_updateDark _ _).imp ?_
  rintro ⟨_, _⟩ _ ⟨rfl, -⟩
  rfl

theorem establishes_updateOwnerInfo_shown :
    Establishes (.answered answers) (OwnerInfoShown answers) updateOwnerInfo := by
  intro v x
  have haligned : (updateOwnerInfo.run v).Ensures (.answered answers)
      (fun result x => answers (.query .deviceOwnerInfo) = none →
        OwnerInfoAligned answers result.2 x) x := by
    by_cases hdevice : answers (.query .deviceOwnerInfo) = none
    · exact (establishes_updateOwnerInfo hdevice v x).imp fun result x h _ => h
    · exact Program.ensures_of_forall (fun _ _ => trivial) (fun _ _ h => absurd h hdevice) _ x
  refine (((establishes_updateOwnerInfo_text v x).and (updateOwnerInfo_darkShown v x)).and
    haligned).imp ?_
  rintro result x ⟨⟨htext, hdark⟩, halignment⟩
  exact ⟨htext, hdark, halignment⟩

/-! ## What leaves the parts alone -/

section Keeps

variable {known : (r : Request) → r.Answer → Prop}

theorem keeps_dateShown (hh : Touches areas h) (hdate : .date ∉ areas) :
    Keeps (.screen known) (DateShown answers) h := by
  refine hh.keeps_screen [.date] (by simpa using hdate) ?_
  intro v v' x x' hsame hshown
  exact (hsame .date (by simp)).2.trans hshown

theorem keeps_lettersShown (hh : Touches areas h) (hletters : .letters ∉ areas) :
    Keeps (.screen known) (LettersShown answers) h := by
  refine hh.keeps_screen [.letters] (by simpa using hletters) ?_
  intro v v' x x' hsame hshown
  obtain ⟨-, hdate, hinfo, hsize⟩ := hsame .letters (by simp)
  exact ⟨hdate.trans hshown.dateTypeface, hsize.trans hshown.ownerInfoTextSize,
    hinfo.trans hshown.ownerInfoTypeface⟩

theorem keeps_logoutOffered (hh : Touches areas h) (hlogout : .logout ∉ areas) :
    Keeps (.screen known) (LogoutOffered answers) h := by
  refine hh.keeps_screen [.logout] (by simpa using hlogout) ?_
  intro v v' x x' hsame hshown
  obtain ⟨-, hvisible, htext⟩ := hsame .logout (by simp)
  exact ⟨hvisible.trans hshown.isVisible, htext.trans hshown.text⟩

theorem keeps_ownerInfoShown (hh : Touches areas h) (hownerInfo : .ownerInfo ∉ areas)
    (hdark : .dark ∉ areas) : Keeps (.screen known) (OwnerInfoShown answers) h := by
  have hown : Keeps (.screen known) (fun v x => v.ownerInfo = answers.ownerInfo ∧
      (answers (.query .deviceOwnerInfo) = none → OwnerInfoAligned answers v x)) h := by
    refine hh.keeps_screen [.ownerInfo] (by simpa using hownerInfo) ?_
    intro v v' x x' hsame hshown
    obtain ⟨htext, -, halignment⟩ := hsame .ownerInfo (by simp)
    exact ⟨Eq.trans htext hshown.1, fun hdevice => halignment.trans (hshown.2 hdevice)⟩
  intro v x hshown
  refine ((hown v x ⟨hshown.text, hshown.alignment⟩).and
    (hh.darkShown hownerInfo hdark v x hshown.inDark)).imp ?_
  rintro result x ⟨⟨htext, halignment⟩, hinDark⟩
  exact ⟨htext, hinDark, halignment⟩

end Keeps

/-! ## All parts -/

/-- All that is shown of the user is what the answers come to. -/
structure UserShown (answers : Answers) (v : View) (x : Screen) : Prop where
  date : DateShown answers v x
  letters : LettersShown answers v x
  ownerInfo : OwnerInfoShown answers v x
  logout : LogoutOffered answers v x

/-- The parts are set one after the other, and each is left alone by what comes behind it. -/
theorem establishes_ofUser {first : Handler Unit} :
    Establishes (.answeredApart answers) (UserShown answers) (do
      first
      updateOwnerInfo
      updateLogoutView
      refreshFontsAndSizes
      updateDateStyles) := by
  have hpermits : ∀ x r, (Watch.answeredApart answers).permits x r := fun _ _ => trivial
  have hletters : Touches [.letters, .alignment, .date] (do
      refreshFontsAndSizes
      updateDateStyles) :=
    .bind (touches_refreshFontsAndSizes.mono (by simp)) fun _ =>
      touches_updateDateStyles.mono (by simp)
  have hlogout : Touches [.logout, .letters, .alignment, .date] (do
      updateLogoutView
      refreshFontsAndSizes
      updateDateStyles) :=
    .bind (touches_updateLogoutView.mono (by simp)) fun _ => hletters.mono (by simp)
  have hparts : Establishes (.answeredApart answers) _ (do
      updateOwnerInfo
      updateLogoutView
      refreshFontsAndSizes
      updateDateStyles) :=
    .bind_and hpermits (establishes_updateOwnerInfo_shown.apart faceless_updateOwnerInfo)
      (fun _ => keeps_ownerInfoShown hlogout (by simp) (by simp)) fun _ =>
    .bind_and hpermits (establishes_updateLogoutView.apart faceless_updateLogoutView)
      (fun _ => keeps_logoutOffered hletters (by simp)) fun _ =>
    .bind_and hpermits (establishes_refreshFontsAndSizes.apart faceless_refreshFontsAndSizes)
      (fun _ => keeps_lettersShown touches_updateDateStyles (by simp)) fun _ =>
    establishes_updateDateStyles_date.apart faceless_updateDateStyles
  refine .of_last hpermits fun _ v x => (hparts v x).imp ?_
  rintro result x ⟨hinfo, hlogout, hletters, hdate⟩
  exact ⟨hdate, hletters, hinfo, hlogout⟩

/-- A view that is made sets the same parts in another order. -/
theorem establishes_setUp_user :
    Establishes (.answeredApart answers) (UserShown answers) setUp := by
  have hpermits : ∀ x r, (Watch.answeredApart answers).permits x r := fun _ _ => trivial
  have hformat : Touches [.time, .ownerInfo, .dark, .logout] (do
      refreshFormat
      updateOwnerInfo
      updateLogoutView) :=
    .bind (touches_refreshFormat.mono (by simp)) fun _ => touches_owner.mono (by simp)
  have hcontent : Touches
      [.header, .marquee, .layout, .alignment, .date, .time, .ownerInfo, .dark, .logout] (do
      contentChanged
      setMarqueeEnabled (← fact .isInteractive)
      updateAll
      refreshFormat
      updateOwnerInfo
      updateLogoutView) :=
    .bind (touches_contentChanged.mono (by simp)) fun _ => .bind (.fact _) fun _ =>
      .bind ((touches_setMarqueeEnabled _).mono (by simp)) fun _ =>
      .bind (touches_updateAll.mono (by simp)) fun _ => hformat.mono (by simp)
  have hdate : Establishes (.answeredApart answers) (DateShown answers) updateAll :=
    .of_last hpermits fun _ => establishes_updateDateStyles_date.apart faceless_updateDateStyles
  have hparts : Establishes (.answeredApart answers) _ setUp :=
    .of_last hpermits fun _ =>
    .bind_and hpermits (establishes_refreshFontsAndSizes.apart faceless_refreshFontsAndSizes)
      (fun _ => keeps_lettersShown hcontent (by simp)) fun _ =>
    .of_last hpermits fun _ => .of_last hpermits fun _ => .of_last hpermits fun _ =>
    .bind_and hpermits hdate (fun _ => keeps_dateShown hformat (by simp)) fun _ =>
    .of_last hpermits fun _ =>
    .bind_and hpermits (establishes_updateOwnerInfo_shown.apart faceless_updateOwnerInfo)
      (fun _ => keeps_ownerInfoShown touches_updateLogoutView (by simp) (by simp)) fun _ =>
    establishes_updateLogoutView.apart faceless_updateLogoutView
  intro v x
  refine (hparts v x).imp ?_
  rintro result x ⟨hletters, hdate, hinfo, hlogout⟩
  exact ⟨hdate, hletters, hinfo, hlogout⟩

end View

end Lockscreen

/-! ## Events and new views -/

/-- Whether all that is shown of the user is shown again on an event. -/
def Device.Event.showsUser : Device.Event → Bool
  | userSwitch _ => true
  | visibility isShowing => isShowing
  | time | timeZone _ | wake | sleep _ | logoutEnabled | density | locale _ => false

namespace Lockscreen

variable {answers : Answers} {exchanges : List Exchange} {v v' : View}

/-- After such an event all of it is what the answers come to, whatever was shown before. -/
theorem View.userShown_handle {e : Device.Event} (he : e.showsUser = true)
    (hruns : (View.handle e).Runs v exchanges () v') (hanswers : AnsweredApart answers exchanges)
    (x : Screen) : v'.UserShown answers (x.afterExchanges exchanges) := by
  cases e with
  | userSwitch user =>
    have hshown : Handler.Establishes (.answeredApart answers) (UserShown answers)
        (handle (.userSwitch user)) :=
      establishes_ofUser
    exact hshown.runs hruns hanswers
  | visibility isShowing =>
    obtain rfl : isShowing = true := he
    have hshown : Handler.Establishes (.answeredApart answers) (UserShown answers)
        (handle (.visibility true)) :=
      establishes_ofUser
    exact hshown.runs hruns hanswers
  | time | timeZone | wake | sleep | logoutEnabled | density | locale =>
    simp [Device.Event.showsUser] at he

/-- So it is in a view that has just been made. -/
theorem View.userShown_create {locale : String} (h : (create locale).Reaches exchanges (.done v))
    (hanswers : AnsweredApart answers exchanges) (x : Screen) :
    v.UserShown answers (x.afterExchanges exchanges) := by
  obtain ⟨color, later, rfl, hlater⟩ := Program.ask_reaches_done.1 h
  obtain ⟨_, hruns⟩ := Handler.after_reaches_done.1 hlater
  have hshown : v.UserShown answers (x.afterExchanges later) :=
    establishes_setUp_user.runs hruns (List.forall_mem_cons.1 hanswers).2
  exact hshown

end Lockscreen

end DeviceStatus
