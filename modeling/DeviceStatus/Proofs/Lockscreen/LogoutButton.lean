import DeviceStatus.Proofs.Lockscreen.Footprints

/-!
# The logout button

The logout button depends on two facts about the device. Whatever looks at them sets the button, and
no operation sets it otherwise: so what is said about the button alone is true after every operation
if setting the button makes it true (`ButtonLaw`). A view that is being made looks at the two facts
right before it sets the button, so what happens to the device earlier than that does not matter
(`Program.LogoutAhead`).
-/

namespace DeviceStatus

namespace Device

/-- Whether a change may be one of what the logout button depends on. -/
def Change.concernsLogout : Change → Bool
  | userSwitch _ | setLogoutEnabled _ => true
  | time | timeZone _ | visibility _ | wake | sleep _ | density | setLocale _ => false

/-- Whether an event tells of such a change. -/
def Event.concernsLogout : Event → Bool
  | userSwitch _ | logoutEnabled => true
  | time | timeZone _ | visibility _ | wake | sleep _ | density | locale _ => false

/-- Whether the logout button is to be shown. -/
def Status.offersLogout (status : Status) : Bool :=
  status.isLogoutEnabled && status.currentUser != Lockscreen.systemUser

/-- The devices offer the logout button for the same reasons. -/
def Status.SameLogout (status status' : Status) : Prop :=
  status'.isLogoutEnabled = status.isLogoutEnabled ∧ status'.currentUser = status.currentUser

theorem Status.sameLogout_after {c : Change} (hc : c.concernsLogout = false) (status : Status) :
    status.SameLogout (status.after c) := by
  cases c <;> simp_all [Change.concernsLogout, Status.SameLogout, Status.after]

/-- The event that tells of a change, if one does. -/
def Change.told : Change → Event
  | time => .time
  | timeZone zone => .timeZone zone
  | visibility isShowing => .visibility isShowing
  | wake => .wake
  | sleep why => .sleep why
  | userSwitch user => .userSwitch user
  | setLogoutEnabled _ => .logoutEnabled
  | density => .density
  | setLocale locale => .locale locale

theorem Status.eq_told_of_eventOf {status : Status} {c : Change} {event : Event}
    (hevent : status.eventOf c = some event) : event = c.told := by
  cases c with
  | setLogoutEnabled isEnabled | setLocale locale =>
    simp only [Status.eventOf] at hevent
    split at hevent
    · simp at hevent
    · exact (Option.some.inj hevent).symm
  | time | timeZone | visibility | wake | sleep | userSwitch | density =>
    exact (Option.some.inj hevent).symm

theorem Change.concernsLogout_told (c : Change) : c.told.concernsLogout = c.concernsLogout := by
  cases c <;> rfl

end Device

namespace Lockscreen

open Handler
open Device (Status Event)

/-- What is known of the device is what the logout button depends on. -/
def knowsLogout (status : Status) : (f : Fact) → f.Answer → Prop
  | .isInteractive => fun _ => True
  | .isLogoutEnabled => fun answer => answer = status.isLogoutEnabled
  | .currentUser => fun answer => answer = status.currentUser

/-- The logout button is as it is to be, in the view and on the screen. -/
def View.LogoutShown (status : Status) (v : View) (x : Screen) : Prop :=
  v.isLogoutVisible = status.offersLogout ∧ x.logoutVisible = some status.offersLogout

variable {α β : Type} {areas : List Area} {h : Handler α} {status : Status}

/-! ## What is said about the button -/

/-- Something is said about the logout button alone, and is true when the view has set the button,
if something is known of the device. -/
structure ButtonLaw (known : (f : Fact) → f.Answer → Prop) (property : View → Screen → Prop) :
    Prop where
  alone : ∀ v v' x x', v.SameIn v' .logout → x.SameIn x' .logout → property v x → property v' x'
  set : Establishes (.screen (knownFacts known)) property View.updateLogoutView

namespace ButtonLaw

variable {known : (f : Fact) → f.Answer → Prop} {property : View → Screen → Prop}
  (hlaw : ButtonLaw known property)

include hlaw

/-- What does not touch the logout button leaves it as it is. -/
theorem touches (hh : Touches areas h) (ha : .logout ∉ areas) :
    Keeps (.screen (knownFacts known)) property h := by
  refine hh.keeps_screen [.logout] (by simpa using ha) ?_
  intro v v' x x' hsame
  obtain ⟨hview, hscreen⟩ := hsame .logout (List.mem_singleton_self _)
  exact hlaw.alone v v' x x' hview hscreen

/-- What belongs to the user is shown again, after something else. -/
theorem ofUser (first : Handler Unit) :
    Establishes (.screen (knownFacts known)) property (do
      first
      View.updateOwnerInfo
      View.updateLogoutView
      View.refreshFontsAndSizes
      View.updateDateStyles) := by
  refine .of_last (fun _ _ => trivial) fun _ => .of_last (fun _ _ => trivial) fun _ => ?_
  exact .bind hlaw.set fun _ =>
    .bind (hlaw.touches View.touches_refreshFontsAndSizes (by simp)) fun _ =>
      hlaw.touches View.touches_updateDateStyles (by simp)

/-- Whatever the view was like before, an event that concerns the logout sets the button. -/
theorem handle {e : Event} (he : e.concernsLogout = true) :
    Establishes (.screen (knownFacts known)) property (View.handle e) := by
  cases e with
  | userSwitch user => exact hlaw.ofUser View.refreshFormat
  | logoutEnabled => exact hlaw.set
  | time | timeZone | visibility | wake | sleep | density | locale =>
    simp [Event.concernsLogout] at he

/-- No operation spoils the logout button. -/
theorem operation (o : Operation) :
    Keeps (.screen (knownFacts known)) property o.handler := by
  cases o with
  | event e =>
    cases e with
    | userSwitch user => exact (hlaw.handle (e := .userSwitch user) rfl).keeps
    | logoutEnabled => exact (hlaw.handle (e := .logoutEnabled) rfl).keeps
    | visibility isShowing =>
      cases isShowing with
      | true => exact (hlaw.ofUser View.refreshTime).keeps
      | false => exact .pure ()
    | time | timeZone | wake | sleep | density | locale =>
      exact hlaw.touches (Operation.touches (.event _)) (by simp [Operation.areas, Event.areas])
  | updateAll | updateSettings | updateDateStyles | dozeTimeTick | setDarkAmount | setPulsing
  | marqueeTimerFired | contentChanged | logOut | replay =>
    exact hlaw.touches (Operation.touches _) (by simp [Operation.areas])

end ButtonLaw

/-! ## The button as it is to be -/

/-- The screen is watched while nothing changes that the logout button depends on. -/
abbrev Watch.logout (status : Status) : Watch Screen := .screen (knownFacts (knowsLogout status))

theorem knowsLogout_congr {status' : Status} (hsame : status.SameLogout status') :
    knowsLogout status' = knowsLogout status := by
  funext f
  cases f <;> simp [knowsLogout, hsame.1, hsame.2]

theorem View.logoutShown_congr {status' : Status} (hsame : status.SameLogout status') :
    View.LogoutShown status' = View.LogoutShown status := by
  unfold LogoutShown Status.offersLogout
  rw [hsame.1, hsame.2]

theorem View.buttonLaw_logoutShown (status : Status) :
    ButtonLaw (knowsLogout status) (LogoutShown status) where
  alone := by
    intro v v' x x' hview hscreen hshown
    obtain ⟨hvisible, -⟩ := hscreen
    exact ⟨Eq.trans hview hshown.1, hvisible.trans hshown.2⟩
  set := by
    intro v x
    refine ⟨trivial, ?_⟩
    rintro _ rfl
    refine ⟨trivial, ?_⟩
    rintro _ rfl
    exact ⟨trivial, fun _ _ => ⟨trivial, fun _ _ => ⟨trivial, fun _ _ => ⟨rfl, rfl⟩⟩⟩⟩

/-! ## Making a view -/

/-- All that belongs to setting the logout button is still ahead of a program, as the last that it
does. -/
inductive Program.LogoutAhead : Program View → Prop
  | now (v : View) : LogoutAhead (View.updateLogoutView.after v)
  | later {r : Request} {next : r.Answer → Program View}
    (h : ∀ answer, (next answer).LogoutAhead) : LogoutAhead (.ask r next)

/-- A program does nothing but look at the device before it sets the logout button. -/
inductive Program.AtButton : Program View → Prop
  | fact {f : Fact} {next : f.Answer → Program View} (h : ∀ answer, (next answer).AtButton) :
    AtButton (.ask (.fact f) next)
  | set {isVisible : Bool} {next : Unit → Program View} :
    AtButton (.ask (.command (.logoutVisible isVisible)) next)

/-- The next request is made before the button comes, or it is the first look at the device. -/
theorem Program.LogoutAhead.exists_ask {p : Program View} (hp : p.LogoutAhead) :
    ∃ r next, p = .ask r next ∧ ((∀ answer, (next answer).LogoutAhead) ∨
      (∃ f, r = .fact f) ∧ ∀ answer, (next answer).AtButton) := by
  cases hp with
  | now v => exact ⟨_, _, rfl, .inr ⟨⟨_, rfl⟩, fun _ => .fact fun _ => .set⟩⟩
  | later h => exact ⟨_, _, rfl, .inl h⟩

/-- What is true when the button has been set is true at the end. -/
theorem ButtonLaw.ahead {known : (f : Fact) → f.Answer → Prop} {property : View → Screen → Prop}
    (hlaw : ButtonLaw known property) {p : Program View} (hp : p.LogoutAhead) (x : Screen) :
    p.Ensures (.screen (knownFacts known)) property x := by
  induction hp generalizing x with
  | now v => exact (ensures_after ..).2 (hlaw.set v x)
  | later _ ih => exact ⟨trivial, fun answer _ => ih answer _⟩

theorem Handler.after_bind (h : Handler α) (f : α → Handler β) (v : View) :
    (h >>= f).after v = (h.run v).bind fun result => (f result.1).after result.2 := by
  unfold after
  rw [StateT.run_bind]
  exact Program.bind_assoc ..

theorem Program.LogoutAhead.bind {f : α → Program View} (hf : ∀ value, (f value).LogoutAhead)
    (p : Program α) : (p.bind f).LogoutAhead := by
  induction p with
  | done value => exact hf value
  | ask r next ih => exact .later ih

theorem Program.LogoutAhead.of_last {f : α → Handler β}
    (hf : ∀ value v, ((f value).after v).LogoutAhead) (v : View) :
    ((h >>= f).after v).LogoutAhead := by
  rw [Handler.after_bind]
  exact .bind (fun result => hf result.1 result.2) (h.run v)

theorem View.logoutAhead_setUp (v : View) : (setUp.after v).LogoutAhead := by
  revert v
  unfold setUp
  iterate 8 refine .of_last fun _ => ?_
  exact .now

theorem View.logoutAhead_create (locale : String) : (create locale).LogoutAhead :=
  .bind (fun _ => logoutAhead_setUp _) (Program.request (.query .clockTextColor))

end Lockscreen

end DeviceStatus
