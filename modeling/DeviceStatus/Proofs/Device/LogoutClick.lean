import DeviceStatus.Proofs.Device.Logout
import DeviceStatus.Proofs.Device.LogoutRule

/-!
# The system user is not stopped

A click on the logout button stops the user of the moment of the click, whoever that is. All that
keeps it from stopping the system user is that the button is hidden for the system user, and the
button is hidden by the view when it handles the switch. So the question is whether a switch to the
system user can be between the device and the view at the click.

That the button is hidden for the system user is a rule for the button (`systemUserRule`) that only
a switch to the system user may break. Every switch settles it anew, whatever has been missed
before, so only the latest one counts (`System.heedsSystemUser?`).
-/

namespace DeviceStatus.Device

open Lockscreen

variable {ℓ : Type} {s : System ℓ}

/-! ## The rule -/

/-- Whether an event tells that the system user has become the current one. -/
def Event.bringsSystemUser : Event → Bool
  | userSwitch user => user == systemUser
  | time | timeZone _ | visibility _ | wake | sleep _ | logoutEnabled | density | locale _ => false

def knowsUser (user : Int32) : (f : Fact) → f.Answer → Prop
  | .currentUser => fun answer => answer = user
  | .isInteractive | .isLogoutEnabled => fun _ => True

theorem buttonLaw_hidden (user : Int32) :
    ButtonLaw (knowsUser user) fun v _ => user = systemUser → v.isLogoutVisible = false where
  alone := by
    intro v v' x x' hview _ hhidden huser
    exact Eq.trans hview (hhidden huser)
  set := by
    intro v x
    refine ⟨trivial, fun isEnabled _ => ⟨trivial, ?_⟩⟩
    rintro _ rfl
    refine ⟨trivial, fun _ _ => ⟨trivial, fun _ _ => ⟨trivial, fun _ _ => ?_⟩⟩⟩
    intro huser
    simp [huser]

/-- The button is hidden for the system user. -/
def systemUserRule : ButtonRule where
  tells := Event.bringsSystemUser
  known := fun status => knowsUser status.currentUser
  holds := fun status v _ => status.currentUser = systemUser → v.isLogoutVisible = false
  law := fun status => buttonLaw_hidden status.currentUser
  knows := fun status f => by cases f <;> simp [knowsUser, Status.answer]
  concernsLogout := fun e he => by
    cases e <;> simp_all [Event.bringsSystemUser, Event.concernsLogout]
  other := by
    intro c hc status
    cases c with
    | userSwitch user =>
      -- nothing is wished of the button for another user
      have huser : user ≠ systemUser := by simpa [Change.told, Event.bringsSystemUser] using hc
      exact .inr fun v x h => absurd h huser
    | time | timeZone | visibility | wake | sleep | setLogoutEnabled | density | setLocale =>
      exact .inl ⟨rfl, rfl⟩

/-! ## The latest switch -/

/-- The last of what is found along a run. -/
def System.latest {α : Type} (find : System ℓ → Input ℓ → Option α) :
    System ℓ → List (Input ℓ) → Option α
  | _, [] => none
  | s, input :: inputs => ((s.feed input).latest find inputs).or (find s input)

/-- If an input is a switch, whether it is one to another user, or finds the view attached or not
having set the button yet. -/
def System.heedsSystemUser? (s : System ℓ) : Input ℓ → Option Bool
  | .act (.change (.userSwitch user)) =>
    if s.isTurn then
      some (user != systemUser || s.screen.logoutVisible.isNone || s.isAttached)
    else none
  | .act _ | .tick | .done | .reply _ => none

theorem heeds_of_heedsSystemUser? {input : Input ℓ} (h : s.heedsSystemUser? input ≠ some false) :
    s.heeds systemUserRule input = true := by
  cases input with
  | act a =>
    cases a with
    | change c =>
      cases c with
      | userSwitch user =>
        cases hturn : s.isTurn with
        | true =>
          have hheeded : (user != systemUser || s.screen.logoutVisible.isNone || s.isAttached) =
              true := by
            simpa only [System.heedsSystemUser?, hturn, if_true, ne_eq, Option.some.injEq,
              Bool.not_eq_false] using h
          rw [System.heeds, hturn]
          exact hheeded
        | false => simp [System.heeds, hturn]
      | time | timeZone | visibility | wake | sleep | setLogoutEnabled | density | setLocale =>
        simp [System.heeds, systemUserRule, Change.told, Event.bringsSystemUser]
    | listen | unlisten | create | attach | detach | perform | dropView => rfl
  | tick | done | reply => rfl

/-- A switch settles the rule, whatever the button was like before. -/
theorem settled_of_switch (houtset : Outset s) (hshaped : Shaped s) {input : Input ℓ}
    (h : s.heedsSystemUser? input = some true) : Settled systemUserRule (s.feed input) := by
  have hheeds : s.heeds systemUserRule input = true := heeds_of_heedsSystemUser? (by simp [h])
  unfold System.heedsSystemUser? at h
  split at h
  · next user =>
    have hturn : s.isTurn = true := by
      by_contra hturn
      simp [hturn] at h
    simp only [System.feed, System.act, hturn, if_true]
    show Settled systemUserRule (({ s with status := s.status.after (.userSwitch user) } :
      System ℓ).announce (Change.userSwitch user).told)
    by_cases huser : user = systemUser
    · have htells : systemUserRule.tells (Change.userSwitch user).told = true := beq_iff_eq.2 huser
      exact settled_of_tells houtset hshaped hturn htells hheeds
    · exact settled_of_forall fun v x h => absurd h huser
  all_goals simp at h

/-- After a run the rule is settled by the latest switch, or has been settled all the time. -/
theorem settled_latest {inputs : List (Input ℓ)} (hshaped : Shaped s) (houtset : Outset s)
    (hsettled : s.latest System.heedsSystemUser? inputs = none → Settled systemUserRule s)
    (hlatest : s.latest System.heedsSystemUser? inputs ≠ some false) :
    Settled systemUserRule (s.run inputs) := by
  -- by induction on the inputs: if there is no later switch, this input may be the latest one
  induction inputs generalizing s with
  | nil => exact hsettled rfl
  | cons input inputs ih =>
    have hshaped' := (hshaped.feed input).1
    have houtset' := houtset.feed hshaped input
    rw [System.latest] at hsettled hlatest
    cases hlater : (s.feed input).latest System.heedsSystemUser? inputs with
    | some heeded =>
      rw [hlater, Option.some_or] at hlatest
      exact ih hshaped' houtset' (fun hnone => by simp [hlater] at hnone) (by rwa [hlater])
    | none =>
      rw [hlater, Option.none_or] at hsettled hlatest
      refine ih hshaped' houtset' (fun _ => ?_) (by simp [hlater])
      cases hinput : s.heedsSystemUser? input with
      | some heeded =>
        obtain rfl : heeded = true := by simpa [hinput] using hlatest
        exact settled_of_switch houtset hshaped hinput
      | none =>
        exact (hsettled hinput).feed houtset hshaped (heeds_of_heedsSystemUser? (by simp [hinput]))

/-! ## The click -/

/-- Whoever is stopped by a logout is the user who is logged out. -/
theorem LogsOut.eq_of_stopped {user other : Int32} {isForced : Bool} {past : List Dealing}
    (h : LogsOut user past) (hstopped : .ordered (.stopUser other isForced) ∈ past) :
    other = user := by
  obtain ⟨switched, stopped, events, rfl⟩ := h
  rcases List.mem_append.1 hstopped with horder | hevent
  · cases switched with
    | error cause => simp [logoutDealings] at horder
    | ok =>
      cases stopped with
      | error cause => simp_all [logoutDealings]
      | ok => simp_all [logoutDealings]
  · simp at hevent

/-- A click on the visible logout button does not stop the system user, from the click until the
view is free again. -/
def System.SparesSystemUser (s : System ℓ) (click : Input ℓ) (inputs : List (Input ℓ)) : Prop :=
  s.begun? click = some .logOut → (∀ v, s.view = .present v → v.isLogoutVisible = true) →
    (s.feed click).BusyThrough inputs →
      ∀ isForced, .ordered (.stopUser systemUser isForced) ∉ s.dealings (click :: inputs)

/-- A click on the visible logout button does not stop the system user unless the view has still to
handle the switch that has made that user the current one. The switch may have been missed: the view
was not attached. Or it is on its way: being told to the callbacks, put off, or waiting for events
that have been put off. It does not matter what else has happened, nor what happens during the
logout. -/
theorem system_user_spared (locale : String) (earlier : List (Input ℓ)) (click : Input ℓ)
    (inputs : List (Input ℓ)) :
    let s := (System.start locale).run earlier
    (System.start locale).latest System.heedsSystemUser? earlier ≠ some false →
      (s.status.currentUser = systemUser → s.owes Event.bringsSystemUser = false) →
        s.SparesSystemUser click inputs := by
  intro s hlatest hnothing hbegun hvisible hbusy isForced hstopped
  have hshaped : Shaped s := (shaped_run locale earlier).1
  -- the user who is stopped is the current one
  obtain ⟨⟨rest, hlogsOut⟩, -⟩ := hshaped.logsOut hbegun hbusy
  have huser : systemUser = s.status.currentUser :=
    hlogsOut.eq_of_stopped (List.mem_append_left rest hstopped)
  -- but the button is hidden for the system user
  have hsettled : Settled systemUserRule s := by
    refine settled_latest (shaped_start locale) (outset_start locale) (fun _ => .inr ?_) hlatest
    intro v hv
    simp [System.start] at hv
  obtain ⟨v, hview, hfree⟩ : ∃ v, s.view = .present v ∧ s.isBusy = false := by
    have hstep := hshaped.step_feed click
    rw [hbegun] at hstep
    generalize s.feed click = s' at hstep
    cases hstep with
    | @perform o v hview hfree => exact ⟨v, hview, hfree⟩
  have hmeets := hsettled.resolve_left (by simp [systemUserRule, hnothing huser.symm])
  rw [hshaped.work_of_free hfree] at hmeets
  have hhidden : v.isLogoutVisible = false := hmeets v hview huser.symm
  exact absurd (hvisible v hview) (by simp [hhidden])

/-! ## Clicks before and after the switch has been handled -/

def calm : Surroundings where
  bestPattern := fun _ skeleton => skeleton

/-- The second user may log out, and the view is made for that user. -/
def forSecondUser : List (Input ℓ) :=
  [.act (.change (.setLogoutEnabled true)), .tick, .act (.change (.userSwitch 10)), .tick,
    .act .create] ++ calm.uneventful 70

/-- The view is attached; the system user comes, and then the second user once more. -/
def systemUserBetween : List (Input Empty) :=
  forSecondUser ++ [.act (.attach "a"), .act (.change (.userSwitch 0))] ++ calm.uneventful 60 ++
    [.act (.change (.userSwitch 10))] ++ calm.uneventful 60

/-- The view carries out the click and is free again. -/
def untilFree : List (Input ℓ) := calm.uneventful 5 ++ [.tick]

theorem visible_of_view? (h : s.view.view?.map (·.isLogoutVisible) = some true) :
    ∀ v, s.view = .present v → v.isLogoutVisible = true := by
  intro v hview
  rw [hview] at h
  exact Option.some.inj h

/-- The second user is stopped, and the system user is not. -/
theorem system_user_spared_between :
    let s := (System.start "en").run systemUserBetween
    (System.start "en").latest System.heedsSystemUser? systemUserBetween = some true ∧
      s.begun? clickLogout = some .logOut ∧
      .ordered (.stopUser 10 true) ∈ s.dealings (clickLogout :: untilFree) ∧
      ∀ isForced, .ordered (.stopUser systemUser isForced) ∉
        s.dealings (clickLogout :: untilFree) := by
  intro s
  have hlatest : (System.start "en").latest System.heedsSystemUser? systemUserBetween =
      some true := by
    decide +kernel
  have hbegun : s.begun? clickLogout = some .logOut :=
    begun?_clickLogout (by decide +kernel) (by decide +kernel)
  refine ⟨hlatest, hbegun, by decide +kernel, ?_⟩
  exact system_user_spared "en" systemUserBetween clickLogout untilFree (by simp [hlatest])
    (by decide +kernel) hbegun (visible_of_view? (by decide +kernel)) (by decide +kernel)

/-- The view is attached and detached again, so it misses that the system user comes. -/
def systemUserMissed : List (Input Empty) :=
  forSecondUser ++ [.act (.attach "a"), .act (.detach "a"), .act (.change (.userSwitch 0)), .tick]

/-- The view is attached, but a listener was registered before; it is just being told that the
system user has come. -/
def systemUserAnnounced : List (Input Unit) :=
  forSecondUser ++ [.act (.listen "first" .monitor ()), .act (.attach "a"),
    .act (.change (.userSwitch 0)), .tick]

/-- A view that has missed that the system user has come does not hide the button, and a click stops
the system user. It is no better if the view is attached and nothing has ever been put off, but a
listener that is told of the switch before the view clicks. -/
theorem not_system_user_spared :
    ¬ ((System.start "en").run systemUserMissed).SparesSystemUser clickLogout untilFree ∧
      ((System.start "en").run systemUserAnnounced).isAttached = true ∧
      ((System.start "en").run systemUserAnnounced).deferred = [] ∧
      ¬ ((System.start "en").run systemUserAnnounced).SparesSystemUser clickLogout untilFree := by
  refine ⟨?_, by decide +kernel, by decide +kernel, ?_⟩
  · set s := (System.start "en").run systemUserMissed
    intro hspares
    have hbegun : s.begun? clickLogout = some .logOut :=
      begun?_clickLogout (by decide +kernel) (by decide +kernel)
    refine hspares hbegun (visible_of_view? (by decide +kernel)) (by decide +kernel) true ?_
    decide +kernel
  · set s := (System.start "en").run systemUserAnnounced
    intro hspares
    have hbegun : s.begun? clickLogout = some .logOut :=
      begun?_clickLogout (by decide +kernel) (by decide +kernel)
    refine hspares hbegun (visible_of_view? (by decide +kernel)) (by decide +kernel) true ?_
    decide +kernel

end DeviceStatus.Device
