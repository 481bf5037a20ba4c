import DeviceStatus.Proofs.Device.OnTheWay
import DeviceStatus.Proofs.Lockscreen.LogoutButton

/-!
# Rules for the logout button

A rule says how the logout button is to be in view of what is known of the device. It may be broken
by changes of some kinds, of which the view is told by the monitor. As long as an event that tells
of such a change is on its way to the view, the button may be out of date. Otherwise the rule holds,
or will hold when the view has ended its work (`Settled`): when it begins to handle such an event,
it looks at the device again, and a view that is being made does so before it sets the button for
the first time (`Outset`). All that is needed is that the view is attached when it has something to
be told (`System.heeds`).
-/

namespace DeviceStatus.Device

open Lockscreen

variable {ℓ : Type} {s s' : System ℓ} {begun : Option Operation}

/-! ## Before the button has been set -/

/-- What the view is doing before it has set the logout button: it is not there, or setting the
button is ahead of it, and nobody acts after it has begun to look at the device for that. -/
def Work.Ahead : Work → Prop
  | idle slot => ∀ v, slot ≠ .present v
  | running p => p.LogoutAhead ∨ p.AtButton
  | waiting _ next => ∀ answer, (next answer).LogoutAhead

/-- What is true of a view that has not set the logout button yet, and of one that is gone. -/
structure Outset (s : System ℓ) : Prop where
  /-- A view that is gone does nothing more. -/
  gone : s.view = .gone → s.work = .idle .gone
  /-- Nothing that the monitor tells is on its way to a view that is not there yet. -/
  empty : s.view = .empty → s.isAttached = false ∧
    ∀ kind : Event → Bool, (∀ e, kind e = true → e.source = .monitor) → s.owes kind = false
  /-- A view that has not set the button yet is going to. -/
  ahead : s.screen.logoutVisible = none → s.work.Ahead

theorem logoutVisible_afterRequest {x : Screen} {r : Request}
    (h : (x.afterRequest r).logoutVisible = none) :
    x.logoutVisible = none ∧ ∀ isVisible, r ≠ .command (.logoutVisible isVisible) := by
  cases r with
  | command c => cases c <;> simp_all [Screen.afterRequest, Screen.after]
  | fact | query | user | log => exact ⟨h, by simp⟩

theorem Work.Move.ahead {work work' : Work} {new : List (Occurrence ℓ)} {x : Screen}
    {known : (r : Request) → r.Answer → Prop} (hmove : Work.Move s work begun new work')
    (h : x.logoutVisible = none → work.Ahead)
    (hnone : (new.foldr (Occurrence.follow (.screen known)) x).logoutVisible = none) :
    work'.Ahead := by
  cases hmove with
  | stay work hnew =>
    rw [foldr_follow hnew] at hnone
    exact h hnone
  | create => exact .inl (View.logoutAhead_create _)
  | perform o v | handle d v | drop v => exact absurd rfl (h hnone v)
  | done v =>
    rcases h hnone with hahead | hbutton
    · obtain ⟨r, next, hask, -⟩ := hahead.exists_ask
      simp at hask
    · cases hbutton
  | fact f next =>
    rcases h hnone with hahead | hbutton
    · obtain ⟨r, next', hask, hlater | ⟨-, hbutton⟩⟩ := hahead.exists_ask
      · cases hask
        exact .inl (hlater _)
      · cases hask
        exact .inr (hbutton _)
    · cases hbutton with
      | fact hbutton => exact .inr (hbutton _)
  | log n next =>
    rcases h hnone with hahead | hbutton
    · obtain ⟨r, next', hask, hlater | ⟨⟨f, hfact⟩, -⟩⟩ := hahead.exists_ask
      · cases hask
        exact .inl (hlater _)
      · cases hask
        simp at hfact
    · cases hbutton
  | @ask r hr next =>
    -- the button is still not set, so this is not the request that sets it
    obtain ⟨hnone, hother⟩ := logoutVisible_afterRequest hnone
    rcases h hnone with hahead | hbutton
    · obtain ⟨r', next', hask, hlater | ⟨⟨f, hfact⟩, -⟩⟩ := hahead.exists_ask
      · cases hask
        exact hlater
      · cases hask
        simp [hfact, Request.isInternal] at hr
    · cases hbutton with
      | fact => simp [Request.isInternal] at hr
      | set => exact absurd rfl (hother _)
  | answer next answer => exact .inl (h hnone answer)

theorem Outset.feed (h : Outset s) (hshaped : Shaped s) (input : Input ℓ) :
    Outset (s.feed input) := by
  have hstep := hshaped.step_feed input
  obtain ⟨new, hjournal, hmove⟩ := hshaped.moved hstep
  constructor
  · intro hgone
    rcases hshaped.view_cases hstep with hview | ⟨v, hview⟩ | ⟨hwork, -⟩
    · rw [h.gone (hview.symm.trans hgone)] at hmove
      exact hmove.gone
    · simp [hview] at hgone
    · exact hwork
  · intro hempty
    rcases hshaped.view_cases hstep with hview | ⟨v, hview⟩ | ⟨-, hview⟩
    · have hbefore := hview.symm.trans hempty
      obtain ⟨hattached, hnone⟩ := h.empty hbefore
      have hnothing : s.owes (fun _ => false) = false := hnone _ (by simp)
      refine ⟨(hstep.unattached hbefore (by simp) hattached hnothing).1, ?_⟩
      intro kind hkind
      exact (hstep.unattached hbefore hkind hattached (hnone kind hkind)).2
    · simp [hview] at hempty
    · simp [hview] at hempty
  · intro hnone
    rw [screen_eq (fun _ _ => True) hjournal] at hnone
    exact hmove.ahead h.ahead hnone

theorem outset_start (locale : String) : Outset (System.start (ℓ := ℓ) locale) where
  gone := by simp [System.start]
  empty := fun _ => ⟨rfl, fun _ _ => rfl⟩
  ahead := by
    intro _ v
    simp [System.start]

theorem Interrupted.work? {stack : List (Frame ℓ)} (h : Interrupted stack) :
    ∃ r next, stack.findSome? Frame.work? = some (.waiting r next) := by
  induction h with
  | @asked r next => exact ⟨r, next, rfl⟩
  | @telling f below hf h ih =>
    have hnone : f.work? = none := by cases f <;> simp_all [Frame.isTelling, Frame.work?]
    simpa [hnone] using ih

/-- Where others act, a view that has not set the button yet will look at the device again. -/
theorem Shaped.meets_of_ahead (h : Shaped s) (hturn : s.isTurn = true) (hahead : s.work.Ahead)
    {known : (f : Fact) → f.Answer → Prop} {property : View → Screen → Prop}
    (hlaw : ButtonLaw known property) (x : Screen) :
    s.work.Meets (.screen (knownFacts known)) property x := by
  by_cases hbusy : s.isBusy = true
  · obtain ⟨r, next, hwork⟩ := (h.open_of_isTurn hturn hbusy).work?
    rw [System.work, hwork] at hahead ⊢
    exact fun answer => hlaw.ahead (hahead answer) x
  · have hidle := h.work_of_free (by simpa using hbusy)
    rw [hidle] at hahead ⊢
    exact fun v hv => absurd hv (hahead v)

/-! ## Rules -/

/-- The answer to a question about a device. -/
def Status.answer (status : Status) : (f : Fact) → f.Answer
  | .isInteractive => status.isInteractive
  | .isLogoutEnabled => status.isLogoutEnabled
  | .currentUser => status.currentUser

/-- A rule for the logout button. -/
structure ButtonRule where
  /-- Whether an event tells of a change that may break the rule. -/
  tells : Event → Bool
  /-- What is to be known of the device. -/
  known : Status → (f : Fact) → f.Answer → Prop
  /-- How the button is to be. -/
  holds : Status → View → Screen → Prop
  law : ∀ status, ButtonLaw (known status) (holds status)
  knows : ∀ status f, known status f (status.answer f)
  /-- The view sets the button on such an event. -/
  concernsLogout : ∀ e, tells e = true → e.concernsLogout = true
  /-- Any other change leaves the rule as it is, or nothing to be wished of the button. -/
  other : ∀ {c : Change}, tells c.told = false → ∀ status,
    known (status.after c) = known status ∧ holds (status.after c) = holds status ∨
      ∀ v x, holds (status.after c) v x

variable {rule : ButtonRule}

theorem ButtonRule.monitor (rule : ButtonRule) (e : Event) (he : rule.tells e = true) :
    e.source = .monitor := by
  have hconcerns := rule.concernsLogout e he
  cases e <;> first | rfl | simp [Event.concernsLogout] at hconcerns

/-- What is watched for a rule. -/
abbrev ButtonRule.watch (rule : ButtonRule) (status : Status) : Watch Screen :=
  .screen (knownFacts (rule.known status))

theorem ButtonRule.fits (rule : ButtonRule) (s : System ℓ) : Fits (rule.watch s.status) s := by
  refine fits_screen ?_
  intro f
  have hknows := rule.knows s.status f
  cases f <;> exact hknows

/-- A rule holds or will hold when the view has ended its work, or an event that tells of a change
is on its way. -/
def Settled (rule : ButtonRule) (s : System ℓ) : Prop :=
  s.owes rule.tells = true ∨
    s.work.Meets (rule.watch s.status) (rule.holds s.status) s.screen

/-- Whether a change that may break a rule, if an input is one, finds the view attached or is made
before the view has set the button for the first time. -/
def System.heeds (s : System ℓ) (rule : ButtonRule) : Input ℓ → Bool
  | .act (.change c) =>
    !s.isTurn || !rule.tells c.told || s.screen.logoutVisible.isNone || s.isAttached
  | .act _ | .tick | .done | .reply _ => true

theorem meets_of_forall {σ : Type} {w : Watch σ} (hpermits : ∀ x r, w.permits x r)
    {property : View → σ → Prop} (hproperty : ∀ v x, property v x) (work : Work) (x : σ) :
    work.Meets w property x := by
  cases work with
  | idle slot => exact fun v _ => hproperty v x
  | running p => exact Program.ensures_of_forall hpermits hproperty p x
  | waiting r next =>
    exact fun answer => Program.ensures_of_forall hpermits hproperty (next answer) x

/-- A change that may break the rule is on its way to the view, or the view will look at the device
later. So it does not matter what the button was like before. -/
theorem settled_of_tells (houtset : Outset s) (hshaped : Shaped s) {c : Change}
    (hturn : s.isTurn = true) (htells : rule.tells c.told = true)
    (hheeds : s.heeds rule (.act (.change c)) = true) :
    Settled rule (({ s with status := s.status.after c } : System ℓ).announce c.told) := by
  have hcases : s.screen.logoutVisible = none ∨ s.isAttached = true := by
    simpa [System.heeds, hturn, htells] using hheeds
  rcases hcases with hnone | hattached
  · right
    rw [work_announce]
    exact hshaped.meets_of_ahead hturn (houtset.ahead hnone) (rule.law _) _
  · left
    rw [owes_announce (rule.monitor c.told), htells, Bool.or_eq_true]
    exact .inl hattached

theorem settled_of_forall {c : Change} (hholds : ∀ v x, rule.holds (s.status.after c) v x) :
    Settled rule (({ s with status := s.status.after c } : System ℓ).announce c.told) :=
  .inr (meets_of_forall (fun _ _ => trivial) hholds _ _)

namespace Settled

variable (h : Settled rule s) (houtset : Outset s) (hshaped : Shaped s)

include h

theorem announce_other {c : Change} (htells : rule.tells c.told = false) :
    Settled rule (({ s with status := s.status.after c } : System ℓ).announce c.told) := by
  rcases rule.other htells s.status with ⟨hknown, hholds⟩ | hholds
  · rcases h with howes | hmeets
    · left
      rw [owes_announce (rule.monitor c.told), Bool.or_eq_true]
      exact .inr howes
    · right
      rw [work_announce]
      show s.work.Meets (rule.watch (s.status.after c)) (rule.holds (s.status.after c)) s.screen
      rw [ButtonRule.watch, hknown, hholds]
      exact hmeets
  · exact settled_of_forall hholds

include houtset hshaped

/-- Nothing else changes what is known of the device. -/
theorem feed_other {input : Input ℓ} (hinput : ∀ c, input ≠ .act (.change c)) :
    Settled rule (s.feed input) := by
  unfold Settled
  rw [status_feed hinput]
  -- what is on its way stays so, unless the view begins to handle it and then sets the button
  rcases h with howes | hmeets
  · rcases (hshaped.step_feed input).owes rule.monitor
      (fun hempty => (houtset.empty hempty).2 _ rule.monitor) houtset.gone howes with
      howes | hgone | ⟨d, v, hd, hwork⟩
    · exact .inl howes
    · right
      rw [hgone]
      intro v hv
      simp at hv
    · right
      rw [hwork]
      have hset := (rule.law s.status).handle (rule.concernsLogout _ hd)
      exact (Handler.ensures_after ..).2 (hset v _)
  · right
    exact hshaped.meets_feed
      (fun locale x => (rule.law s.status).ahead (View.logoutAhead_create locale) x)
      (rule.law s.status).operation (rule.fits s) hmeets input

theorem feed {input : Input ℓ} (hheeds : s.heeds rule input = true) :
    Settled rule (s.feed input) := by
  by_cases hinput : ∃ c, input = .act (.change c)
  · obtain ⟨c, rfl⟩ := hinput
    simp only [System.feed, System.act]
    split
    · next hturn =>
      split
      · next event hevent =>
        obtain rfl := Status.eq_told_of_eventOf hevent
        cases htells : rule.tells c.told with
        | true => exact settled_of_tells houtset hshaped hturn htells hheeds
        | false => exact h.announce_other htells
      · next hevent =>
        rw [after_of_eventOf_eq_none hevent]
        exact h
    · exact h
  · exact h.feed_other houtset hshaped fun c hc => hinput ⟨c, hc⟩

end Settled

/-- Whether something is true of every input of a run, in the system that it is fed to. -/
def System.throughout (ok : System ℓ → Input ℓ → Bool) : System ℓ → List (Input ℓ) → Bool
  | _, [] => true
  | s, input :: inputs => ok s input && (s.feed input).throughout ok inputs

/-- What is kept by every input of a kind is kept by a run of such inputs. -/
theorem Shaped.throughout_induction {P : System ℓ → Prop} {ok : System ℓ → Input ℓ → Bool}
    (hfeed : ∀ s : System ℓ, Shaped s → P s → ∀ input, ok s input = true → P (s.feed input))
    (hshaped : Shaped s) (h : P s) {inputs : List (Input ℓ)}
    (hinputs : s.throughout ok inputs = true) : P (s.run inputs) := by
  induction inputs generalizing s with
  | nil => exact h
  | cons input inputs ih =>
    obtain ⟨hinput, hlater⟩ := (Bool.and_eq_true _ _).mp hinputs
    exact ih (hshaped.feed input).1 (hfeed s hshaped h input hinput) hlater

/-- A rule is settled along every run in which the view is attached when it has something to be
told. -/
theorem settled_run (rule : ButtonRule) (locale : String) {inputs : List (Input ℓ)}
    (hheeds : (System.start locale).throughout (fun s => s.heeds rule) inputs = true) :
    Outset ((System.start (ℓ := ℓ) locale).run inputs) ∧
      Settled rule ((System.start (ℓ := ℓ) locale).run inputs) := by
  refine (shaped_start locale).throughout_induction (P := fun s => Outset s ∧ Settled rule s)
    ?_ ⟨outset_start locale, .inr ?_⟩ hheeds
  · intro s hshaped h input hheeds
    exact ⟨h.1.feed hshaped input, h.2.feed h.1 hshaped hheeds⟩
  · intro v hv
    simp [System.start] at hv

end DeviceStatus.Device
