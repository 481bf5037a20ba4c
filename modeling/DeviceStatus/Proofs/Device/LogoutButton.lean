import DeviceStatus.Proofs.Device.Delivery
import DeviceStatus.Proofs.Device.LogoutRule

/-!
# The logout button at rest

When the logout policy or the user changes, the view is told. As long as an event that tells of this
is on its way, the button may be out of date. Otherwise the button is right, or the view is about to
set it right (`logoutRule`). So it is right at rest, provided that the view is attached when it has
something to be told.
-/

namespace DeviceStatus.Device

open Lockscreen

variable {ℓ : Type} {s s' : System ℓ}

/-! ## The rule -/

/-- The button is there exactly if the logout is offered. -/
def logoutRule : ButtonRule where
  tells := Event.concernsLogout
  known := knowsLogout
  holds := View.LogoutShown
  law := View.buttonLaw_logoutShown
  knows := fun _ f => by cases f <;> simp [knowsLogout, Status.answer]
  concernsLogout := fun _ he => he
  other := by
    intro c hc status
    have hsame : status.SameLogout (status.after c) :=
      Status.sameLogout_after (c.concernsLogout_told.symm.trans hc) status
    exact .inl ⟨knowsLogout_congr hsame, View.logoutShown_congr hsame⟩

theorem owes_of_isAtRest (hrest : s.isAtRest = true) (hdeferred : s.deferred = [])
    (kind : Event → Bool) : s.owes kind = false := by
  have hstack : s.stack = [] := List.isEmpty_iff.1 hrest
  simp [System.owes, hstack, hdeferred]

/-- The logout button is never stale at rest. The callbacks and everything that the view asks may
change the device at any time, in the middle of anything, also while the button is being set; all
that is needed is that the view is attached when the current user or the logout policy changes, or
has not set the button for the first time yet. Then, whenever nothing is going on and nothing has
been put off, the button is there exactly if users may log out and the current user is not the
system user, both in the fields of the view and on the screen. -/
theorem logout_shown_at_rest (locale : String) {inputs : List (Input ℓ)}
    (hheeds : (System.start locale).throughout (fun s => s.heeds logoutRule) inputs = true) :
    let s := (System.start locale).run inputs
    s.isAtRest = true → s.deferred = [] → ∀ v, s.view = .present v →
      v.isLogoutVisible = s.status.offersLogout ∧
        s.screen.logoutVisible = some s.status.offersLogout := by
  intro s hrest hdeferred v hview
  have hstack : s.stack = [] := List.isEmpty_iff.1 hrest
  rcases (settled_run logoutRule locale hheeds).2 with howes | hmeets
  · exact absurd (howes.symm.trans (owes_of_isAtRest hrest hdeferred _)) (by simp)
  · have hwork : s.work = .idle s.view := work_of_stack hstack rfl
    rw [hwork] at hmeets
    exact hmeets v hview

/-! ## A change while the button is being set -/

theorem ViewSlot.exists_present {slot : ViewSlot} (h : slot.view?.isSome = true) :
    ∃ v, slot = .present v := by
  cases slot with
  | present v => exact ⟨v, rfl⟩
  | empty | gone => simp [view?] at h

/-- Logout comes to be allowed, and while the view hides the button for the system user, another
user comes. The view is told of this after that, when the time changes. -/
def switchWhileHiding : List (Input Empty) :=
  .act .create :: uneventful 70 ++
    [.act (.attach "a"), .act (.change (.setLogoutEnabled true)), .tick, .tick, .tick, .tick, .tick,
      .tick, .act (.change (.userSwitch 10))] ++ uneventful 10 ++
    [.act (.change .time)] ++ uneventful 60

/-- In the end the button is there. -/
theorem logout_shown_at_rest_while_hiding :
    let s := (System.start "en").run switchWhileHiding
    (System.start "en").throughout (fun s => s.heeds logoutRule) switchWhileHiding = true ∧
      s.isAtRest = true ∧ s.deferred = [] ∧
      ∃ v, s.view = .present v ∧ v.isLogoutVisible = true ∧ s.screen.logoutVisible = some true := by
  intro s
  have hheeds :
      (System.start "en").throughout (fun s => s.heeds logoutRule) switchWhileHiding = true := by
    decide +kernel
  have hrest : s.isAtRest = true := by decide +kernel
  have hdeferred : s.deferred = [] := by decide +kernel
  have hoffers : s.status.offersLogout = true := by decide +kernel
  have hview : ∃ v, s.view = .present v := ViewSlot.exists_present (by decide +kernel)
  obtain ⟨v, hview⟩ := hview
  refine ⟨hheeds, hrest, hdeferred, ?_⟩
  obtain ⟨hfield, hscreen⟩ := logout_shown_at_rest "en" hheeds hrest hdeferred v hview
  exact ⟨v, hview, hfield.trans hoffers, hscreen.trans (congrArg some hoffers)⟩

/-- Whether an input is no change, or finds the view attached if it has been made. -/
def System.findsAttached (s : System ℓ) : Input ℓ → Bool
  | .act (.change _) => s.view.view?.isNone || s.isAttached
  | .act _ | .tick | .done | .reply _ => true

/-- While a view that is being made hides the button for the system user, another user comes. The
view is attached as soon as it has been made. -/
def switchWhileMaking : List (Input Empty) :=
  [.act (.change (.setLogoutEnabled true)), .tick, .act .create] ++ uneventful 63 ++
    [.tick, .act (.change (.userSwitch 10))] ++ uneventful 10 ++ [.act (.attach "a")]

/-- A view cannot be attached before it has been made, so a change that is made after it has looked
at the device, but before it has been made, escapes it. -/
theorem not_logout_shown_of_attached :
    ¬ ∀ (locale : String) (inputs : List (Input Empty)),
      let s := (System.start locale).run inputs
      (System.start locale).throughout System.findsAttached inputs = true →
      s.isAtRest = true → s.deferred = [] → ∀ v, s.view = .present v →
        v.isLogoutVisible = s.status.offersLogout ∧
          s.screen.logoutVisible = some s.status.offersLogout := by
  intro h
  set s := (System.start "en").run switchWhileMaking
  have hview : ∃ v, s.view = .present v := ViewSlot.exists_present (by decide +kernel)
  obtain ⟨v, hview⟩ := hview
  obtain ⟨-, hscreen⟩ := h "en" switchWhileMaking (by decide +kernel) (by decide +kernel)
    (by decide +kernel) v hview
  exact absurd hscreen (by decide +kernel)

end DeviceStatus.Device
