import DeviceStatus.Proofs.Device.Audience

/-!
# A view that is left alone

Once all attachments of the view are released, or the view itself is, no event reaches it: none is
handed to it or put off for it, and no part of an event touches it. Those who are registered beside
it hear all events as before.
-/

namespace DeviceStatus.Device

open Lockscreen

variable {ℓ : Type} {s : System ℓ}

/-! ## The mailbox of a view out of reach -/

theorem Mailbox.Step.arrived_eq {m m' : Mailbox} (h : Mailbox.Step m m')
    (hticket : m'.nextTicket = m.nextTicket) :
    m'.arrived = m.arrived ∧ m'.deferred <:+ m.deferred := by
  cases h with
  | stay => exact ⟨rfl, List.suffix_refl _⟩
  | receive event | putOff event => simp [Mailbox.arrive] at hticket
  | take => exact ⟨rfl, List.nil_suffix⟩
  | handleNext | handleWaiting => exact ⟨Mailbox.arrived_handle _ _, List.suffix_refl _⟩
  | begin | replayed | finish => exact ⟨rfl, List.suffix_refl _⟩

/-- While nothing arrives, what is handled comes from what was left before. -/
theorem Mailbox.Sound.handled_later {m m' : Mailbox} (h : m.Sound) (h' : m'.Sound)
    (harrived : m'.arrived = m.arrived) {new : List Note}
    (hhistory : m'.history = m.history ++ new) :
    ∃ handled, m'.handled = m.handled ++ handled ∧
      (handled ++ m'.queue ++ m'.waiting).Perm (m.queue ++ m.waiting) := by
  have hhandled : m'.handled = m.handled ++ new.filterMap Note.handled? := by
    simp [Mailbox.handled, hhistory]
  refine ⟨_, hhandled, ?_⟩
  have hplaces := h'.places
  rw [harrived, hhandled] at hplaces
  have hall := hplaces.trans h.places.symm
  simp only [List.append_assoc] at hall ⊢
  exact (List.perm_append_left_iff _).1 hall

/-- During a run, no event has anything to do with the view. -/
structure LeftAlone (s : System ℓ) (later : List (Input ℓ)) : Prop where
  /-- None reaches it. -/
  arrived : (s.run later).mailbox.arrived = s.mailbox.arrived
  /-- None is put off: of those put off before, all are left or none is. -/
  deferred : (s.run later).deferred <:+ s.deferred
  /-- Those that it handles have reached it before. -/
  handled : ∃ handled, (s.run later).mailbox.handled = s.mailbox.handled ++ handled ∧
    (handled ++ (s.run later).mailbox.queue ++ (s.run later).mailbox.waiting).Perm
      (s.mailbox.queue ++ s.mailbox.waiting)
  /-- Whatever is going on, no part of an event changes anything about the view, or makes it do
  something. -/
  untouched : ∀ earlier input rest, later = earlier ++ input :: rest →
    (s.run earlier).isOfEvent input = true →
      ((s.run earlier).feed input).viewSide = (s.run earlier).viewSide
  /-- If it is gone, or if it is free and its owner does nothing with it, it does nothing at all. -/
  quiet : (s.view = .gone ∨ s.isBusy = false ∧ ∀ a, .act a ∈ later → a.usesView = false) →
    (s.run later).viewSide = s.viewSide ∧ s.doings later = []

namespace StaysOut

variable {later : List (Input ℓ)}

theorem mailbox_run (h : StaysOut s later) (hshaped : Shaped s) :
    (s.run later).mailbox.arrived = s.mailbox.arrived ∧ (s.run later).deferred <:+ s.deferred ∧
      ∃ new, (s.run later).mailbox.history = s.mailbox.history ++ new := by
  induction later generalizing s with
  | nil => exact ⟨rfl, List.suffix_refl _, [], (List.append_nil _).symm⟩
  | cons input later ih =>
    obtain ⟨hshaped', hstep⟩ := hshaped.feed input
    have hticket := h.outOfReach.nextTicket_eq (hshaped.step_feed input)
    obtain ⟨harrived, hdeferred⟩ := hstep.arrived_eq hticket
    obtain ⟨new, hnew⟩ := hstep.history
    obtain ⟨harrived', hdeferred', new', hnew'⟩ := ih (h.tail hshaped) hshaped'
    refine ⟨harrived'.trans harrived, hdeferred'.trans hdeferred, new ++ new', ?_⟩
    rw [← List.append_assoc, ← hnew]
    exact hnew'

theorem quiet_run (h : StaysOut s later) (hshaped : Shaped s) (hfree : s.isBusy = false)
    (hlater : s.view = .gone ∨ ∀ a, .act a ∈ later → a.usesView = false) :
    (s.run later).viewSide = s.viewSide ∧ s.doings later = [] := by
  induction later generalizing s with
  | nil => exact ⟨rfl, rfl⟩
  | cons input later ih =>
    have hnow : s.view = .gone ∨ ∀ a, input = .act a → a.usesView = false := by
      refine hlater.imp_right fun hlater a ha => hlater a ?_
      rw [← ha]
      exact List.mem_cons_self
    obtain ⟨hsame, hdoing⟩ := h.outOfReach.quiet_feed hshaped hfree hnow
    have hview : (s.feed input).view = s.view := congrArg ViewSide.view hsame
    have hfree' : (s.feed input).isBusy = false :=
      (congrArg ViewSide.isBusy hsame).trans hfree
    obtain ⟨hsame', hdoings⟩ := ih (h.tail hshaped) (hshaped.feed input).1 hfree'
      (hlater.imp (hview.trans ·) fun hlater a ha => hlater a (List.mem_cons_of_mem input ha))
    refine ⟨hsame'.trans hsame, ?_⟩
    rw [System.doings, hdoing, hdoings]
    rfl

end StaysOut

theorem leftAlone_run (locale : String) (inputs : List (Input ℓ)) {later : List (Input ℓ)}
    (h : StaysOut ((System.start locale).run inputs) later) :
    LeftAlone ((System.start locale).run inputs) later := by
  obtain ⟨hshaped, hsound⟩ := shaped_run locale inputs
  obtain ⟨harrived, hdeferred, new, hnew⟩ := h.mailbox_run hshaped
  have hsound' : (((System.start locale).run inputs).run later).mailbox.Sound := by
    rw [← System.run_append]
    exact (shaped_run locale (inputs ++ later)).2
  constructor
  · exact harrived
  · exact hdeferred
  · exact hsound.handled_later hsound' harrived hnew
  · rintro earlier input rest rfl hinput
    exact (h.rest hshaped).outOfReach.viewSide_eq hinput
  · rintro (hgone | ⟨hfree, hlater⟩)
    · exact h.quiet_run hshaped (free_of_gone locale inputs hgone) (.inl hgone)
    · exact h.quiet_run hshaped hfree (.inr hlater)

/-- Let the view have no attachment at a moment when nothing is being told, and not be attached
again; or let it be gone. Then whatever happens later, no event has anything to do with it. And
during any time that reaches into this one, whoever else is registered hears all events, in the
order in which they are announced, and each is heard in the order of the registrations. -/
theorem out_of_reach_for_good (locale : String) (inputs later : List (Input ℓ)) :
    let start := System.start (ℓ := ℓ) locale
    let s := start.run inputs
    (s.attachments = [] ∧ s.isTelling = false ∧ ∀ name, .act (.attach name) ∉ later) ∨
        s.view = .gone →
      LeftAlone s later ∧
        ∀ before during, inputs = before ++ during →
          Served (start.run before) (during ++ later) := by
  intro start s h
  have hout : StaysOut s later := by
    obtain ⟨hattachments, hquiet, hlater⟩ | hgone := h
    · exact .inr ⟨(owned_run locale inputs).detached hattachments hquiet, hlater⟩
    · exact .inl (gone_of_view hgone)
  refine ⟨leftAlone_run locale inputs hout, ?_⟩
  intro before during _
  exact served_run locale before (during ++ later)

/-! ## Two listeners beside the view -/

/-- The view is attached twice, between two listeners. -/
def besideTheView : List (Input String) :=
  .act .create :: Surroundings.uneventful { bestPattern := fun _ skeleton => skeleton } 70 ++
    [.act (.listen "first" .monitor "first"), .act (.attach "a"), .act (.attach "b"),
      .act (.listen "last" .monitor "last")]

/-- Both attachments are taken out. -/
def released : List (Input String) := [.act (.detach "a"), .act (.detach "b")]

/-- The time changes, and then the density. -/
def timeAndDensity : List (Input String) :=
  [.act (.change .time), .tick, .done, .tick, .done, .tick, .done, .tick, .done, .tick,
    .act (.change .density), .tick, .tick, .tick]

/-- Of the time only the two listeners hear, in their order, whether the attachments are taken out
or the view is let go. -/
theorem out_of_reach_for_good_released :
    let start := System.start "en"
    let heard := [(0, "first", Event.time), (3, "last", Event.time)]
    let detached := start.run (besideTheView ++ released)
    let dropped := start.run (besideTheView ++ [.act .dropView])
    ((detached.run timeAndDensity).viewSide = detached.viewSide ∧
        detached.doings timeAndDensity = [] ∧
        (detached.run timeAndDensity).hearings = heard) ∧
      (dropped.run timeAndDensity).viewSide = dropped.viewSide ∧
        dropped.doings timeAndDensity = [] ∧ (dropped.run timeAndDensity).hearings = heard := by
  intro start heard detached dropped
  obtain ⟨halone, hserved⟩ := out_of_reach_for_good "en" (besideTheView ++ released)
    timeAndDensity (.inl ⟨by decide +kernel, by decide +kernel, by simp [timeAndDensity]⟩)
  obtain ⟨halone', hserved'⟩ := out_of_reach_for_good "en" (besideTheView ++ [.act .dropView])
    timeAndDensity (.inr (by decide +kernel))
  have hnobody : ∀ a, .act a ∈ timeAndDensity → a.usesView = false := by
    intro a ha
    obtain rfl | rfl : a = .change .time ∨ a = .change .density := by
      simpa [timeAndDensity] using ha
    · rfl
    · rfl
  obtain ⟨hside, hdoings⟩ := halone.quiet (.inr ⟨by decide +kernel, hnobody⟩)
  obtain ⟨hside', hdoings'⟩ := halone'.quiet (.inl (by decide +kernel))
  refine ⟨⟨hside, hdoings, ?_⟩, hside', hdoings', ?_⟩
  · have hall := (hserved besideTheView released rfl).hearings_eq (by decide +kernel)
      (by decide +kernel) (by decide +kernel)
    rw [← System.run_append, ← List.append_assoc, System.run_append] at hall
    refine hall.trans ?_
    decide +kernel
  · have hall := (hserved' besideTheView [.act .dropView] rfl).hearings_eq (by decide +kernel)
      (by decide +kernel) (by decide +kernel)
    rw [← System.run_append, ← List.append_assoc, System.run_append] at hall
    refine hall.trans ?_
    decide +kernel

end DeviceStatus.Device
