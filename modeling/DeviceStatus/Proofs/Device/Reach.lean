import DeviceStatus.Proofs.Device.Draining
import DeviceStatus.Proofs.Device.Handles
import DeviceStatus.Proofs.Device.OnTheWay
import DeviceStatus.Proofs.Device.Pieces

/-!
# A view out of reach

The view is registered by its attachments only (`Owned`). When the last of them is gone and nothing
is being told, or when the view itself is gone, it is out of reach, and stays so until it is
attached again (`StaysOut`). Then the events of the device pass it by: they leave alone all that
there is of it (`OutOfReach.viewSide_eq`).
-/

namespace DeviceStatus.Device

open Callbacks (Entry)
open Lockscreen

variable {ℓ : Type} {s s' : System ℓ} {begun : Option Operation} {input : Input ℓ}

/-! ## Whose registrations there are -/

/-- Whether a handle keeps registrations of the view. -/
def Handle.isOfView : Handle → Bool
  | attachment _ => true
  | listener _ => false

/-- Every registration is kept by a handle: those of the view by attachments, those of listeners by
their names. -/
structure Owned (s : System ℓ) : Prop where
  kept : ∀ source, ∀ e ∈ (s.registry source).entries, ∃ h, (source, e.id) ∈ s.held h
  matching : ∀ source, ∀ e ∈ (s.registry source).entries, ∀ h, (source, e.id) ∈ s.held h →
    e.callback.isView = h.isOfView

theorem isView_of_assigns? {h : Handle} {new : List (Registrant ℓ)}
    (hinput : s.assigns? input = some (h, new)) {r : Registrant ℓ} (hr : r ∈ new) :
    r.entry.callback.isView = h.isOfView := by
  obtain ⟨a, rfl, -, hassigns⟩ := exists_act_of_assigns? hinput
  cases a with
  | listen name source l =>
    obtain ⟨rfl, rfl⟩ : .listener name = h ∧ [s.registrant source (.listener l)] = new := by
      simpa [System.actAssigns?] using hassigns
    rw [List.mem_singleton.1 hr]
    rfl
  | attach name =>
    obtain ⟨v, -, hassigned⟩ := Option.map_eq_some_iff.1 hassigns
    obtain ⟨rfl, rfl⟩ := Prod.mk.inj hassigned
    obtain rfl | rfl : r = s.registrant .monitor .statusView ∨
      r = s.registrant .configuration .statusView := by simpa using hr
    · rfl
    · rfl
  | unlisten name | detach name =>
    obtain ⟨-, rfl⟩ := Prod.mk.inj (Option.some.inj hassigns)
    simp at hr
  | change | create | perform | dropView => simp [System.actAssigns?] at hassigns

theorem isOfView_of_assigns? {h : Handle} {new : List (Registrant ℓ)}
    (hinput : s.assigns? input = some (h, new)) (hnew : new ≠ [])
    (hattach : ∀ name, input ≠ .act (.attach name)) : h.isOfView = false := by
  obtain ⟨a, rfl, -, hassigns⟩ := exists_act_of_assigns? hinput
  cases a with
  | attach name => exact absurd rfl (hattach name)
  | listen name source l =>
    obtain ⟨rfl, -⟩ := Prod.mk.inj (Option.some.inj hassigns)
    rfl
  | unlisten name | detach name =>
    obtain ⟨-, rfl⟩ := Prod.mk.inj (Option.some.inj hassigns)
    exact absurd rfl hnew
  | change | create | perform | dropView => simp [System.actAssigns?] at hassigns

theorem owned_start (locale : String) : Owned (System.start (ℓ := ℓ) locale) where
  kept := by
    intro source e he
    cases source <;> simp [System.start, System.registry] at he
  matching := by
    intro source e he
    cases source <;> simp [System.start, System.registry] at he

theorem Owned.feed (h : Owned s) (hkept : Kept s) (input : Input ℓ) : Owned (s.feed input) := by
  cases hinput : s.assigns? input with
  | none =>
    have hsame := sameRegistrations_feed hinput
    constructor
    · intro source e he
      rw [hsame.registry] at he
      obtain ⟨handle, hheld⟩ := h.kept source e he
      exact ⟨handle, (hsame.held handle).symm ▸ hheld⟩
    · intro source e he handle hheld
      rw [hsame.registry] at he
      rw [hsame.held] at hheld
      exact h.matching source e he handle hheld
  | some assigned =>
    obtain ⟨handle, new⟩ := assigned
    have hassigned := assigned_feed hinput
    constructor
    · intro source e he
      obtain ⟨hbefore | hnew, hleft⟩ := hassigned.mem_entries_iff.1 he
      · obtain ⟨other, hheld⟩ := h.kept source e hbefore
        have hne : other ≠ handle := by
          rintro rfl
          exact hleft hheld
        refine ⟨other, ?_⟩
        rw [hassigned.held, if_neg hne]
        exact hheld
      · refine ⟨handle, ?_⟩
        rw [hassigned.held, if_pos rfl]
        exact List.mem_map.2 ⟨_, hnew, rfl⟩
    · intro source e he other hheld
      obtain ⟨hbefore | hnew, -⟩ := hassigned.mem_entries_iff.1 he
      · have hlt := (hkept.numbered.registry source).below e hbefore
        rw [hassigned.held] at hheld
        split at hheld
        · -- what is registered now has another number
          obtain ⟨r, hr, heq⟩ := List.mem_map.1 hheld
          obtain ⟨hsource, hid⟩ := Prod.mk.inj heq
          have hfresh := hassigned.fresh r hr
          rw [hsource] at hfresh
          omega
        · exact h.matching source e hbefore other hheld
      · have hfresh : e.id = (s.registry source).nextId := hassigned.fresh _ hnew
        rw [hassigned.held] at hheld
        split at hheld
        · next hother =>
          rw [hother]
          exact isView_of_assigns? hinput hnew
        · have hlt : e.id < (s.registry source).nextId := hkept.held other _ hheld
          omega

theorem owned_run (locale : String) (inputs : List (Input ℓ)) :
    Owned ((System.start locale).run inputs) := by
  have hboth : Kept ((System.start locale).run inputs) ∧
      Owned ((System.start (ℓ := ℓ) locale).run inputs) := by
    refine (shaped_start locale).run_induction (P := fun s => Kept s ∧ Owned s) ?_
      ⟨kept_start locale, owned_start locale⟩ inputs
    exact fun s hshaped h input => ⟨h.1.feed hshaped input, h.2.feed h.1 input⟩
  exact hboth.2

/-- Without attachments the view is not registered. -/
theorem Owned.isView_eq_false (h : Owned s) (hattachments : s.attachments = []) {source : Source}
    {e : Entry (Subscriber ℓ)} (he : e ∈ (s.registry source).entries) :
    e.callback.isView = false := by
  obtain ⟨handle, hheld⟩ := h.kept source e he
  have hmatching := h.matching source e he handle hheld
  cases handle with
  | listener name => exact hmatching
  | attachment name => simp [System.held, hattachments] at hheld

/-! ## Out of reach -/

/-- Whether the view is still to be told an event. -/
def Frame.isForView : Frame ℓ → Bool
  | notify _ rest => rest.any (·.callback.isView)
  | listening .. | replay | batch _ | handle _ | program _ | asked .. | free => false

/-- The view is not registered, and not to be told anything. -/
structure Detached (s : System ℓ) : Prop where
  registered : ∀ source, ∀ e ∈ (s.registry source).entries, e.callback.isView = false
  told : ∀ f ∈ s.stack, f.isForView = false

/-- The view has been let go. -/
structure Gone (s : System ℓ) : Prop where
  view : s.view = .gone
  free : s.isBusy = false

/-- No event reaches the view. -/
def OutOfReach (s : System ℓ) : Prop := Detached s ∨ Gone s

theorem isForView_of_isTelling {f : Frame ℓ} (hf : f.isTelling = false) : f.isForView = false := by
  cases f <;> simp_all [Frame.isTelling, Frame.isForView]

/-- Without attachments, and with nothing being told, the view is out of reach. -/
theorem Owned.detached (h : Owned s) (hattachments : s.attachments = [])
    (hquiet : s.isTelling = false) : Detached s where
  registered := fun _ _ he => h.isView_eq_false hattachments he
  told := by
    intro f hf
    have htelling : f.isTelling = false := by simpa using List.any_eq_false.1 hquiet f hf
    exact isForView_of_isTelling htelling

theorem deliver_of_gone (hview : s.view = .gone) (event : Event) : s.deliver event = s := by
  simp [System.deliver, hview]

theorem free_of_gone (locale : String) (inputs : List (Input ℓ)) :
    let s := (System.start (ℓ := ℓ) locale).run inputs
    s.view = .gone → s.isBusy = false := by
  refine (shaped_start locale).run_induction (P := fun s => s.view = .gone → s.isBusy = false)
    ?_ ?_ inputs
  · intro s hshaped h input hgone
    have hstep := hshaped.step_feed input
    generalize s.feed input = s' at hstep hgone ⊢
    generalize s.begun? input = begun at hstep
    cases hstep with
    | register a ha =>
      have hsame := sameWork_register (s := s) ha
      rw [hsame.view] at hgone
      rw [hsame.isBusy]
      exact h hgone
    | create _ hview => simp [System.begin, System.push, hview] at hgone
    | perform o hview => simp [System.begin, System.push, hview] at hgone
    | dropView hview hfree => exact hfree
    | letGo hview => exact absurd (hgone.symm.trans hview) (by simp)
    | reach hstack =>
      rw [view_deliver] at hgone
      rw [deliver_of_gone hgone]
      exact h hgone
    | done => simp at hgone
    | free | leave => rfl
    | stay | change | told | hear | replayed | take | batched | next | handle | fact | log | ask
    | answer => exact h hgone
  · simp [System.start]

/-- A view that is gone is not at work: it has ended what it was doing when it was let go. -/
theorem gone_of_view {locale : String} {inputs : List (Input ℓ)}
    (hview : ((System.start (ℓ := ℓ) locale).run inputs).view = .gone) :
    Gone ((System.start (ℓ := ℓ) locale).run inputs) :=
  ⟨hview, free_of_gone locale inputs hview⟩

theorem Gone.feed (h : Gone s) (hshaped : Shaped s) (input : Input ℓ) : Gone (s.feed input) := by
  have hstep := hshaped.step_feed input
  generalize s.feed input = s' at hstep ⊢
  generalize s.begun? input = begun at hstep
  cases hstep with
  | register a ha =>
    have hsame := sameWork_register (s := s) ha
    exact ⟨hsame.view.trans h.view, hsame.isBusy.trans h.free⟩
  | create _ hview | perform o hview | dropView hview | letGo hview | leave _ hview =>
    exact absurd (h.view.symm.trans hview) (by simp)
  | @reach event _ rest below =>
    rw [deliver_of_gone (s := { s with stack := .notify event rest :: below }) h.view]
    exact ⟨h.view, h.free⟩
  | done hstack => exact absurd (h.free.symm.trans (hshaped.isBusy hstack rfl)) (by simp)
  | free => exact ⟨h.view, rfl⟩
  | stay | change | told | hear | replayed | take | batched | next | handle | fact | log | ask
  | answer => exact ⟨h.view, h.free⟩

/-- What is on the stack of a detached view stays without a use for it. -/
theorem Detached.step (h : Detached s) (hstep : Step s begun s') :
    ∀ f ∈ s'.stack, f.isForView = false := by
  have hbelow : ∀ {f : Frame ℓ} {below : List (Frame ℓ)}, s.stack = f :: below →
      ∀ g ∈ below, g.isForView = false := by
    intro f below hstack g hg
    exact h.told g (hstack ▸ List.mem_cons_of_mem f hg)
  cases hstep with
  | stay | dropView | letGo => exact h.told
  | register a ha =>
    rw [(sameWork_register ha).stack]
    exact h.told
  | @change c event =>
    have hentries : (Frame.notify event (s.registry event.source).entries).isForView = false :=
      List.any_eq_false.2 fun e he => by simp [h.registered event.source e he]
    exact List.forall_mem_cons.2 ⟨hentries, h.told⟩
  | create => exact List.forall_mem_cons.2 ⟨rfl, List.forall_mem_cons.2 ⟨rfl, h.told⟩⟩
  | perform o =>
    refine List.forall_mem_cons.2 ⟨rfl, ?_⟩
    cases o.replays with
    | false => exact List.forall_mem_cons.2 ⟨rfl, h.told⟩
    | true => exact List.forall_mem_cons.2 ⟨rfl, List.forall_mem_cons.2 ⟨rfl, h.told⟩⟩
  | @hear event id l rest below hstack =>
    have hcalled := h.told _ (hstack ▸ List.mem_cons_self)
    have hrest : (Frame.notify event rest).isForView = false := by
      simpa [Frame.isForView, Subscriber.isView] using hcalled
    exact List.forall_mem_cons.2 ⟨rfl, List.forall_mem_cons.2 ⟨hrest, hbelow hstack⟩⟩
  | reach hstack =>
    have hcalled := h.told _ (hstack ▸ List.mem_cons_self)
    simp [Frame.isForView, Subscriber.isView] at hcalled
  | take => exact List.forall_mem_cons.2 ⟨rfl, h.told⟩
  | next hstack =>
    exact List.forall_mem_cons.2 ⟨rfl, List.forall_mem_cons.2 ⟨rfl, hbelow hstack⟩⟩
  | handle hstack | fact hstack | log hstack | ask _ hstack | answer _ hstack =>
    exact List.forall_mem_cons.2 ⟨rfl, hbelow hstack⟩
  | told hstack | replayed hstack | batched hstack | done hstack | free hstack | leave hstack =>
    exact hbelow hstack

theorem Detached.feed (h : Detached s) (hshaped : Shaped s)
    (hinput : ∀ name, input ≠ .act (.attach name)) : Detached (s.feed input) where
  registered := by
    intro source e he
    cases hassigns : s.assigns? input with
    | none =>
      rw [(sameRegistrations_feed hassigns).registry] at he
      exact h.registered source e he
    | some assigned =>
      obtain ⟨handle, new⟩ := assigned
      obtain ⟨hbefore | hnew, -⟩ := (assigned_feed hassigns).mem_entries_iff.1 he
      · exact h.registered source e hbefore
      · have hkind := isView_of_assigns? hassigns hnew
        exact hkind.trans (isOfView_of_assigns? hassigns (List.ne_nil_of_mem hnew) hinput)
  told := h.step (hshaped.step_feed input)

/-- The view is out of reach and stays so: it is gone, or is not attached again. -/
def StaysOut (s : System ℓ) (inputs : List (Input ℓ)) : Prop :=
  Gone s ∨ Detached s ∧ ∀ name, .act (.attach name) ∉ inputs

namespace StaysOut

variable {inputs : List (Input ℓ)}

theorem outOfReach (h : StaysOut s inputs) : OutOfReach s := by
  obtain hgone | ⟨hdetached, -⟩ := h
  · exact .inr hgone
  · exact .inl hdetached

theorem tail (h : StaysOut s (input :: inputs)) (hshaped : Shaped s) :
    StaysOut (s.feed input) inputs := by
  obtain hgone | ⟨hdetached, hinputs⟩ := h
  · exact .inl (hgone.feed hshaped input)
  · have hnow : ∀ name, input ≠ .act (.attach name) := by
      rintro name rfl
      exact hinputs name List.mem_cons_self
    exact .inr ⟨hdetached.feed hshaped hnow, fun name h => hinputs name (.tail input h)⟩

theorem rest {earlier : List (Input ℓ)} (h : StaysOut s (earlier ++ inputs)) (hshaped : Shaped s) :
    StaysOut (s.run earlier) inputs := by
  induction earlier generalizing s with
  | nil => exact h
  | cons input earlier ih => exact ih (h.tail hshaped) (hshaped.feed input).1

end StaysOut

/-! ## What there is of the view -/

/-- Whether an occurrence has to do with the view. -/
def Occurrence.isAboutView : Occurrence ℓ → Bool
  | arrived _ | handled _ | requested _ => true
  | announced _ | heard .. => false

/-- All that there is of the view. -/
structure ViewSide (ℓ : Type) where
  /-- The view and its fields. -/
  view : ViewSlot
  /-- Whether it is at work. -/
  isBusy : Bool
  /-- Whether it has been let go meanwhile. -/
  isLetGo : Bool
  /-- The events put off. -/
  deferred : List Delivery
  /-- The number of the next arrival. -/
  nextTicket : Nat
  /-- What it is to do. -/
  work : List (Frame ℓ)
  /-- What it has been told and has done, latest first. -/
  past : List (Occurrence ℓ)

namespace System

/-- All that there is of the view. -/
def viewSide (s : System ℓ) : ViewSide ℓ where
  view := s.view
  isBusy := s.isBusy
  isLetGo := s.isLetGo
  deferred := s.deferred
  nextTicket := s.nextTicket
  work := s.stack.filter (!·.isTelling)
  past := s.journal.filter Occurrence.isAboutView

/-- Whether an input is part of an event: it changes the device, or the telling of an event goes
on. -/
def isOfEvent (s : System ℓ) : Input ℓ → Bool
  | .act (.change _) | .done => true
  | .tick => s.stack.head?.any Frame.isTelling
  | .act _ | .reply _ => false

end System

/-- Whether the owner of the view does something with it. -/
def Action.usesView : Action ℓ → Bool
  | create _ | perform _ | dropView => true
  | change _ | listen .. | unlisten _ | attach _ | detach _ => false

theorem viewSide_pop {f : Frame ℓ} {below : List (Frame ℓ)} (hstack : s.stack = f :: below)
    (hf : f.isTelling = true) : ({ s with stack := below } : System ℓ).viewSide = s.viewSide := by
  simp [System.viewSide, hstack, hf]

theorem viewSide_push {f : Frame ℓ} (hf : f.isTelling = true) :
    (s.push [f]).viewSide = s.viewSide := by
  simp [System.viewSide, System.push, hf]

theorem viewSide_note {o : Occurrence ℓ} (ho : o.isAboutView = false) :
    (s.note o).viewSide = s.viewSide := by
  simp [System.viewSide, System.note, ho]

theorem SameWork.viewSide (h : SameWork s s') : s'.viewSide = s.viewSide := by
  simp only [System.viewSide, h.view, h.isBusy, h.isLetGo, h.deferred, h.nextTicket, h.stack,
    h.journal]

theorem OutOfReach.viewSide_tell (h : OutOfReach s) {event : Event} {entry : Entry (Subscriber ℓ)}
    {rest : List (Entry (Subscriber ℓ))} {below : List (Frame ℓ)}
    (hstack : s.stack = .notify event (entry :: rest) :: below) :
    s.tick.viewSide = s.viewSide := by
  let t : System ℓ := { s with stack := .notify event rest :: below }
  have htick : s.tick = t.tell event entry := by simp [System.tick, hstack, t]
  have hpopped : t.viewSide = s.viewSide := by
    simp [System.viewSide, hstack, t, Frame.isTelling]
  rw [htick]
  unfold System.tell
  split
  · next hcallback =>
    obtain hdetached | hgone := h
    · have hcalled := hdetached.told _ (hstack ▸ List.mem_cons_self)
      simp [Frame.isForView, hcallback, Subscriber.isView] at hcalled
    · rw [deliver_of_gone (s := t) hgone.view]
      exact hpopped
  · rw [viewSide_push rfl, viewSide_note rfl]
    exact hpopped

/-- Events pass by a view out of reach. -/
theorem OutOfReach.viewSide_eq (h : OutOfReach s) (hinput : s.isOfEvent input = true) :
    (s.feed input).viewSide = s.viewSide := by
  cases input with
  | reply => simp [System.isOfEvent] at hinput
  | act a =>
    cases a with
    | change c =>
      simp only [System.feed]
      split
      · simp only [System.act]
        split
        · rw [System.announce, viewSide_push rfl, viewSide_note rfl]
          rfl
        · rfl
      · rfl
    | listen | unlisten | create | attach | detach | perform | dropView =>
      simp [System.isOfEvent] at hinput
  | done =>
    simp only [System.feed, System.returned]
    split
    · next hstack => exact viewSide_pop hstack rfl
    · rfl
  | tick =>
    show s.tick.viewSide = s.viewSide
    cases hstack : s.stack with
    | nil =>
      have htick : s.tick = s := by simp [System.tick, hstack]
      rw [htick]
    | cons f below =>
      have hf : f.isTelling = true := by simpa [System.isOfEvent, hstack] using hinput
      cases f with
      | notify event rest =>
        cases rest with
        | nil =>
          have htick : s.tick = { s with stack := below } := by simp [System.tick, hstack]
          rw [htick]
          exact viewSide_pop hstack rfl
        | cons entry rest => exact h.viewSide_tell hstack
      | listening =>
        have htick : s.tick = s := by simp [System.tick, hstack]
        rw [htick]
      | replay | batch | handle | program | asked | free => simp [Frame.isTelling] at hf

/-- A free view out of reach does nothing by itself. -/
theorem OutOfReach.quiet_feed (h : OutOfReach s) (hshaped : Shaped s) (hfree : s.isBusy = false)
    (hinput : s.view = .gone ∨ ∀ a, input = .act a → a.usesView = false) :
    (s.feed input).viewSide = s.viewSide ∧ s.doing? input = none := by
  have hidle := hshaped.idle hfree
  cases input with
  | done => exact ⟨h.viewSide_eq rfl, rfl⟩
  | tick =>
    cases hstack : s.stack with
    | nil =>
      have hfeed : s.feed .tick = s := by simp [System.feed, System.tick, hstack]
      rw [hfeed]
      exact ⟨rfl, by simp [System.doing?, hstack]⟩
    | cons f below =>
      have hf : f.isTelling = true := hidle f (hstack ▸ List.mem_cons_self)
      refine ⟨h.viewSide_eq (by simp [System.isOfEvent, hstack, hf]), ?_⟩
      cases f <;> simp_all [Frame.isTelling, System.doing?]
  | reply answers =>
    have hasked : ∀ r next below, s.stack ≠ .asked r next :: below := by
      intro r next below hstack
      have hf := hidle _ (hstack ▸ List.mem_cons_self)
      simp [Frame.isTelling] at hf
    have hreplied : s.replied answers = s := by
      unfold System.replied
      split
      · next hstack => exact absurd hstack (hasked _ _ _)
      · rfl
    have hdoing : s.doing? (.reply answers) = none := by
      simp only [System.doing?]
    refine ⟨?_, hdoing⟩
    show (s.replied answers).viewSide = s.viewSide
    rw [hreplied]
  | act a =>
    cases a with
    | change c => exact ⟨h.viewSide_eq rfl, rfl⟩
    | listen | unlisten | attach | detach =>
      refine ⟨?_, rfl⟩
      simp only [System.feed]
      split
      · exact (sameWork_register rfl).viewSide
      · rfl
    | create | perform | dropView =>
      obtain hgone | hinput := hinput
      · have hnone : s.freeView? = none := by simp [System.freeView?, hgone, ViewSlot.view?]
        constructor
        · simp [System.feed, System.act, hnone, hgone]
        · simp [System.doing?, hnone, hgone]
      · exact absurd (hinput _ rfl) (by simp [Action.usesView])

/-- No number is given to an arrival. -/
theorem OutOfReach.nextTicket_eq (h : OutOfReach s) (hstep : Step s begun s') :
    s'.nextTicket = s.nextTicket := by
  cases hstep with
  | register a ha => exact (sameWork_register ha).nextTicket
  | @reach event id rest below hstack =>
    obtain hdetached | hgone := h
    · have hcalled := hdetached.told _ (hstack ▸ List.mem_cons_self)
      simp [Frame.isForView, Subscriber.isView] at hcalled
    · rw [deliver_of_gone (s := { s with stack := .notify event rest :: below }) hgone.view]
  | stay | change | create | perform | dropView | letGo | told | hear | replayed | take | batched
  | next | handle | done | fact | log | ask | answer | free | leave => rfl

end DeviceStatus.Device
