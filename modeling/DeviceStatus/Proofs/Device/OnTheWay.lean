import DeviceStatus.Proofs.Device.Work

/-!
# Events on their way to the view

An event is on its way to the view from the moment when it begins to be told until the view begins
to handle it: first it is told to the callbacks before the view, then it may be put off, then it
waits for others. `System.owes` says whether an event of some kind is on its way. It stays so until
it is handled or the view is gone (`Step.owes`), and comes to be so only if the view is attached.
-/

namespace DeviceStatus.Device

open Callbacks (Registry Entry)
open Lockscreen

variable {ℓ : Type} {s s' : System ℓ} {begun : Option Operation} {kind : Event → Bool}

/-- Whether a callback is the status view. -/
def Subscriber.isView : Subscriber ℓ → Bool
  | statusView => true
  | listener _ => false

/-- Whether an event of a kind is on its way to the view. -/
def Frame.owes (kind : Event → Bool) : Frame ℓ → Bool
  | notify event rest => kind event && rest.any (·.callback.isView)
  | batch rest => rest.any (kind ·.event)
  | handle d => kind d.event
  | listening .. | replay | program _ | asked .. | free => false

namespace System

/-- Whether the view is registered with the monitor. -/
def isAttached (s : System ℓ) : Bool := s.monitor.entries.any (·.callback.isView)

/-- Whether an event of a kind is on its way to the view or has been put off. -/
def owes (s : System ℓ) (kind : Event → Bool) : Bool :=
  s.stack.any (Frame.owes kind) || s.deferred.any (kind ·.event)

end System

theorem owes_told {f : Frame ℓ} (hf : f.isTelling = true)
    (hrest : ∀ event rest, f = .notify event rest → rest = []) : f.owes kind = false := by
  cases f with
  | notify event rest => simp [Frame.owes, hrest event rest rfl]
  | listening => rfl
  | replay | batch | handle | program | asked | free => simp [Frame.isTelling] at hf

/-- What the monitor tells comes to be on its way to the view if the view is attached. -/
theorem owes_announce {event : Event} (hkind : kind event = true → event.source = .monitor) :
    (s.announce event).owes kind = (kind event && s.isAttached || s.owes kind) := by
  have hnotify : (Frame.notify event (s.registry event.source).entries).owes kind =
      (kind event && s.isAttached) := by
    cases hevent : kind event with
    | false => simp [Frame.owes, hevent]
    | true =>
      rw [Frame.owes, hkind hevent, hevent]
      rfl
  simp only [System.announce, System.note, System.push, System.owes, List.singleton_append,
    List.any_cons, Bool.or_assoc]
  rw [← hnotify]

/-! ## Before there is a view -/

section Unattached

variable (h : s.isAttached = false)

include h

theorem isAttached_unregister (source : Source) (id : Nat) :
    (s.unregister source id).isAttached = false := by
  cases source with
  | monitor =>
    unfold System.isAttached at h ⊢
    rw [List.any_eq_false] at h ⊢
    intro e he
    exact h e (List.mem_filter.1 he).1
  | configuration => exact h

theorem isAttached_register (source : Source) (l : ℓ) :
    (s.register source (.listener l)).isAttached = false := by
  cases source with
  | monitor =>
    simpa [System.isAttached, System.register, System.setRegistry, System.registry,
      Registry.register, Subscriber.isView] using h
  | configuration => exact h

theorem isAttached_endListener (l : Option (Source × Nat)) :
    (s.endListener l).isAttached = false := by
  cases l with
  | none => exact h
  | some l => exact isAttached_unregister h l.1 l.2

theorem isAttached_endAttachment (a : Option Attachment) :
    (s.endAttachment a).isAttached = false := by
  cases a with
  | none => exact h
  | some a => exact isAttached_unregister (isAttached_unregister h .monitor _) .configuration _

theorem isAttached_act (hview : s.view = .empty) {a : Action ℓ} (ha : a.isRegistration = true) :
    (s.act a).isAttached = false := by
  cases a with
  | listen name source l =>
    refine isAttached_endListener ?_ _
    exact isAttached_register h source l
  | unlisten name =>
    refine isAttached_endListener ?_ _
    exact h
  | attach name =>
    have hnone : s.freeView? = none := by
      unfold System.freeView?
      split
      · rfl
      · rw [hview]
        rfl
    have hact : s.act (.attach name) = s := by simp [System.act, hnone]
    rw [hact]
    exact h
  | detach name =>
    refine isAttached_endAttachment ?_ _
    exact h
  | change | create | perform | dropView => simp [Action.isRegistration] at ha

end Unattached

/-- Without a view, nothing comes to be on its way to it. -/
theorem Step.unattached (hstep : Step s begun s') (hview : s.view = .empty)
    (hkind : ∀ e, kind e = true → e.source = .monitor) (hattached : s.isAttached = false)
    (howes : s.owes kind = false) : s'.isAttached = false ∧ s'.owes kind = false := by
  unfold System.owes at howes ⊢
  cases hstep with
  | stay | letGo => exact ⟨hattached, howes⟩
  | @change c event =>
    have hannounce := owes_announce (s := { s with status := s.status.after c }) (hkind event)
    have hsame : ({ s with status := s.status.after c } : System ℓ).isAttached = false := hattached
    rw [hsame, Bool.and_false, Bool.false_or] at hannounce
    exact ⟨hattached, hannounce.trans howes⟩
  | register a ha =>
    have hsame := sameWork_register (s := s) ha
    refine ⟨isAttached_act hattached hview ha, ?_⟩
    rw [hsame.stack, hsame.deferred]
    exact howes
  | create =>
    refine ⟨hattached, ?_⟩
    simpa [System.begin, System.push, Frame.owes] using howes
  | perform o hpresent | dropView hpresent | handle hstack hpresent | leave hstack hpresent =>
    simp [hview] at hpresent
  | told hstack hf hrest =>
    refine ⟨hattached, ?_⟩
    simpa [hstack, owes_told hf hrest] using howes
  | @reach event id rest below hstack =>
    have hsame : (({ s with stack := .notify event rest :: below } : System ℓ).deliver event) =
        { s with stack := .notify event rest :: below } := by
      simp [System.deliver, hview]
    rw [hsame]
    refine ⟨hattached, ?_⟩
    simp_all [Frame.owes, Subscriber.isView]
  | hear hstack | replayed hstack | take hstack | batched hstack | next hstack | done hstack
  | fact hstack | log hstack | ask hr hstack | answer answer hstack | free hstack =>
    refine ⟨hattached, ?_⟩
    simp_all [Frame.owes, Subscriber.isView]

/-! ## On the way until they are handled -/

theorem owes_deliver {v : View} (hview : s.view = .present v) (event : Event) :
    (s.deliver event).owes kind = (kind event || s.owes kind) := by
  by_cases hbusy : s.isBusy = true
  · rw [deliver_of_isBusy hview hbusy]
    simp [System.owes, Bool.or_comm, Bool.or_left_comm]
  · rw [deliver_of_free hview (by simpa using hbusy)]
    simp [System.owes, System.begin, System.push, System.note, Frame.owes, Bool.or_assoc]

/-- An event stays on its way until the view begins to handle it or is gone. -/
theorem Step.owes (hstep : Step s begun s') (hkind : ∀ e, kind e = true → e.source = .monitor)
    (hempty : s.view = .empty → s.owes kind = false) (hgone : s.view = .gone → s.work = .idle .gone)
    (howes : s.owes kind = true) :
    s'.owes kind = true ∨ s'.work = .idle .gone ∨
      ∃ (d : Delivery) (v : View), kind d.event = true ∧
        s'.work = .running ((View.handle d.event).after v) := by
  cases hstep with
  | stay | dropView | letGo => exact .inl howes
  | change c =>
    left
    rw [owes_announce (hkind _), Bool.or_eq_true]
    exact .inr howes
  | register a ha =>
    have hsame := sameWork_register (s := s) ha
    left
    rw [System.owes, hsame.stack, hsame.deferred]
    exact howes
  | create | perform o =>
    left
    unfold System.owes at howes ⊢
    rw [Bool.or_eq_true] at howes ⊢
    refine howes.imp_left fun h => ?_
    simp [System.begin, System.push, h]
  | told hstack hf hrest =>
    left
    simpa [System.owes, hstack, owes_told hf hrest] using howes
  | @reach event id rest below hstack =>
    -- the event goes from the callbacks to those put off or those that wait
    have hview : s.view = .empty ∨ s.view = .gone ∨ ∃ v, s.view = .present v := by
      cases s.view <;> simp
    rcases hview with hview | hview | ⟨v, hview⟩
    · simp [hempty hview] at howes
    · right
      left
      rw [work_deliver]
      exact (work_cons hstack rfl).symm.trans (hgone hview)
    · left
      rw [owes_deliver (s := { s with stack := .notify event rest :: below }) hview]
      cases hevent : kind event with
      | true => rfl
      | false => simpa [System.owes, hstack, Frame.owes, hevent] using howes
  | @handle d v below hstack =>
    by_cases hd : kind d.event = true
    · exact .inr (.inr ⟨d, v, hd, work_of_frame rfl rfl⟩)
    · left
      simpa [System.owes, hstack, Frame.owes, hd] using howes
  | take hstack =>
    left
    simpa [System.owes, Frame.owes, or_comm] using howes
  | next hstack =>
    left
    simpa [System.owes, hstack, Frame.owes, or_assoc] using howes
  | hear hstack | replayed hstack | batched hstack | done hstack | fact hstack | log hstack
  | ask hr hstack | answer answer hstack | free hstack | leave hstack =>
    left
    simpa [System.owes, hstack, Frame.owes, Subscriber.isView] using howes

end DeviceStatus.Device
