import DeviceStatus.Proofs.Device.Stack

/-!
# What an input does to the mailbox

From the shape of its stack it follows that a system keeps its shape under every input, and that the
input makes a step of the mailbox (`Shaped.feed`). So in every system that is reached the mailbox is
sound (`shaped_run`).

The requests of the view are where anything may happen. What its programs do between them is of no
importance here: a program that goes on leaves everything below it on the stack as it is.
-/

namespace DeviceStatus.Device

open Lockscreen

variable {ℓ : Type} {s : System ℓ}

/-- A system of a shape comes to another, and its mailbox makes a step. -/
def Moves (s s' : System ℓ) : Prop := Shaped s' ∧ Mailbox.Step s.mailbox s'.mailbox

/-! ## Telling events -/

/-- The view is free or waits for an answer. -/
def Open (s : System ℓ) : Prop := s.isBusy = true → Interrupted s.stack

theorem Shaped.open_of_isTurn (h : Shaped s) (hturn : s.isTurn = true) : Open s := by
  intro hbusy
  have hshape := h.busy hbusy
  unfold System.isTurn at hturn
  generalize s.stack = stack at hshape hturn
  cases hshape with
  | resting h => cases h <;> simp [Frame.isTurn] at hturn
  | interrupted h => exact h
  | program | next | last => simp [Frame.isTurn] at hturn

/-- An event has been told. -/
theorem Shaped.told {f : Frame ℓ} {below : List (Frame ℓ)} (h : Shaped s)
    (hstack : s.stack = f :: below) (hf : f.isTelling = true) :
    Shaped { s with stack := below } ∧ Open { s with stack := below } := by
  have hopen : s.isBusy = true → Interrupted below := fun hbusy =>
    (hstack ▸ h.busy hbusy).interrupted_of_isTelling hf
  refine ⟨⟨?_, ?_, h.putOff, ?_⟩, hopen⟩
  · intro hfree g hg
    exact h.idle hfree g (hstack ▸ List.mem_cons_of_mem f hg)
  · intro hbusy
    exact .interrupted (hopen hbusy)
  · intro g hg
    exact h.view g (hstack ▸ List.mem_cons_of_mem f hg)

/-- An event is told. -/
theorem Shaped.telling (h : Shaped s) (hopen : Open s) {f : Frame ℓ} (hf : f.isTelling = true) :
    Shaped (s.push [f]) ∧ Open (s.push [f]) := by
  have hinterrupted : Open (s.push [f]) := fun hbusy => .telling hf (hopen hbusy)
  refine ⟨⟨?_, ?_, h.putOff, ?_⟩, hinterrupted⟩
  · intro hfree
    exact List.forall_mem_cons.2 ⟨hf, h.idle hfree⟩
  · intro hbusy
    exact .interrupted (hinterrupted hbusy)
  · refine List.forall_mem_cons.2 ⟨?_, h.view⟩
    intro hview
    rw [needsView_of_isTelling hf] at hview
    exact absurd hview (by simp)

/-- What is noted does not matter to the events that reach the view. -/
theorem Shaped.note (h : Shaped s) (o : Occurrence ℓ) : Shaped (s.note o) :=
  ⟨h.idle, h.busy, h.putOff, h.view⟩

theorem mailbox_note {o : Occurrence ℓ} (ho : o.note? = none) : (s.note o).mailbox = s.mailbox := by
  simp [System.mailbox, System.note, ho]

/-- The view begins to work. -/
theorem Shaped.begin (h : Shaped s) (hfree : s.isBusy = false) {frames : List (Frame ℓ)}
    (hbusy : ∀ outer, Idle outer → Busy s.deferred (frames ++ .free :: outer))
    (hview : ∀ f ∈ frames, f.needsView = true → ∃ v, s.view = .present v) :
    Shaped (s.begin frames) := by
  have hstack : (s.begin frames).stack = frames ++ .free :: s.stack := by
    simp [System.begin, System.push]
  refine shaped_of_isBusy rfl ?_ h.putOff ?_
  · rw [hstack]
    exact hbusy _ (h.idle hfree)
  · rw [hstack]
    intro f hf hneeds
    rcases List.mem_append.1 hf with hf | hf
    · exact hview f hf hneeds
    · rcases List.mem_cons.1 hf with rfl | hf
      · simp [Frame.needsView] at hneeds
      · exact h.view f hf hneeds

theorem deliver_of_isBusy {v : View} (hview : s.view = .present v) (hbusy : s.isBusy = true)
    (event : Event) : s.deliver event =
      { s with
        nextTicket := s.nextTicket + 1
        deferred := s.deferred ++ [⟨s.nextTicket, event, true⟩]
        journal := .arrived ⟨s.nextTicket, event, true⟩ :: s.journal } := by
  simp [System.deliver, System.note, hview, hbusy]

theorem deliver_of_free {v : View} (hview : s.view = .present v) (hfree : s.isBusy = false)
    (event : Event) : s.deliver event =
      ({ s with nextTicket := s.nextTicket + 1 }.note
        (.arrived ⟨s.nextTicket, event, false⟩)).begin
          [.replay, .handle ⟨s.nextTicket, event, false⟩] := by
  simp [System.deliver, System.note, hview, hfree]

/-- An event reaches the view if there is one. -/
theorem Shaped.deliver (h : Shaped s) (hopen : Open s) (event : Event) :
    Moves s (s.deliver event) := by
  cases hview : s.view with
  | empty | gone =>
    have hsame : s.deliver event = s := by simp [System.deliver, hview]
    rw [hsame]
    exact ⟨h, .stay _⟩
  | present v =>
    by_cases hbusy : s.isBusy = true
    · rw [deliver_of_isBusy hview hbusy]
      refine ⟨⟨h.idle, fun _ => .interrupted (hopen hbusy), ?_, h.view⟩, ?_⟩
      · intro d hd
        rcases List.mem_append.1 hd with hd | hd
        · exact h.putOff d hd
        · rw [List.mem_singleton.1 hd]
      · have hstep := Mailbox.Step.putOff (m := s.mailbox) event hbusy
        simpa [System.mailbox, Mailbox.arrive, Occurrence.note?] using hstep
    · have hfree : s.isBusy = false := by simpa using hbusy
      have hidle := h.idle hfree
      rw [deliver_of_free hview hfree]
      constructor
      · have hnumbered : Shaped { s with nextTicket := s.nextTicket + 1 } :=
          ⟨h.idle, h.busy, h.putOff, h.view⟩
        refine (hnumbered.note _).begin hfree ?_ ?_
        · intro outer houter
          exact .resting (.replay (.waiting rfl houter))
        · intro f _ _
          exact ⟨v, hview⟩
      · have hstep := Mailbox.Step.receive (m := s.mailbox) event hfree
        simpa [System.mailbox, System.begin, System.push, System.note, Mailbox.arrive,
          Occurrence.note?, Frame.waiting, Frame.taken, Frame.isReplay, List.countP_cons,
          hidle.taken, hidle.waiting] using hstep

/-! ## Work of the view -/

section Work

variable {f g : Frame ℓ} {below : List (Frame ℓ)}

theorem mailbox_of_stack (hstack : s.stack = f :: below) (hf : f.needsView = false) :
    s.mailbox = ({ s with stack := below } : System ℓ).mailbox := by
  have hcons := mailbox_cons hf s below
  rw [← hstack] at hcons
  exact hcons

theorem Moves.of_mailbox {s' : System ℓ} (hshape : Shaped s') (h : s'.mailbox = s.mailbox) :
    Moves s s' :=
  ⟨hshape, h ▸ .stay _⟩

/-- Something is noted after a step. -/
theorem Moves.note {s' : System ℓ} (h : Moves s s') {o : Occurrence ℓ} (ho : o.note? = none) :
    Moves s (s'.note o) :=
  ⟨h.1.note o, (mailbox_note ho).symm ▸ h.2⟩

/-- The work of the view changes, but not what is to be done after it. -/
theorem Shaped.work (h : Shaped s) (hstack : s.stack = f :: below) (htelling : f.isTelling = false)
    (hf : f.needsView = false) (hg : g.needsView = false) (hshape : Busy s.deferred (g :: below)) :
    Moves s { s with stack := g :: below } := by
  refine .of_mailbox (shaped_of_isBusy (h.isBusy hstack htelling) hshape h.putOff ?_) ?_
  · refine List.forall_mem_cons.2 ⟨?_, ?_⟩
    · intro hneeds
      rw [hg] at hneeds
      exact absurd hneeds (by simp)
    · intro f' hf'
      exact h.view f' (hstack ▸ List.mem_cons_of_mem f hf')
  · rw [mailbox_cons hg, mailbox_of_stack hstack hf]

/-- The view goes on. -/
theorem Shaped.tick_program (h : Shaped s) {p : Program View}
    (hstack : s.stack = .program p :: below) : Moves s s.tick := by
  have hresting := (h.busy_cons hstack rfl).resting_of_program
  have htick : s.tick = ({ s with stack := below } : System ℓ).goOn p := by
    simp [System.tick, hstack]
  rw [htick]
  cases p with
  | done v =>
    refine .of_mailbox (shaped_of_isBusy (h.isBusy hstack rfl) (.resting hresting) h.putOff
      fun _ _ _ => ⟨v, rfl⟩) ?_
    rw [mailbox_of_stack hstack rfl]
    rfl
  | ask r next =>
    cases r with
    | fact f => exact h.work hstack rfl rfl rfl (.program hresting)
    | log n => exact (h.work hstack rfl rfl rfl (.program hresting)).note rfl
    | query | command | user =>
      exact (h.work hstack rfl rfl rfl (.interrupted (.asked hresting))).note rfl

/-- A request is answered. -/
theorem Shaped.replied (h : Shaped s) (answers : Answers) : Moves s (s.replied answers) := by
  unfold System.replied
  split
  · next r next below hstack =>
    have hresting := (h.busy_cons hstack rfl).resting_of_asked
    exact h.work hstack rfl rfl rfl (.program hresting)
  · exact ⟨h, .stay _⟩

/-- A view that is free again is there as before, unless it has been let go. -/
theorem setFree_cases (s : System ℓ) :
    (s.isLetGo = true → ∀ v, s.view ≠ .present v) ∧ s.setFree = { s with isBusy := false } ∨
      s.isLetGo = true ∧ (∃ v, s.view = .present v) ∧
        s.setFree = { s with isBusy := false, view := .gone } := by
  unfold System.setFree
  split
  · next v hview hgo => exact .inr ⟨hgo, ⟨v, hview⟩, rfl⟩
  · next hstays => exact .inl ⟨fun hgo v hview => hstays v hview hgo, rfl⟩

/-- The view is free again, or gone. -/
theorem Shaped.freed (h : Shaped s) (hstack : s.stack = .free :: below) (slot : ViewSlot) :
    Moves s { s with isBusy := false, stack := below, view := slot } := by
  have hresting := (h.busy_cons hstack rfl).resting_of_isRest rfl
  cases hresting with
  | free hidle =>
    refine ⟨⟨fun _ => hidle, by simp, h.putOff, ?_⟩, ?_⟩
    · intro f hf hneeds
      rw [needsView_of_isTelling (hidle f hf)] at hneeds
      exact absurd hneeds (by simp)
    · have hwaiting : s.mailbox.waiting = [] := by
        simpa [System.mailbox, hstack, Frame.waiting] using hidle.waiting
      have hstep := Mailbox.Step.finish hwaiting
      simpa [System.mailbox, hstack, Frame.waiting, Frame.taken, Frame.isReplay] using hstep

theorem Shaped.tick_free (h : Shaped s) (hstack : s.stack = .free :: below) : Moves s s.tick := by
  have htick : s.tick = ({ s with stack := below } : System ℓ).setFree := by
    simp [System.tick, hstack]
  rw [htick]
  rcases setFree_cases ({ s with stack := below } : System ℓ) with ⟨-, hfree⟩ | ⟨-, -, hfree⟩
  · rw [hfree]
    exact h.freed hstack s.view
  · rw [hfree]
    exact h.freed hstack .gone

/-- The events put off are let in: either there are none, or they are the next batch. -/
theorem Shaped.tick_replay (h : Shaped s) (hstack : s.stack = .replay :: below) :
    Moves s s.tick := by
  have hresting := (h.busy_cons hstack rfl).resting_of_isRest rfl
  have hbusy := h.isBusy hstack rfl
  obtain ⟨v, hview⟩ := h.view .replay (by simp [hstack]) rfl
  cases hresting with
  | replay hclosing =>
    have htaken : s.mailbox.batch = [] := by
      simpa [System.mailbox, hstack, Frame.taken] using hclosing.taken
    cases hdeferred : s.deferred with
    | nil =>
      have htick : s.tick = { s with stack := below } := by
        simp [System.tick, hstack, hdeferred]
      rw [htick]
      refine ⟨shaped_of_isBusy hbusy ?_ h.putOff fun _ _ _ => ⟨v, hview⟩, ?_⟩
      · cases hclosing with
        | free hidle => exact .resting (.free hidle)
        | waiting hd hidle => exact .last hd hdeferred hidle
      · have hqueue : s.mailbox.queue = [] := by
          rw [Mailbox.queue, htaken, List.nil_append]
          exact hdeferred
        have hstep := Mailbox.Step.replayed hqueue
        simpa [System.mailbox, hstack, Frame.waiting, Frame.taken, Frame.isReplay,
          List.countP_cons] using hstep
    | cons d rest =>
      have htick : s.tick = { s with deferred := [], stack := .batch s.deferred :: s.stack } := by
        simp [System.tick, hstack, hdeferred]
      rw [htick]
      refine ⟨shaped_of_isBusy hbusy ?_ (by simp) fun _ _ _ => ⟨v, hview⟩, ?_⟩
      · show Busy [] (.batch s.deferred :: s.stack)
        rw [hstack]
        exact .resting (.batch h.putOff hclosing)
      · have hstep := Mailbox.Step.take htaken
        simpa [System.mailbox, hstack, Frame.waiting, Frame.taken, Frame.isReplay,
          hclosing.taken] using hstep

/-- The next event of a batch is to be handled, or the batch has been handled. -/
theorem Shaped.tick_batch (h : Shaped s) {rest : List Delivery}
    (hstack : s.stack = .batch rest :: below) : Moves s s.tick := by
  have hresting := (h.busy_cons hstack rfl).resting_of_isRest rfl
  have hbusy := h.isBusy hstack rfl
  obtain ⟨v, hview⟩ := h.view (.batch rest) (by simp [hstack]) rfl
  cases hresting with
  | @batch _ below hrest hclosing =>
    cases rest with
    | nil =>
      have htick : s.tick = { s with stack := .replay :: below } := by
        simp [System.tick, hstack]
      rw [htick]
      refine .of_mailbox (shaped_of_isBusy hbusy (.resting (.replay hclosing)) h.putOff
        fun _ _ _ => ⟨v, hview⟩) ?_
      simp [System.mailbox, hstack, Frame.waiting, Frame.taken, Frame.isReplay]
    | cons d rest =>
      obtain ⟨hd, hrest⟩ := List.forall_mem_cons.1 hrest
      have htick : s.tick = { s with stack := .handle d :: .batch rest :: .replay :: below } := by
        simp [System.tick, hstack]
      rw [htick]
      refine .of_mailbox (shaped_of_isBusy hbusy (.next hd (.batch hrest hclosing)) h.putOff
        fun _ _ _ => ⟨v, hview⟩) ?_
      simp [System.mailbox, hstack, Frame.waiting, Frame.taken, Frame.isReplay, hd]

/-- The view begins to handle an event. -/
theorem Shaped.tick_handle (h : Shaped s) {d : Delivery} (hstack : s.stack = .handle d :: below) :
    Moves s s.tick := by
  have hshape := h.busy_cons hstack rfl
  have hbusy := h.isBusy hstack rfl
  obtain ⟨v, hview⟩ := h.view (.handle d) (by simp [hstack]) rfl
  have htick : s.tick =
      ({ s with stack := .program ((View.handle d.event).after v) :: below } : System ℓ).note
        (.handled d) := by
    simp [System.tick, hstack, hview]
  have hshaped : Resting below → Shaped s.tick := by
    intro hresting
    rw [htick]
    exact shaped_of_isBusy hbusy (.program hresting) h.putOff fun _ _ _ => ⟨v, hview⟩
  cases hshape with
  | resting h => cases h
  | interrupted h =>
    cases h with
    | telling hf => simp [Frame.isTelling] at hf
  | @next _ rest below hd hresting =>
    have hbatch : s.mailbox.batch = d :: (rest ++ below.flatMap Frame.taken) := by
      simp [System.mailbox, hstack, Frame.taken, hd]
    refine ⟨hshaped hresting, ?_⟩
    have hstep := Mailbox.Step.handleNext hbatch
    rw [htick]
    simpa [System.mailbox, System.note, Mailbox.handle, Occurrence.note?, hstack, hd,
      Frame.waiting, Frame.taken, Frame.isReplay] using hstep
  | last hd hdeferred hidle =>
    have hwaiting : s.mailbox.waiting = [d] := by
      simp [System.mailbox, hstack, Frame.waiting, hd, hidle.waiting]
    have hqueue : s.mailbox.queue = [] := by
      simp [Mailbox.queue, System.mailbox, hstack, Frame.taken, hd, hidle.taken, hdeferred]
    refine ⟨hshaped (.free hidle), ?_⟩
    have hstep := Mailbox.Step.handleWaiting hwaiting hqueue
    rw [htick]
    simpa [System.mailbox, System.note, Mailbox.handle, Occurrence.note?, hstack, hd,
      Frame.waiting, Frame.taken, Frame.isReplay, hidle.waiting] using hstep

/-- An event is told to one callback. -/
theorem Shaped.tell (h : Shaped s) (hopen : Open s) (event : Event)
    (entry : Callbacks.Entry (Subscriber ℓ)) : Moves s (s.tell event entry) := by
  unfold System.tell
  split
  · exact h.deliver hopen event
  · next l hcallback =>
    obtain ⟨hshape, -⟩ := h.telling hopen (f := .listening entry.id l event) rfl
    exact (Moves.of_mailbox hshape (mailbox_cons rfl s s.stack)).note rfl

/-- An event is told to the next callback, or has been told to all of them. -/
theorem Shaped.tick_notify (h : Shaped s) {event : Event}
    {rest : List (Callbacks.Entry (Subscriber ℓ))}
    (hstack : s.stack = .notify event rest :: below) : Moves s s.tick := by
  obtain ⟨htold, hopen⟩ := h.told hstack rfl
  have hmailbox := mailbox_of_stack hstack rfl
  cases rest with
  | nil =>
    have htick : s.tick = { s with stack := below } := by simp [System.tick, hstack]
    rw [htick]
    exact .of_mailbox htold hmailbox.symm
  | cons entry rest =>
    obtain ⟨hshape, hopen⟩ := htold.telling hopen (f := .notify event rest) rfl
    have htick : s.tick =
        (({ s with stack := below } : System ℓ).push [.notify event rest]).tell event entry := by
      simp [System.tick, System.push, hstack]
    obtain ⟨hshape, hstep⟩ := hshape.tell hopen event entry
    rw [htick]
    refine ⟨hshape, ?_⟩
    rw [hmailbox, ← mailbox_cons (f := .notify event rest) rfl]
    exact hstep

/-- What is internal goes on. -/
theorem Shaped.tick (h : Shaped s) : Moves s s.tick := by
  cases hstack : s.stack with
  | nil =>
    have htick : s.tick = s := by simp [System.tick, hstack]
    rw [htick]
    exact ⟨h, .stay _⟩
  | cons f below =>
    cases f with
    | notify => exact h.tick_notify hstack
    | replay => exact h.tick_replay hstack
    | batch => exact h.tick_batch hstack
    | handle => exact h.tick_handle hstack
    | program => exact h.tick_program hstack
    | free => exact h.tick_free hstack
    | listening | asked =>
      have htick : s.tick = s := by simp [System.tick, hstack]
      rw [htick]
      exact ⟨h, .stay _⟩

/-- A listener returns. -/
theorem Shaped.returned (h : Shaped s) : Moves s s.returned := by
  unfold System.returned
  split
  · next hstack =>
    exact .of_mailbox (h.told hstack rfl).1 (mailbox_of_stack hstack rfl).symm
  · exact ⟨h, .stay _⟩

end Work

/-! ## Actions -/

/-- The systems differ only in what is registered and in what is known of the device. -/
structure SameWork (s s' : System ℓ) : Prop where
  view : s'.view = s.view
  isBusy : s'.isBusy = s.isBusy
  isLetGo : s'.isLetGo = s.isLetGo
  deferred : s'.deferred = s.deferred
  nextTicket : s'.nextTicket = s.nextTicket
  stack : s'.stack = s.stack
  journal : s'.journal = s.journal

theorem SameWork.refl (s : System ℓ) : SameWork s s := ⟨rfl, rfl, rfl, rfl, rfl, rfl, rfl⟩

theorem SameWork.trans {s₁ s₂ s₃ : System ℓ} (h : SameWork s₁ s₂) (h' : SameWork s₂ s₃) :
    SameWork s₁ s₃ where
  view := h'.view.trans h.view
  isBusy := h'.isBusy.trans h.isBusy
  isLetGo := h'.isLetGo.trans h.isLetGo
  deferred := h'.deferred.trans h.deferred
  nextTicket := h'.nextTicket.trans h.nextTicket
  stack := h'.stack.trans h.stack
  journal := h'.journal.trans h.journal

theorem SameWork.listeners {s₁ s₂ : System ℓ} (h : SameWork s₁ s₂)
    (listeners : List (String × Source × Nat)) : SameWork s₁ { s₂ with listeners } :=
  ⟨h.view, h.isBusy, h.isLetGo, h.deferred, h.nextTicket, h.stack, h.journal⟩

theorem SameWork.attachments {s₁ s₂ : System ℓ} (h : SameWork s₁ s₂)
    (attachments : List (String × Attachment)) : SameWork s₁ { s₂ with attachments } :=
  ⟨h.view, h.isBusy, h.isLetGo, h.deferred, h.nextTicket, h.stack, h.journal⟩

theorem SameWork.shaped {s' : System ℓ} (hsame : SameWork s s') (h : Shaped s) : Shaped s' := by
  constructor
  · rw [hsame.isBusy, hsame.stack]
    exact h.idle
  · rw [hsame.isBusy, hsame.deferred, hsame.stack]
    exact h.busy
  · rw [hsame.deferred]
    exact h.putOff
  · rw [hsame.stack, hsame.view]
    exact h.view

theorem SameWork.moves {s' : System ℓ} (hsame : SameWork s s') (h : Shaped s) : Moves s s' := by
  refine .of_mailbox (hsame.shaped h) ?_
  simp only [System.mailbox, hsame.journal, hsame.stack, hsame.deferred, hsame.nextTicket,
    hsame.isBusy]

theorem sameWork_setRegistry (s : System ℓ) (source : Source)
    (r : Callbacks.Registry (Subscriber ℓ)) : SameWork s (s.setRegistry source r) := by
  cases source <;> exact ⟨rfl, rfl, rfl, rfl, rfl, rfl, rfl⟩

theorem sameWork_endListener (s : System ℓ) (l : Option (Source × Nat)) :
    SameWork s (s.endListener l) := by
  cases l with
  | none => exact ⟨rfl, rfl, rfl, rfl, rfl, rfl, rfl⟩
  | some l => exact sameWork_setRegistry s l.1 _

theorem sameWork_endAttachment (s : System ℓ) (a : Option Attachment) :
    SameWork s (s.endAttachment a) := by
  cases a with
  | none => exact ⟨rfl, rfl, rfl, rfl, rfl, rfl, rfl⟩
  | some a =>
    exact (sameWork_setRegistry s .monitor _).trans
      (sameWork_setRegistry (s.unregister .monitor a.monitor) .configuration _)

/-- An event is told to all callbacks registered with its source. -/
theorem Shaped.announce (h : Shaped s) (hopen : Open s) (event : Event) :
    Moves s (s.announce event) := by
  have hnoted := h.note (.announced event)
  obtain ⟨hshape, -⟩ :=
    hnoted.telling hopen (f := .notify event (s.registry event.source).entries) rfl
  exact .of_mailbox hshape ((mailbox_cons rfl _ s.stack).trans (mailbox_note rfl))

/-- The view begins to do something for its owner. -/
theorem Shaped.perform (h : Shaped s) (hfree : s.isBusy = false) (p : Program View) (replays : Bool)
    (hview : replays = true → ∃ v, s.view = .present v) :
    Moves s (s.begin (.program p :: if replays then [.replay] else [])) := by
  constructor
  · refine h.begin hfree ?_ ?_
    · intro outer houter
      cases replays with
      | false => exact .program (.free houter)
      | true => exact .program (.replay (.free houter))
    · intro f hf hneeds
      cases replays with
      | false =>
        rw [List.mem_singleton.1 hf] at hneeds
        exact absurd hneeds (by simp [Frame.needsView])
      | true => exact hview rfl
  · have hstep := Mailbox.Step.begin (m := s.mailbox) (if replays then 1 else 0) hfree
    cases replays <;>
      simpa [System.mailbox, System.begin, System.push, Frame.waiting, Frame.taken, Frame.isReplay,
        List.countP_cons] using hstep

theorem view_of_freeView? {v : View} (h : s.freeView? = some v) :
    s.isBusy = false ∧ s.view = .present v := by
  unfold System.freeView? at h
  split at h
  · simp at h
  · next hfree =>
    refine ⟨by simpa using hfree, ?_⟩
    cases hview : s.view with
    | empty | gone => simp [hview, ViewSlot.view?] at h
    | present v' =>
      obtain rfl : v' = v := by simpa [hview, ViewSlot.view?] using h
      rfl

/-- The host, a listener or an answerer acts. -/
theorem Shaped.act (h : Shaped s) (hopen : Open s) (a : Action ℓ) : Moves s (s.act a) := by
  cases a with
  | change c =>
    have hsame : SameWork s { s with status := s.status.after c } :=
      ⟨rfl, rfl, rfl, rfl, rfl, rfl, rfl⟩
    have hshape := hsame.shaped h
    simp only [System.act]
    split
    · exact hshape.announce hopen _
    · exact hsame.moves h
  | listen name source l =>
    have hregistered : SameWork s (s.register source (.listener l)) :=
      sameWork_setRegistry s source _
    exact ((hregistered.listeners _).trans (sameWork_endListener _ _)).moves h
  | unlisten name =>
    exact (((SameWork.refl s).listeners _).trans (sameWork_endListener _ _)).moves h
  | create locale =>
    simp only [System.act]
    split
    · next hview hfree => exact h.perform hfree _ false (by simp)
    · exact ⟨h, .stay _⟩
  | attach name =>
    simp only [System.act]
    split
    · have hmonitor : SameWork s (s.register .monitor .statusView) :=
        sameWork_setRegistry s .monitor _
      have hboth : SameWork s
          ((s.register .monitor .statusView).register .configuration .statusView) :=
        hmonitor.trans (sameWork_setRegistry _ .configuration _)
      exact ((hboth.attachments _).trans (sameWork_endAttachment _ _)).moves h
    · exact ⟨h, .stay _⟩
  | detach name =>
    exact (((SameWork.refl s).attachments _).trans (sameWork_endAttachment _ _)).moves h
  | perform o =>
    simp only [System.act]
    split
    · next v hview =>
      obtain ⟨hfree, hview⟩ := view_of_freeView? hview
      exact h.perform hfree _ o.replays fun _ => ⟨v, hview⟩
    · exact ⟨h, .stay _⟩
  | dropView =>
    simp only [System.act]
    split
    · next hview hfree =>
      refine .of_mailbox ⟨h.idle, h.busy, h.putOff, ?_⟩ rfl
      intro f hf hneeds
      rw [needsView_of_isTelling (h.idle hfree f hf)] at hneeds
      exact absurd hneeds (by simp)
    · exact .of_mailbox ⟨h.idle, h.busy, h.putOff, h.view⟩ rfl
    · exact ⟨h, .stay _⟩

/-! ## Runs -/

/-- An input keeps the shape of a system and makes a step of its mailbox. -/
theorem Shaped.feed (h : Shaped s) (input : Input ℓ) : Moves s (s.feed input) := by
  cases input with
  | tick => exact h.tick
  | act a =>
    simp only [System.feed]
    split
    · next hturn => exact h.act (h.open_of_isTurn hturn) a
    · exact ⟨h, .stay _⟩
  | done => exact h.returned
  | reply answers => exact h.replied answers

theorem Shaped.run (h : Shaped s) (inputs : List (Input ℓ)) : Shaped (s.run inputs) := by
  induction inputs generalizing s with
  | nil => exact h
  | cons input inputs ih => exact ih (h.feed input).1

/-- What is kept by every input is kept by a run. -/
theorem Shaped.run_induction {P : System ℓ → Prop}
    (hfeed : ∀ s : System ℓ, Shaped s → P s → ∀ input, P (s.feed input)) (hshaped : Shaped s)
    (h : P s) (inputs : List (Input ℓ)) : P (s.run inputs) := by
  induction inputs generalizing s with
  | nil => exact h
  | cons input inputs ih => exact ih (hshaped.feed input).1 (hfeed s hshaped h input)

theorem shaped_start (locale : String) : Shaped (System.start (ℓ := ℓ) locale) where
  idle := by simp [System.start, Idle]
  busy := by simp [System.start]
  putOff := by simp [System.start]
  view := by simp [System.start]

/-- Every system that is reached has its shape, and its mailbox is sound. -/
theorem shaped_run (locale : String) (inputs : List (Input ℓ)) :
    Shaped ((System.start locale).run inputs) ∧
      ((System.start locale).run inputs).mailbox.Sound := by
  have hsound : ∀ s : System ℓ, Shaped s → s.mailbox.Sound →
      ∀ input, (s.feed input).mailbox.Sound :=
    fun s hshaped hsound input => hsound.step (hshaped.feed input).2
  exact ⟨(shaped_start locale).run inputs,
    (shaped_start locale).run_induction hsound Mailbox.sound_empty inputs⟩

end DeviceStatus.Device
