import DeviceStatus.Proofs.Device.Mailbox

/-!
# What goes on while the view is at work

The stack of a system has few shapes (`Shaped`). While the view is free, events are told to
listeners and nothing else goes on. While the view is at work, its work stands on top of this: the
events put off may be let in, then the event that found the view free may be handled, then the view
is free again. Only where the view waits for an answer may further events be told.

The mailbox of a system is read off its stack and its journal. What does not need the view does not
matter to it (`mailbox_cons`).
-/

namespace DeviceStatus.Device

open Lockscreen

variable {ℓ : Type}

/-! ## The mailbox of a system -/

/-- What an occurrence says about the events that reach the view. -/
def Occurrence.note? : Occurrence ℓ → Option Note
  | arrived d => some (.arrived d)
  | handled d => some (.handled d)
  | announced _ | heard .. | requested _ => none

namespace Frame

/-- Whether an event is being told. -/
def isTelling : Frame ℓ → Bool
  | notify .. | listening .. => true
  | replay | batch _ | handle _ | program _ | asked .. | free => false

/-- Whether the events put off are being handled. -/
def isReplay : Frame ℓ → Bool
  | replay => true
  | notify .. | listening .. | batch _ | handle _ | program _ | asked .. | free => false

/-- Whether the view has ended one piece of work before it. -/
def isRest : Frame ℓ → Bool
  | replay | batch _ | free => true
  | notify .. | listening .. | handle _ | program _ | asked .. => false

/-- Whether the view is needed for what is to be done. -/
def needsView : Frame ℓ → Bool
  | replay | batch _ | handle _ => true
  | notify .. | listening .. | program _ | asked .. | free => false

/-- The events put off that are to be handled now. -/
def taken : Frame ℓ → List Delivery
  | batch rest => rest
  | handle d => if d.isDeferred then [d] else []
  | notify .. | listening .. | replay | program _ | asked .. | free => []

/-- The event that found the view free and is to be handled. -/
def waiting : Frame ℓ → List Delivery
  | handle d => if d.isDeferred then [] else [d]
  | notify .. | listening .. | replay | batch _ | program _ | asked .. | free => []

end Frame

/-- The events that have reached the view of a system. -/
def System.mailbox (s : System ℓ) : Mailbox where
  history := s.journal.reverse.filterMap Occurrence.note?
  waiting := s.stack.flatMap Frame.waiting
  batch := s.stack.flatMap Frame.taken
  deferred := s.deferred
  nextTicket := s.nextTicket
  isBusy := s.isBusy
  replays := s.stack.countP Frame.isReplay

/-! ## Shapes -/

/-- Nothing goes on but the telling of events. -/
def Idle (stack : List (Frame ℓ)) : Prop := ∀ f ∈ stack, f.isTelling = true

/-- The view is about to be free again, perhaps after the event that found it free. -/
inductive Closing : List (Frame ℓ) → Prop
  /-- Nothing is left to be done. -/
  | free {outer : List (Frame ℓ)} (h : Idle outer) : Closing (.free :: outer)
  /-- The event that found the view free is left. -/
  | waiting {d : Delivery} {outer : List (Frame ℓ)} (hd : d.isDeferred = false) (h : Idle outer) :
    Closing (.handle d :: .free :: outer)

/-- What is to be done after the present work of the view. -/
inductive Resting : List (Frame ℓ) → Prop
  /-- The view is free again. -/
  | free {outer : List (Frame ℓ)} (h : Idle outer) : Resting (.free :: outer)
  /-- The events put off are let in. -/
  | replay {below : List (Frame ℓ)} (h : Closing below) : Resting (.replay :: below)
  /-- The rest of a batch is handled. -/
  | batch {rest : List Delivery} {below : List (Frame ℓ)} (hrest : ∀ d ∈ rest, d.isDeferred = true)
    (h : Closing below) : Resting (.batch rest :: .replay :: below)

/-- The view waits for an answer, and meanwhile events may be told. -/
inductive Interrupted : List (Frame ℓ) → Prop
  /-- It waits for the answer. -/
  | asked {r : Request} {next : r.Answer → Program View} {below : List (Frame ℓ)}
    (h : Resting below) : Interrupted (.asked r next :: below)
  /-- An event is told before it is answered. -/
  | telling {f : Frame ℓ} {below : List (Frame ℓ)} (hf : f.isTelling = true)
    (h : Interrupted below) : Interrupted (f :: below)

/-- The view is at work. -/
inductive Busy (deferred : List Delivery) : List (Frame ℓ) → Prop
  /-- It has ended one piece of work. -/
  | resting {stack : List (Frame ℓ)} (h : Resting stack) : Busy deferred stack
  /-- It goes on. -/
  | program {p : Program View} {below : List (Frame ℓ)} (h : Resting below) :
    Busy deferred (.program p :: below)
  /-- It waits for an answer. -/
  | interrupted {stack : List (Frame ℓ)} (h : Interrupted stack) : Busy deferred stack
  /-- It is to handle the next event of a batch. -/
  | next {d : Delivery} {rest : List Delivery} {below : List (Frame ℓ)} (hd : d.isDeferred = true)
    (h : Resting (.batch rest :: below)) : Busy deferred (.handle d :: .batch rest :: below)
  /-- It is to handle the event that found it free, and no event put off is left. -/
  | last {d : Delivery} {outer : List (Frame ℓ)} (hd : d.isDeferred = false)
    (hdeferred : deferred = []) (h : Idle outer) : Busy deferred (.handle d :: .free :: outer)

/-- The shape of a system at every moment. -/
structure Shaped (s : System ℓ) : Prop where
  /-- While the view is free, events are told. -/
  idle : s.isBusy = false → Idle s.stack
  /-- While it is at work, its work goes on. -/
  busy : s.isBusy = true → Busy s.deferred s.stack
  /-- Events are put off only if the view was at work when they arrived. -/
  putOff : ∀ d ∈ s.deferred, d.isDeferred = true
  /-- The view is there for the events that it is to handle. -/
  view : ∀ f ∈ s.stack, f.needsView = true → ∃ v, s.view = .present v

theorem shaped_of_isBusy {s : System ℓ} (hbusy : s.isBusy = true) (hshape : Busy s.deferred s.stack)
    (hputOff : ∀ d ∈ s.deferred, d.isDeferred = true)
    (hview : ∀ f ∈ s.stack, f.needsView = true → ∃ v, s.view = .present v) : Shaped s where
  idle := fun hfree => absurd (hbusy.symm.trans hfree) (by simp)
  busy := fun _ => hshape
  putOff := hputOff
  view := hview

/-! ## What does not need the view -/

section NeedsView

variable {f : Frame ℓ} (h : f.needsView = false)

include h

theorem taken_of_needsView : f.taken = [] := by
  cases f <;> simp_all [Frame.needsView, Frame.taken]

theorem waiting_of_needsView : f.waiting = [] := by
  cases f <;> simp_all [Frame.needsView, Frame.waiting]

theorem isReplay_of_needsView : f.isReplay = false := by
  cases f <;> simp_all [Frame.needsView, Frame.isReplay]

/-- What does not need the view does not matter to the events that have reached it. -/
theorem mailbox_cons (s : System ℓ) (stack : List (Frame ℓ)) :
    ({ s with stack := f :: stack } : System ℓ).mailbox =
      ({ s with stack } : System ℓ).mailbox := by
  simp [System.mailbox, taken_of_needsView h, waiting_of_needsView h, isReplay_of_needsView h]

end NeedsView

theorem needsView_of_isTelling {f : Frame ℓ} (h : f.isTelling = true) : f.needsView = false := by
  cases f <;> simp_all [Frame.isTelling, Frame.needsView]

theorem Idle.taken {stack : List (Frame ℓ)} (h : Idle stack) : stack.flatMap Frame.taken = [] :=
  List.flatMap_eq_nil_iff.2 fun f hf => taken_of_needsView (needsView_of_isTelling (h f hf))

theorem Idle.waiting {stack : List (Frame ℓ)} (h : Idle stack) :
    stack.flatMap Frame.waiting = [] :=
  List.flatMap_eq_nil_iff.2 fun f hf => waiting_of_needsView (needsView_of_isTelling (h f hf))

theorem Closing.taken {stack : List (Frame ℓ)} (h : Closing stack) :
    stack.flatMap Frame.taken = [] := by
  cases h with
  | free h => simpa [Frame.taken] using h.taken
  | waiting hd h => simpa [Frame.taken, hd] using h.taken

/-! ## What is below -/

section Below

variable {deferred : List Delivery} {f : Frame ℓ} {below : List (Frame ℓ)}

theorem Busy.interrupted_of_isTelling (h : Busy deferred (f :: below)) (hf : f.isTelling = true) :
    Interrupted below := by
  cases h with
  | resting h => cases h <;> simp [Frame.isTelling] at hf
  | interrupted h =>
    cases h with
    | asked => simp [Frame.isTelling] at hf
    | telling _ h => exact h
  | program | next | last => simp [Frame.isTelling] at hf

theorem Busy.resting_of_program {p : Program View} (h : Busy deferred (.program p :: below)) :
    Resting below := by
  cases h with
  | resting h => cases h
  | program h => exact h
  | interrupted h =>
    cases h with
    | telling hf => simp [Frame.isTelling] at hf

theorem Busy.resting_of_asked {r : Request} {next : r.Answer → Program View}
    (h : Busy deferred (.asked r next :: below)) : Resting below := by
  cases h with
  | resting h => cases h
  | interrupted h =>
    cases h with
    | asked h => exact h
    | telling hf => simp [Frame.isTelling] at hf

theorem Busy.resting_of_isRest (h : Busy deferred (f :: below)) (hf : f.isRest = true) :
    Resting (f :: below) := by
  cases h with
  | resting h => exact h
  | interrupted h =>
    cases h with
    | asked => simp [Frame.isRest] at hf
    | telling htelling => cases f <;> simp_all [Frame.isRest, Frame.isTelling]
  | program | next | last => simp [Frame.isRest] at hf

theorem Shaped.isBusy {s : System ℓ} (h : Shaped s) (hstack : s.stack = f :: below)
    (hf : f.isTelling = false) : s.isBusy = true := by
  by_contra hbusy
  have hidle := h.idle (by simpa using hbusy)
  rw [hstack] at hidle
  have htelling := hidle f List.mem_cons_self
  rw [hf] at htelling
  exact absurd htelling (by simp)

/-- What goes on while the view is at work, if its work is on top of the stack. -/
theorem Shaped.busy_cons {s : System ℓ} (h : Shaped s) (hstack : s.stack = f :: below)
    (hf : f.isTelling = false) : Busy s.deferred (f :: below) := by
  rw [← hstack]
  exact h.busy (h.isBusy hstack hf)

end Below

end DeviceStatus.Device
