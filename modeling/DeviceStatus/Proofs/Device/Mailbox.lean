import DeviceStatus.Device.System
import Mathlib.Data.List.Basic

/-!
# The mailbox of the view

What becomes of the events that reach the status view, without the rest of the device. An event
that finds the view free waits until the events put off have been handled; an event that finds it
at work is put off. The events put off are taken in batches, and those put off meanwhile make up the
next one.

`Mailbox.Step` is a step of the mailbox, and `Mailbox.Sound` is what every step preserves: every
event is in one place, events that are put off keep their order, and where an event is overtaken.
-/

namespace DeviceStatus.Device

/-- What happens to an event that reaches the view. -/
inductive Note where
  /-- The event reached the view. -/
  | arrived (d : Delivery)
  /-- The view began to handle the event. -/
  | handled (d : Delivery)
deriving DecidableEq, Repr

/-- The event of an arrival. -/
def Note.arrived? : Note → Option Delivery
  | arrived d => some d
  | handled _ => none

/-- The event that the view began to handle. -/
def Note.handled? : Note → Option Delivery
  | arrived _ => none
  | handled d => some d

/-- The events that have reached the view. -/
structure Mailbox where
  /-- What has happened to them, oldest first. -/
  history : List Note := []
  /-- Those that found the view free and wait for the events put off before them. -/
  waiting : List Delivery := []
  /-- Those put off that are being handled now. -/
  batch : List Delivery := []
  /-- Those put off that are left for the next batch. -/
  deferred : List Delivery := []
  /-- The number of the next arrival. -/
  nextTicket : Nat := 0
  /-- Whether the view is at work. -/
  isBusy : Bool := false
  /-- How often the events put off are being handled. -/
  replays : Nat := 0

namespace Mailbox

/-- The events that have reached the view, in the order of their arrival. -/
def arrived (m : Mailbox) : List Delivery := m.history.filterMap Note.arrived?

/-- The events that the view has begun to handle, in this order. -/
def handled (m : Mailbox) : List Delivery := m.history.filterMap Note.handled?

/-- The events put off that are still to be handled. -/
def queue (m : Mailbox) : List Delivery := m.batch ++ m.deferred

/-- An event reaches the view. -/
def arrive (m : Mailbox) (d : Delivery) : Mailbox :=
  { m with history := m.history ++ [.arrived d], nextTicket := m.nextTicket + 1 }

/-- The view begins to handle an event. -/
def handle (m : Mailbox) (d : Delivery) : Mailbox :=
  { m with history := m.history ++ [.handled d] }

/-- A step of the mailbox. -/
inductive Step : Mailbox → Mailbox → Prop
  /-- Nothing happens to the events. -/
  | stay (m : Mailbox) : Step m m
  /-- The view begins to work, and may let the events put off in. -/
  | begin {m : Mailbox} (n : Nat) (h : m.isBusy = false) :
    Step m { m with isBusy := true, replays := m.replays + n }
  /-- An event finds the view free. -/
  | receive {m : Mailbox} (event : Event) (h : m.isBusy = false) :
    Step m { m.arrive ⟨m.nextTicket, event, false⟩ with
      waiting := [⟨m.nextTicket, event, false⟩], isBusy := true, replays := m.replays + 1 }
  /-- An event finds the view at work. -/
  | putOff {m : Mailbox} (event : Event) (h : m.isBusy = true) :
    Step m { m.arrive ⟨m.nextTicket, event, true⟩ with
      deferred := m.deferred ++ [⟨m.nextTicket, event, true⟩] }
  /-- The events put off are taken as the next batch. -/
  | take {m : Mailbox} (h : m.batch = []) : Step m { m with batch := m.deferred, deferred := [] }
  /-- The first event of the batch is handled. -/
  | handleNext {m : Mailbox} {d : Delivery} {rest : List Delivery} (h : m.batch = d :: rest) :
    Step m { m.handle d with batch := rest }
  /-- The event that found the view free is handled when no others are left. -/
  | handleWaiting {m : Mailbox} {d : Delivery} (h : m.waiting = [d]) (hqueue : m.queue = []) :
    Step m { m.handle d with waiting := [] }
  /-- The events put off have all been handled. -/
  | replayed {m : Mailbox} (h : m.queue = []) : Step m { m with replays := m.replays - 1 }
  /-- The view is free again. -/
  | finish {m : Mailbox} (h : m.waiting = []) : Step m { m with isBusy := false }

/-- Handling the events put off ends only when there are none. -/
theorem Step.queue_eq_nil {m m' : Mailbox} (h : Step m m') (hreplays : m'.replays < m.replays) :
    m'.queue = [] := by
  cases h with
  | replayed h => exact h
  | stay | putOff | take | handleNext | handleWaiting | finish =>
    exact absurd hreplays (Nat.lt_irrefl _)
  | begin n h => exact absurd hreplays (Nat.not_lt.2 (Nat.le_add_right ..))
  | receive event h => exact absurd hreplays (Nat.not_lt.2 (Nat.le_succ _))

@[simp] theorem arrived_arrive (m : Mailbox) (d : Delivery) :
    (m.arrive d).arrived = m.arrived ++ [d] := by
  simp [arrived, arrive, Note.arrived?]

@[simp] theorem handled_arrive (m : Mailbox) (d : Delivery) :
    (m.arrive d).handled = m.handled := by
  simp [handled, arrive, Note.handled?]

@[simp] theorem arrived_handle (m : Mailbox) (d : Delivery) :
    (m.handle d).arrived = m.arrived := by
  simp [arrived, handle, Note.arrived?]

@[simp] theorem handled_handle (m : Mailbox) (d : Delivery) :
    (m.handle d).handled = m.handled ++ [d] := by
  simp [handled, handle, Note.handled?]

/-! ## Pairs in a list -/

section Pairs

variable {α : Type} {l l' : List α}

theorem pair_sublist_concat {a b c : α} :
    [a, b].Sublist (l ++ [c]) ↔ [a, b].Sublist l ∨ a ∈ l ∧ b = c := by
  rw [← List.reverse_sublist, List.reverse_append, List.reverse_singleton, List.singleton_append,
    List.reverse_cons, List.reverse_singleton, List.singleton_append, List.cons_sublist_cons',
    List.singleton_sublist, List.mem_reverse, ← List.reverse_sublist]
  simp [and_comm]

/-- Pairs of a list without repetitions stand in the same order in its beginning. -/
theorem pair_sublist_of_isPrefix (hinit : l <+: l') (hnodup : l'.Nodup) {a b : α}
    (hpair : [a, b].Sublist l') (hb : b ∈ l) : [a, b].Sublist l := by
  obtain ⟨rest, rfl⟩ := hinit
  have hnot : b ∉ rest := fun hrest => (List.nodup_append.1 hnodup).2.2 b hb b hrest rfl
  obtain ⟨front, back, hsplit, hfront, hback⟩ := List.sublist_append_iff.1 hpair
  have hlast : b ∉ back := fun hmem => hnot (hback.subset hmem)
  rcases front with _ | ⟨x, _ | ⟨y, front⟩⟩
  · rw [List.nil_append] at hsplit
    exact absurd (by simp [← hsplit]) hlast
  · have htail : [b] = back := (List.cons.inj hsplit).2
    exact absurd (by simp [← htail]) hlast
  · obtain ⟨hx, hrest⟩ := List.cons.inj hsplit
    have hy : b = y := (List.cons.inj hrest).1
    rw [← hx, ← hy] at hfront
    exact (List.sublist_append_left [a, b] front).trans hfront

/-- A list is the beginning of another if each of its elements comes with everything that stands
before it in the other one. -/
theorem isPrefix_of_pairs (hl : l.Nodup) (hl' : l'.Nodup) (hsub : l ⊆ l')
    (hpairs : ∀ a b, [a, b].Sublist l' → b ∈ l → [a, b].Sublist l) : l <+: l' := by
  induction l' generalizing l with
  | nil =>
    have hnil : l = [] := List.subset_nil.1 hsub
    exact hnil ▸ List.nil_prefix
  | cons x xs ih =>
    cases l with
    | nil => exact List.nil_prefix
    | cons y ys =>
      obtain ⟨hy, hys⟩ := List.nodup_cons.1 hl
      obtain ⟨hx, hxs⟩ := List.nodup_cons.1 hl'
      have hfirst : y = x := by
        by_contra hne
        have hmem : y ∈ xs := by
          rcases List.mem_cons.1 (hsub List.mem_cons_self) with h | h
          · exact absurd h hne
          · exact h
        have hpair := hpairs x y (List.cons_sublist_cons.2 (List.singleton_sublist.2 hmem))
          List.mem_cons_self
        rcases List.cons_sublist_cons'.1 hpair with h | h
        · exact hy (h.subset (by simp))
        · exact hne h.1.symm
      subst hfirst
      refine List.prefix_cons_inj y |>.2 (ih hys hxs ?_ ?_)
      · intro z hz
        rcases List.mem_cons.1 (hsub (List.mem_cons_of_mem y hz)) with h | h
        · exact absurd (h ▸ hz) hy
        · exact h
      · intro a b hpair hb
        rcases List.cons_sublist_cons'.1
          (hpairs a b (hpair.cons y) (List.mem_cons_of_mem y hb)) with h | h
        · exact h
        · exact absurd (h.1 ▸ hpair.subset List.mem_cons_self) hx

end Pairs

/-! ## Sound mailboxes -/

/-- What is true of a mailbox at every moment. -/
structure Sound (m : Mailbox) : Prop where
  /-- Arrivals are numbered in their order. -/
  tickets : m.arrived.map (·.ticket) = List.range m.nextTicket
  /-- Every event that has arrived is in one place. -/
  places : (m.handled ++ m.queue ++ m.waiting).Perm m.arrived
  /-- The events put off are handled in the order of their arrival. -/
  inOrder : m.arrived.filter (·.isDeferred) = m.handled.filter (·.isDeferred) ++ m.queue
  /-- An event that waits was not put off. -/
  direct : ∀ d ∈ m.waiting, d.isDeferred = false
  /-- No event waits while the view is free. -/
  free : m.isBusy = false → m.waiting = []
  /-- An event still to be handled arrived after all those handled that were not put off. -/
  afterDirect : ∀ e ∈ m.queue ++ m.waiting, ∀ d ∈ m.handled, d.isDeferred = false →
    [.handled d, .arrived e].Sublist m.history
  /-- An event handled comes behind an earlier one that was put off, and behind one that had been
  handled when it arrived, but not behind any other. -/
  overtaking : ∀ d ∈ m.arrived, ∀ e ∈ m.handled, d.ticket < e.ticket →
    ([d, e].Sublist m.handled ↔ d.isDeferred ∨ [.handled d, .arrived e].Sublist m.history)

theorem mem_handled {m : Mailbox} {d : Delivery} : d ∈ m.handled ↔ .handled d ∈ m.history := by
  rw [handled, List.mem_filterMap]
  constructor
  · rintro ⟨note, hnote, h⟩
    cases note with
    | arrived d' => exact absurd h (by simp [Note.handled?])
    | handled d' =>
      obtain rfl := Option.some.inj h
      exact hnote
  · intro h
    exact ⟨_, h, rfl⟩

theorem sound_empty : Sound {} where
  tickets := rfl
  places := .refl []
  inOrder := rfl
  direct := by simp
  free := fun _ => rfl
  afterDirect := by simp [queue]
  overtaking := by simp [arrived]

namespace Sound

variable {m : Mailbox}

theorem ticket_lt (h : m.Sound) {d : Delivery} (hd : d ∈ m.arrived) : d.ticket < m.nextTicket := by
  have hmem : d.ticket ∈ m.arrived.map (·.ticket) := List.mem_map_of_mem hd
  rw [h.tickets] at hmem
  exact List.mem_range.1 hmem

theorem pairwise_arrived (h : m.Sound) : m.arrived.Pairwise (·.ticket < ·.ticket) := by
  have hrange : (m.arrived.map (·.ticket)).Pairwise (· < ·) := by
    rw [h.tickets]
    exact List.pairwise_lt_range
  exact List.pairwise_map.1 hrange

theorem nodup_arrived (h : m.Sound) : m.arrived.Nodup := by
  refine List.Pairwise.imp ?_ h.pairwise_arrived
  intro d e hlt heq
  rw [heq] at hlt
  exact Nat.lt_irrefl _ hlt

/-- Every event is in one place only. -/
theorem nodup_places (h : m.Sound) : (m.handled ++ m.queue ++ m.waiting).Nodup :=
  h.places.nodup_iff.2 h.nodup_arrived

theorem mem_arrived_of_handled (h : m.Sound) {d : Delivery} (hd : d ∈ m.handled) :
    d ∈ m.arrived :=
  h.places.mem_iff.1 (List.mem_append_left _ (List.mem_append_left _ hd))

/-- The mailbox stays sound if neither the history nor what is left changes. -/
theorem congr {m' : Mailbox} (h : m.Sound) (hhistory : m'.history = m.history)
    (hticket : m'.nextTicket = m.nextTicket) (hqueue : m'.queue = m.queue)
    (hwaiting : m'.waiting = m.waiting) (hfree : m'.isBusy = false → m.waiting = []) :
    m'.Sound := by
  have harrived : m'.arrived = m.arrived := by rw [arrived, hhistory, arrived]
  have hhandled : m'.handled = m.handled := by rw [handled, hhistory, handled]
  constructor
  · rw [harrived, hticket, h.tickets]
  · rw [harrived, hhandled, hqueue, hwaiting]
    exact h.places
  · rw [harrived, hhandled, hqueue, h.inOrder]
  · rw [hwaiting]
    exact h.direct
  · rw [hwaiting]
    exact hfree
  · rw [hqueue, hwaiting, hhandled, hhistory]
    exact h.afterDirect
  · rw [harrived, hhandled, hhistory]
    exact h.overtaking

/-! ## Arrivals -/

theorem tickets_arrive (h : m.Sound) {d : Delivery} (hd : d.ticket = m.nextTicket) :
    (m.arrive d).arrived.map (·.ticket) = List.range (m.nextTicket + 1) := by
  rw [arrived_arrive, List.map_append, h.tickets, List.range_succ, List.map_singleton, hd]

/-- An arrival is behind everything handled before, and changes nothing for the other events. -/
theorem afterDirect_arrive (h : m.Sound) (d : Delivery) :
    ∀ e ∈ m.queue ++ m.waiting ++ [d], ∀ d' ∈ m.handled, d'.isDeferred = false →
      [.handled d', .arrived e].Sublist (m.arrive d).history := by
  intro e he d' hd' hdirect
  rw [arrive, pair_sublist_concat]
  rcases List.mem_append.1 he with he | he
  · exact Or.inl (h.afterDirect e he d' hd' hdirect)
  · rw [List.mem_singleton.1 he]
    exact Or.inr ⟨mem_handled.1 hd', rfl⟩

theorem overtaking_arrive (h : m.Sound) {d : Delivery} (hd : d.ticket = m.nextTicket) :
    ∀ d' ∈ (m.arrive d).arrived, ∀ e ∈ (m.arrive d).handled, d'.ticket < e.ticket →
      ([d', e].Sublist (m.arrive d).handled ↔
        d'.isDeferred ∨ [.handled d', .arrived e].Sublist (m.arrive d).history) := by
  intro d' hd' e he hlt
  rw [handled_arrive] at he
  have hbound := h.ticket_lt (h.mem_arrived_of_handled he)
  have hne : e ≠ d := by
    rintro rfl
    omega
  rw [arrived_arrive] at hd'
  rcases List.mem_append.1 hd' with hd' | hd'
  · rw [handled_arrive, h.overtaking d' hd' e he hlt, arrive, pair_sublist_concat]
    simp [hne]
  · rw [List.mem_singleton.1 hd'] at hlt
    omega

theorem receive (h : m.Sound) (event : Event) (hbusy : m.isBusy = false) :
    Sound { m.arrive ⟨m.nextTicket, event, false⟩ with
      waiting := [⟨m.nextTicket, event, false⟩], isBusy := true, replays := m.replays + 1 } := by
  have hwaiting := h.free hbusy
  have hplaces := h.places.append_right [⟨m.nextTicket, event, false⟩]
  have hafter := h.afterDirect_arrive ⟨m.nextTicket, event, false⟩
  rw [hwaiting, List.append_nil] at hplaces hafter
  constructor
  · exact h.tickets_arrive rfl
  · show ((m.arrive _).handled ++ m.queue ++ _).Perm (m.arrive _).arrived
    rw [handled_arrive, arrived_arrive]
    exact hplaces
  · show (m.arrive _).arrived.filter _ = (m.arrive _).handled.filter _ ++ m.queue
    rw [arrived_arrive, handled_arrive, List.filter_append, h.inOrder]
    simp
  · simp
  · simp
  · intro e he d' hd' hdirect
    exact hafter e he d' (handled_arrive m _ ▸ hd') hdirect
  · exact h.overtaking_arrive rfl

theorem putOff (h : m.Sound) (event : Event) (hbusy : m.isBusy = true) :
    Sound { m.arrive ⟨m.nextTicket, event, true⟩ with
      deferred := m.deferred ++ [⟨m.nextTicket, event, true⟩] } := by
  have hqueue : ∀ d, m.batch ++ (m.deferred ++ [d]) = m.queue ++ [d] := by
    intro d
    rw [queue, List.append_assoc]
  constructor
  · exact h.tickets_arrive rfl
  · show ((m.arrive _).handled ++ (m.batch ++ (m.deferred ++ _)) ++ m.waiting).Perm
      (m.arrive _).arrived
    rw [handled_arrive, arrived_arrive, hqueue, ← List.append_assoc, List.append_assoc]
    refine (List.Perm.append_left _ List.perm_append_comm).trans ?_
    rw [← List.append_assoc]
    exact h.places.append_right _
  · show (m.arrive _).arrived.filter _ =
      (m.arrive _).handled.filter _ ++ (m.batch ++ (m.deferred ++ _))
    rw [arrived_arrive, handled_arrive, hqueue, List.filter_append, h.inOrder, List.append_assoc]
    simp
  · exact h.direct
  · intro hfree
    exact absurd (hbusy.symm.trans hfree) (by simp)
  · intro e he d' hd' hdirect
    have hmem : e ∈ m.batch ++ (m.deferred ++ [⟨m.nextTicket, event, true⟩]) ++ m.waiting := he
    rw [hqueue] at hmem
    refine h.afterDirect_arrive _ e ?_ d' (handled_arrive m _ ▸ hd') hdirect
    simp only [List.mem_append] at hmem ⊢
    rcases hmem with (hmem | hmem) | hmem
    · exact Or.inl (Or.inl hmem)
    · exact Or.inr hmem
    · exact Or.inl (Or.inr hmem)
  · exact h.overtaking_arrive rfl

/-! ## Handling -/

/-- Handling an event leaves everything before it in order. -/
theorem overtaking_handle (h : m.Sound) {x : Delivery} (hx : x ∈ m.queue ++ m.waiting)
    (hearlier : ∀ d ∈ m.arrived, d.isDeferred → d.ticket < x.ticket → d ∈ m.handled) :
    ∀ d ∈ (m.handle x).arrived, ∀ e ∈ (m.handle x).handled, d.ticket < e.ticket →
      ([d, e].Sublist (m.handle x).handled ↔
        d.isDeferred ∨ [.handled d, .arrived e].Sublist (m.handle x).history) := by
  have hnot : x ∉ m.handled := by
    intro hmem
    have hdisjoint := h.nodup_places
    rw [List.append_assoc] at hdisjoint
    exact (List.nodup_append.1 hdisjoint).2.2 x hmem x hx rfl
  intro d hd e he hlt
  rw [arrived_handle] at hd
  rw [handled_handle] at he
  have hhistory : [.handled d, .arrived e].Sublist (m.handle x).history ↔
      [.handled d, .arrived e].Sublist m.history := by
    rw [handle, pair_sublist_concat]
    simp
  rw [hhistory, handled_handle, pair_sublist_concat]
  rcases List.mem_append.1 he with he | he
  · have hne : e ≠ x := fun heq => hnot (heq ▸ he)
    rw [h.overtaking d hd e he hlt]
    simp [hne]
  · obtain rfl := List.mem_singleton.1 he
    have hpair : ¬ [d, e].Sublist m.handled := fun hsub => hnot (hsub.subset (by simp))
    constructor
    · rintro (hsub | ⟨hmem, -⟩)
      · exact absurd hsub hpair
      · by_cases hdeferred : d.isDeferred
        · exact Or.inl hdeferred
        · exact Or.inr (h.afterDirect e hx d hmem (by simpa using hdeferred))
    · rintro (hdeferred | hsub)
      · exact Or.inr ⟨hearlier d hd hdeferred hlt, rfl⟩
      · exact Or.inr ⟨mem_handled.2 (hsub.subset (by simp)), rfl⟩

theorem handleNext (h : m.Sound) {x : Delivery} {rest : List Delivery}
    (hbatch : m.batch = x :: rest) : Sound { m.handle x with batch := rest } := by
  have hqueue : m.queue = x :: (rest ++ m.deferred) := by rw [queue, hbatch, List.cons_append]
  have hinOrder := h.inOrder
  rw [hqueue] at hinOrder
  have hdeferred : x.isDeferred = true := by
    have hmem : x ∈ m.arrived.filter (·.isDeferred) := by
      rw [hinOrder]
      simp
    exact (List.mem_filter.1 hmem).2
  have hrest : ∀ e ∈ rest ++ m.deferred ++ m.waiting, e ∈ m.queue ++ m.waiting := by
    intro e he
    rw [hqueue, List.cons_append]
    exact List.mem_cons_of_mem _ he
  constructor
  · show (m.handle x).arrived.map _ = _
    rw [arrived_handle]
    exact h.tickets
  · show ((m.handle x).handled ++ (rest ++ m.deferred) ++ m.waiting).Perm (m.handle x).arrived
    rw [handled_handle, arrived_handle, List.append_assoc m.handled, List.singleton_append,
      ← hqueue]
    exact h.places
  · show (m.handle x).arrived.filter _ = (m.handle x).handled.filter _ ++ (rest ++ m.deferred)
    rw [arrived_handle, handled_handle, List.filter_append, hinOrder]
    simp [hdeferred]
  · exact h.direct
  · exact h.free
  · intro e he d hd hdirect
    have hmem : d ∈ m.handled ++ [x] := handled_handle m x ▸ hd
    have hold : d ∈ m.handled := by
      rcases List.mem_append.1 hmem with hmem | hmem
      · exact hmem
      · rw [List.mem_singleton.1 hmem, hdeferred] at hdirect
        exact absurd hdirect (by simp)
    exact pair_sublist_concat.2 (Or.inl (h.afterDirect e (hrest e he) d hold hdirect))
  · refine h.overtaking_handle (by simp [hqueue]) ?_
    intro d hd hput hlt
    have hsorted := h.pairwise_arrived.sublist (List.filter_sublist (p := (·.isDeferred)))
    have hmem := List.mem_filter.2 ⟨hd, hput⟩
    rw [hinOrder] at hsorted hmem
    rcases List.mem_append.1 hmem with hmem | hmem
    · exact (List.mem_filter.1 hmem).1
    · -- nothing that is left is earlier than the first of the batch
      have hfirst := (List.pairwise_cons.1 (List.pairwise_append.1 hsorted).2.1).1
      rcases List.mem_cons.1 hmem with heq | hmem
      · rw [heq] at hlt
        exact absurd hlt (Nat.lt_irrefl _)
      · have hgt := hfirst d hmem
        omega

theorem handleWaiting (h : m.Sound) {x : Delivery} (hwaiting : m.waiting = [x])
    (hqueue : m.queue = []) : Sound { m.handle x with waiting := [] } := by
  have hdirect : x.isDeferred = false := h.direct x (by simp [hwaiting])
  have hinOrder := h.inOrder
  rw [hqueue, List.append_nil] at hinOrder
  constructor
  · show (m.handle x).arrived.map _ = _
    rw [arrived_handle]
    exact h.tickets
  · show ((m.handle x).handled ++ m.queue ++ []).Perm (m.handle x).arrived
    have hplaces := h.places
    rw [hwaiting, hqueue, List.append_nil] at hplaces
    rw [handled_handle, arrived_handle, hqueue, List.append_nil, List.append_nil]
    exact hplaces
  · show (m.handle x).arrived.filter _ = (m.handle x).handled.filter _ ++ m.queue
    rw [arrived_handle, handled_handle, List.filter_append, hinOrder, hqueue]
    simp [hdirect]
  · simp
  · simp
  · intro e he
    have hnone : e ∈ m.queue ++ [] := he
    simp [hqueue] at hnone
  · refine h.overtaking_handle (by simp [hwaiting]) ?_
    intro d hd hput _
    have hmem := List.mem_filter.2 ⟨hd, hput⟩
    rw [hinOrder] at hmem
    exact (List.mem_filter.1 hmem).1

theorem nodup_handled (h : m.Sound) : m.handled.Nodup := by
  have hnodup := h.nodup_places
  rw [List.append_assoc] at hnodup
  exact (List.nodup_append.1 hnodup).1

/-- Of two events that have reached the view, the later one is handled behind the earlier one
exactly if the earlier one was put off, or had been handled when the later one arrived. -/
theorem pair_sublist_handled_iff (h : m.Sound) {d e : Delivery}
    (harrived : [d, e].Sublist m.arrived) (hhandled : e ∈ m.handled) :
    [d, e].Sublist m.handled ↔
      d.isDeferred = true ∨ [.handled d, .arrived e].Sublist m.history := by
  have hlt : d.ticket < e.ticket := by
    have hpair := h.pairwise_arrived.sublist harrived
    simpa using hpair
  exact h.overtaking d (harrived.subset List.mem_cons_self) e hhandled hlt

/-- The events are handled in the order of their arrival exactly if none of them arrived, and was
handled, while an earlier one waited that had found the view free. -/
theorem handled_isPrefix_iff (h : m.Sound) :
    m.handled <+: m.arrived ↔
      ∀ d e, [d, e].Sublist m.arrived → e ∈ m.handled →
        d.isDeferred = true ∨ [.handled d, .arrived e].Sublist m.history := by
  constructor
  · intro hinit d e harrived hhandled
    rw [← h.pair_sublist_handled_iff harrived hhandled]
    exact pair_sublist_of_isPrefix hinit h.nodup_arrived harrived hhandled
  · intro hpairs
    refine isPrefix_of_pairs h.nodup_handled h.nodup_arrived ?_ ?_
    · intro d hd
      exact h.mem_arrived_of_handled hd
    · intro d e harrived hhandled
      exact (h.pair_sublist_handled_iff harrived hhandled).2 (hpairs d e harrived hhandled)

/-- Every step keeps the mailbox sound. -/
theorem step {m' : Mailbox} (h : m.Sound) (hstep : Step m m') : m'.Sound := by
  cases hstep with
  | stay => exact h
  | begin n hbusy => exact h.congr rfl rfl rfl rfl (by simp)
  | receive event hbusy => exact h.receive event hbusy
  | putOff event hbusy => exact h.putOff event hbusy
  | take hbatch => exact h.congr rfl rfl (by simp [queue, hbatch]) rfl h.free
  | handleNext hbatch => exact h.handleNext hbatch
  | handleWaiting hwaiting hqueue => exact h.handleWaiting hwaiting hqueue
  | replayed => exact h.congr rfl rfl rfl rfl h.free
  | finish hwaiting => exact h.congr rfl rfl rfl rfl fun _ => hwaiting

end Sound

end Mailbox

end DeviceStatus.Device
