import DeviceStatus.Device.Surroundings
import DeviceStatus.Proofs.Device.Moves

/-!
# How events reach the view

Whatever the host, the listeners and the answerers do, no event that reaches the view is lost or
handled twice, and the events put off keep their order.

Events are not always handled in the order of their arrival. An event that finds the view free lets
in those put off before it, but those that arrive while it waits are let in as well, and so they
overtake it; this is the only way in which an event is overtaken.
-/

namespace DeviceStatus.Device

open Lockscreen

variable {ℓ : Type}

/-- Every event that has reached the view is in exactly one place: it has been handled, or it is
among the events put off, or it waits for these. The events put off are handled in the order in
which they were put off. When they have been let in, there are none left. -/
theorem every_event_in_one_place (locale : String) (inputs : List (Input ℓ)) :
    let s := (System.start locale).run inputs
    s.mailbox.arrived.Nodup ∧
      (∀ d, s.mailbox.handled.count d + s.mailbox.queue.count d + s.mailbox.waiting.count d =
        if d ∈ s.mailbox.arrived then 1 else 0) ∧
      s.mailbox.arrived.filter (·.isDeferred) =
        s.mailbox.handled.filter (·.isDeferred) ++ s.mailbox.queue ∧
      ∀ input, (s.feed input).mailbox.replays < s.mailbox.replays →
        (s.feed input).mailbox.queue = [] := by
  intro s
  obtain ⟨hshaped, hsound⟩ := shaped_run locale inputs
  refine ⟨hsound.nodup_arrived, ?_, hsound.inOrder, ?_⟩
  · intro d
    have hcount := hsound.places.count_eq d
    rw [List.count_append, List.count_append] at hcount
    rw [hcount, hsound.nodup_arrived.count]
  · intro input hreplays
    exact (hshaped.feed input).2.queue_eq_nil hreplays

/-- Of two events that have reached the view, the later one is handled behind the earlier one
exactly if the earlier one was put off, or had been handled when the later one arrived. So all
events are handled in the order of their arrival exactly if this is so for every two of them. -/
theorem handled_in_order_iff (locale : String) (inputs : List (Input ℓ)) :
    let m := ((System.start locale).run inputs).mailbox
    (∀ d e, [d, e].Sublist m.arrived → e ∈ m.handled →
      ([d, e].Sublist m.handled ↔
        d.isDeferred = true ∨ [Note.handled d, .arrived e].Sublist m.history)) ∧
    (m.handled <+: m.arrived ↔
      ∀ d e, [d, e].Sublist m.arrived → e ∈ m.handled →
        d.isDeferred = true ∨ [Note.handled d, .arrived e].Sublist m.history) := by
  intro m
  obtain ⟨-, hsound⟩ := shaped_run locale inputs
  refine ⟨?_, hsound.handled_isPrefix_iff⟩
  intro d e harrived hhandled
  exact hsound.pair_sublist_handled_iff harrived hhandled

/-! ## An event that is overtaken -/

/-- Work goes on without anyone acting. -/
def uneventful (n : Nat) : List (Input Empty) :=
  (List.replicate n [.tick, .reply (Surroundings.answers { bestPattern := fun _ s => s })]).flatten

/-- Work goes on in surroundings, without anyone acting. -/
def Surroundings.uneventful (surroundings : Surroundings) (n : Nat) : List (Input ℓ) :=
  (List.replicate n [.tick, .reply surroundings.answers]).flatten

theorem Surroundings.eq_of_reply {surroundings : Surroundings} {n : Nat} {answers : Answers}
    (h : .reply answers ∈ surroundings.uneventful (ℓ := ℓ) n) : answers = surroundings.answers := by
  obtain ⟨inputs, hinputs, hmem⟩ := List.mem_flatten.1 h
  rw [List.eq_of_mem_replicate hinputs] at hmem
  simpa using hmem

/-- An event is put off while the view is at work. The next one finds the view free; while it waits
for the first, a third is put off. -/
def overtakingRun : List (Input Empty) :=
  .act .create :: uneventful 70 ++
    [.act (.attach "a"), .act (.perform .dozeTimeTick), .tick,
      .act (.change (.timeZone "First"))] ++ uneventful 20 ++
    [.act (.change (.timeZone "Second")), .tick, .tick, .tick, .tick, .tick, .tick,
      .act (.change (.timeZone "Third"))] ++ uneventful 20

/-- The first of these events. -/
def firstZone : Delivery := ⟨0, .timeZone "First", true⟩

/-- The event that finds the view free. -/
def secondZone : Delivery := ⟨1, .timeZone "Second", false⟩

/-- The event that arrives while the second one waits. -/
def thirdZone : Delivery := ⟨2, .timeZone "Third", true⟩

/-- The second event is overtaken by the third: it found the view free, and had not been handled
when the third arrived. -/
theorem handled_in_order_iff_overtaken :
    [secondZone, thirdZone].Sublist ((System.start "en").run overtakingRun).mailbox.arrived ∧
      thirdZone ∈ ((System.start "en").run overtakingRun).mailbox.handled ∧
      ¬ [secondZone, thirdZone].Sublist
        ((System.start "en").run overtakingRun).mailbox.handled := by
  have harrived :
      [secondZone, thirdZone].Sublist ((System.start "en").run overtakingRun).mailbox.arrived := by
    decide +kernel
  have hhandled : thirdZone ∈ ((System.start "en").run overtakingRun).mailbox.handled := by
    decide +kernel
  refine ⟨harrived, hhandled, ?_⟩
  rw [(handled_in_order_iff "en" overtakingRun).1 secondZone thirdZone harrived hhandled]
  decide +kernel

/-- So events are not always handled in the order of their arrival. -/
theorem not_handled_in_order_of_arrival :
    ¬ ∀ (locale : String) (inputs : List (Input Empty)),
      ((System.start locale).run inputs).mailbox.handled <+:
        ((System.start locale).run inputs).mailbox.arrived := by
  intro h
  have harrived : ((System.start "en").run overtakingRun).mailbox.arrived =
      [firstZone, secondZone, thirdZone] := by
    decide +kernel
  have hhandled : ((System.start "en").run overtakingRun).mailbox.handled =
      [firstZone, thirdZone, secondZone] := by
    decide +kernel
  have hprefix := h "en" overtakingRun
  rw [harrived, hhandled] at hprefix
  exact absurd hprefix (by decide)

end DeviceStatus.Device
