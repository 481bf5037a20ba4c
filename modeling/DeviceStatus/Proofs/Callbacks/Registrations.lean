import DeviceStatus.Proofs.Callbacks.Changes
import DeviceStatus.Proofs.Callbacks.Subscriptions

/-!
# What is registered

The list has a callback as long as its subscription is neither released nor let go of. That the list
and the subscriptions agree is known of every session that has not failed (`sound_run`); here it is
shown which sessions do not fail. A change of the list is disturbed only by subscriptions that an
object takes along, so as long as no object owns any all changes come to their end (`Calm`).
-/

namespace DeviceStatus.Callbacks

variable {β ρ α : Type}

/-! ## Where objects own nothing -/

/-- No change of the list is disturbed, as there is no object that owns a subscription. -/
structure Calm (s : Session β ρ α) : Prop where
  /-- No change is under way, or one that comes to its end. -/
  undisturbed : Undisturbed s
  /-- No object owns a subscription. -/
  owned : s.owned = []

namespace Calm

variable {s : Session β ρ α}

theorem unfailed (h : Calm s) : s.hasFailed = false := h.undisturbed.unfailed

theorem feed (h : Calm s) {i : Input β ρ α} (hi : ∀ name object, i ≠ .act (.give name object)) :
    Calm (s.feed i) where
  undisturbed := h.undisturbed.feed (takesOutOwner_of_owned_eq_nil h.owned) i
  owned := List.eq_nil_of_subset_nil (h.owned ▸ feed_owned_subset s hi)

theorem run (h : Calm s) {inputs : List (Input β ρ α)}
    (hinputs : ∀ name object, Input.act (.give name object) ∉ inputs) : Calm (s.run inputs) := by
  induction inputs generalizing s with
  | nil => exact h
  | cons i inputs ih =>
    refine ih (h.feed fun name object hi => ?_) fun name object hmem => ?_
    · exact hinputs name object (hi ▸ List.mem_cons_self ..)
    · exact hinputs name object (List.mem_cons_of_mem _ hmem)

end Calm

theorem calm_empty : Calm ({} : Session β ρ α) :=
  ⟨undisturbed_empty, rfl⟩

/-! ## All registrations -/

/-- A callback is registered as long as its subscription is neither released nor let go of. At
every moment of every run the list, as long as it exists, consists of the registrations whose
subscriptions have not ended, in the order in which they were made, with increasing numbers below
the next one. The end of a subscription takes exactly the registration out that this subscription
holds, and does nothing to a list that has ended. Every subscription that was made is held or has
ended, once; one that is released or let go of ends in the next step, before anybody acts again.

A session has failed only if a subscription was handed over to an object: where objects own nothing,
none of this has an exception. -/
theorem registered_while_subscribed (inputs : List (Input β ρ α)) :
    let s := ({} : Session β ρ α).run inputs
    (s.registry.WellNumbered ∧ (s.isHeld = true → s.isAlive = true) ∧
      (s.isAlive = true → s.hasFailed = false → s.registry.entries = s.ledger.standing)) ∧
    (∀ i n id, (s.feed i).ledger.ended = (n, .entry id) :: s.ledger.ended →
      if s.isAlive then
        (s.feed i).hasFailed = true ∨ ∃ e front back, (e, n) ∈ s.ledger.registrations ∧
          e.id = id ∧ s.registry.entries = front ++ e :: back ∧
          (s.feed i).registry = { s.registry with entries := front ++ back }
      else (s.feed i).registry = s.registry) ∧
    s.ledger.subscriptions.map Prod.fst = Multiset.range s.nextSubscription ∧
    (∀ name subscription a, s.isTurn = true → s.hasFailed = false →
      s.shelf.lookup name = some subscription → a = .release name ∨ a = .drop name →
      ∃ x, subscription.release = some x ∧ ∀ during,
        let t := (s.feed (.act a)).run during
        t.isTurn = true ∨ .tick ∈ during → (subscription.number, x) ∈ t.ledger.ended) ∧
    ((∀ name object, .act (.give name object) ∉ inputs) → s.hasFailed = false) := by
  intro s
  have htidy : Tidy s := Tidy.empty.run inputs
  have hsound : s.ledger.Sound := sound_run inputs
  refine ⟨⟨hsound.wellNumbered, htidy.alive, hsound.entries⟩, fun i n id hended => ?_,
    hsound.numbers, fun name subscription a hturn hfailed hlookup ha => ?_, fun hinputs => ?_⟩
  · exact hsound.step_of_ended (Session.step_feed htidy i) hended
  · exact exists_mem_ended htidy hturn hfailed hlookup ha
  · exact (calm_empty.run hinputs).unfailed

/-- One callback is registered twice, and another one in between. -/
def sameTwice : List (Input Unit Empty Unit) :=
  [.act (.register "a" ⟨0, ()⟩), .tick, .act (.register "b" ⟨1, ()⟩), .tick,
    .act (.register "c" ⟨0, ()⟩), .tick]

/-- The list is let go of, and then the first subscription. -/
def endsLate : List (Input Unit Empty Unit) :=
  sameTwice ++ [.act .dropList, .tick, .tick, .tick, .tick, .act (.drop "a")]

/-- Of two registrations of one callback the later one ends, and a subscription that outlives the
list does nothing to it. -/
theorem registered_while_subscribed_twice :
    let s := ({} : Session Unit Empty Unit).run sameTwice
    let t := (s.feed (.act (.release "c"))).run (.replicate 5 .tick)
    let u := ({} : Session Unit Empty Unit).run endsLate
    (s.registry.entries = s.ledger.standing ∧ s.registry.size = 3) ∧
      (t.isTurn = true ∧ (2, .entry 2) ∈ t.ledger.ended ∧
        t.registry.entries = [⟨0, ⟨0, ()⟩⟩, ⟨1, ⟨1, ()⟩⟩]) ∧
      u.isAlive = false ∧ (u.feed .tick).ledger.ended = [(0, .entry 0)] ∧
        (u.feed .tick).registry = u.registry := by
  intro s t u
  obtain ⟨⟨-, -, hentries⟩, -, -, hrelease, hfailed⟩ := registered_while_subscribed sameTwice
  obtain ⟨x, hx, hended⟩ := hrelease "c" ⟨2, some (.entry 2)⟩ (.release "c") (by decide)
    (by decide) (by decide) (.inl rfl)
  obtain rfl : x = .entry 2 := (Option.some.inj hx).symm
  obtain ⟨-, hlate, -⟩ := registered_while_subscribed endsLate
  have hturn : t.isTurn = true := by decide
  have hdead : u.isAlive = false := by decide
  have hnow : (u.feed .tick).ledger.ended = [(0, .entry 0)] := by decide
  have hsame : if u.isAlive then _ else (u.feed .tick).registry = u.registry :=
    hlate .tick 0 0 hnow
  rw [if_neg (by simp [hdead])] at hsame
  exact ⟨⟨hentries (by decide) (hfailed (by simp [sameTwice])), by decide⟩,
    ⟨hturn, hended _ (.inl hturn), by decide⟩, hdead, hnow, hsame⟩

end DeviceStatus.Callbacks
