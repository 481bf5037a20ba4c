import DeviceStatus.Callbacks.Session
import Mathlib.Data.List.Basic

/-!
# What is internal comes to an end

Between the turns of the host and the callbacks a session goes on by itself: subscriptions end,
objects go away, and these take further subscriptions along. `Session.workload` counts what may
still have to be done, and every tick takes something away (`workload_tick_lt`), so the next turn
comes, unless the session fails before.
-/

namespace DeviceStatus.Callbacks

variable {β ρ α : Type}

namespace Session

/-- What is left to be done without anybody acting: a step for each internal frame, and two for
each registration and each subscription that may still have to end. -/
def workload (s : Session β ρ α) : Nat :=
  s.stack.countP (!·.isTurn) + 2 * (s.registry.entries.length + s.owned.length)

theorem countP_internal {frames : List (Frame β ρ α)} (h : ∀ f ∈ frames, f.isTurn = false) :
    frames.countP (!·.isTurn) = frames.length := by
  rw [List.countP_eq_length]
  intro f hf
  simp [h f hf]

theorem workload_settleList_le (s : Session β ρ α) : s.settleList.workload ≤ s.workload := by
  unfold settleList
  split
  · have hsweeps : ((s.registry.entries.map (·.callback.object)).map
        (Frame.sweep : Nat → Frame β ρ α)).countP (!·.isTurn) = s.registry.entries.length := by
      rw [countP_internal (by simp [Frame.isTurn]), List.length_map, List.length_map]
    simp only [workload, List.countP_append, hsweeps, List.length_nil]
    omega
  · exact Nat.le_refl _

theorem workload_removeEntry_le (s : Session β ρ α) (id : Nat) :
    (s.removeEntry id).workload ≤ s.workload := by
  unfold removeEntry
  split
  · exact Nat.le_refl _
  split
  · exact Nat.le_refl _
  split
  · next entry hfind =>
    have hmem : entry ∈ s.registry.entries := List.mem_of_find?_eq_some hfind
    have hid : entry.id = id := by simpa using List.find?_some hfind
    have hfewer : (s.registry.remove id).entries.length < s.registry.entries.length := by
      refine List.length_filter_lt_length_iff_exists.2 ⟨entry, hmem, ?_⟩
      simp [hid]
    have hframes : (.sweep entry.callback.object :: .changing :: s.stack).countP (!·.isTurn) =
        s.stack.countP (!·.isTurn) + 2 := by
      simp [Frame.isTurn]
    simp only [workload, push, List.cons_append, List.nil_append, hframes]
    omega
  · exact Nat.le_refl _

theorem workload_endObject_le (s : Session β ρ α) (object : Nat) :
    (s.endObject object).workload ≤ s.workload := by
  have hsplit := List.length_eq_length_filter_add (l := s.owned) fun o => o.1 = object
  have hfinish : ((s.owned.filter (·.1 = object)).map fun o =>
      (Frame.finish o.2 : Frame β ρ α)).countP (!·.isTurn) =
        (s.owned.filter (·.1 = object)).length := by
    rw [countP_internal, List.length_map]
    intro f hf
    obtain ⟨o, -, rfl⟩ := List.mem_map.1 hf
    rfl
  simp only [workload, endObject, List.countP_append, hfinish, ne_eq, decide_not]
  omega

/-- A tick that is not waited for takes some of the work away. -/
theorem workload_tick_lt {s : Session β ρ α} (hturn : s.isTurn = false) :
    s.tick.workload < s.workload := by
  cases hstack : s.stack with
  | nil => simp [isTurn, hstack] at hturn
  | cons f below =>
    have hf : f.isTurn = false := by simpa [isTurn, hstack] using hturn
    have hpop : ({ s with stack := below } : Session β ρ α).workload < s.workload := by
      simp only [workload, hstack, List.countP_cons, hf]
      simp
    cases f with
    | call | releasing => simp [Frame.isTurn] at hf
    | deliver dispatch value rest =>
      cases rest with
      | nil =>
        simp only [tick, hstack]
        exact Nat.lt_of_le_of_lt (workload_settleList_le _) hpop
      | cons entry rest =>
        simp only [tick, hstack]
        refine Nat.lt_of_le_of_lt (Nat.le_of_eq ?_) hpop
        simp [workload, note, Frame.isTurn]
    | finish subscription =>
      simp only [tick, hstack]
      split
      · exact hpop
      · exact Nat.lt_of_le_of_lt (workload_removeEntry_le _ _) hpop
      · refine Nat.lt_of_le_of_lt (Nat.le_of_eq ?_) hpop
        simp [workload, note, push, Frame.isTurn]
    | sweep object =>
      simp only [tick, hstack]
      split
      · exact hpop
      · exact Nat.lt_of_le_of_lt (workload_endObject_le _ object) hpop
    | changing =>
      simp only [tick, hstack]
      exact Nat.lt_of_le_of_lt (workload_settleList_le _) hpop
    | answer a =>
      simp only [tick, hstack]
      exact hpop

/-- Somebody is to act sooner or later, unless the session fails. -/
theorem exists_turn (s : Session β ρ α) :
    ∃ n, (s.run (.replicate n .tick)).isTurn = true ∨
      (s.run (.replicate n .tick)).hasFailed = true := by
  induction hwork : s.workload using Nat.strongRecOn generalizing s with
  | ind work ih =>
    cases hturn : s.isTurn with
    | true => exact ⟨0, .inl hturn⟩
    | false =>
      cases hfailed : s.hasFailed with
      | true => exact ⟨0, .inr hfailed⟩
      | false =>
        have htick : s.feed .tick = s.tick := by simp [feed, hfailed]
        obtain ⟨n, h⟩ := ih _ (hwork ▸ workload_tick_lt hturn) s.tick rfl
        refine ⟨n + 1, ?_⟩
        simpa [List.replicate_succ, run, htick] using h

end Session

end DeviceStatus.Callbacks
