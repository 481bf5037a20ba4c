import DeviceStatus.Proofs.Callbacks.Owners

/-!
# Sessions that fail

When the list has the last reference to an object, the object goes away while the list is being
changed, and the registrations that it owns cannot end. So a session fails exactly after an owner
has been taken out of the list, three ticks later (`Doomed`), whatever else is tried meanwhile.
-/

namespace DeviceStatus.Callbacks

variable {β ρ α : Type}

/-- Whether what is internal goes on. -/
def Input.isTick : Input β ρ α → Bool
  | tick => true
  | _ => false

/-- The session fails with the tick that comes after `n - 1` others, whoever wants to act. -/
def Doomed : Nat → Session β ρ α → Prop
  | 0, s => s.hasFailed = true
  | n + 1, s => s.hasFailed = false ∧ s.isTurn = false ∧ Doomed n s.tick

section Doomed

variable {s : Session β ρ α}

theorem returned_of_not_isTurn (hturn : s.isTurn = false) : s.returned = s := by
  unfold Session.returned
  split
  · next hstack => simp [Session.isTurn, hstack, Frame.isTurn] at hturn
  · next hstack => simp [Session.isTurn, hstack, Frame.isTurn] at hturn
  · rfl

theorem Doomed.hasFailed_run {n : Nat} (h : Doomed n s) (inputs : List (Input β ρ α)) :
    (s.run inputs).hasFailed = true ↔ n ≤ inputs.countP Input.isTick := by
  induction inputs generalizing n s with
  | nil =>
    cases n with
    | zero => exact iff_of_true h (Nat.zero_le _)
    | succ n => simpa [Session.run] using h.1
  | cons i inputs ih =>
    cases n with
    | zero =>
      have hfailed : s.hasFailed = true := h
      have hsame : s.feed i = s := by cases i <;> simp [Session.feed, hfailed]
      have hstays : ((s.feed i).run inputs).hasFailed = true := by
        rw [hsame]
        exact (ih h).2 (Nat.zero_le _)
      exact iff_of_true hstays (Nat.zero_le _)
    | succ n =>
      have hdoomed := h
      obtain ⟨hfailed, hturn, hnext⟩ := h
      cases i with
      | tick =>
        have hfeed : s.feed .tick = s.tick := by simp [Session.feed, hfailed]
        rw [List.countP_cons_of_pos rfl, Nat.add_le_add_iff_right, ← ih hnext, ← hfeed]
        rfl
      | act a =>
        have hfeed : s.feed (.act a) = s := by simp [Session.feed, hturn]
        change ((s.feed _).run inputs).hasFailed = true ↔ _
        rw [hfeed, List.countP_cons_of_neg (by simp [Input.isTick]), ih hdoomed]
      | done =>
        have hfeed : s.feed .done = s := by
          simp [Session.feed, hfailed, returned_of_not_isTurn hturn]
        change ((s.feed _).run inputs).hasFailed = true ↔ _
        rw [hfeed, List.countP_cons_of_neg (by simp [Input.isTick]), ih hdoomed]

/-- A registration cannot end while the list is being changed. -/
theorem doomed_of_finish {subscription : Subscription ρ} {below : List (Frame β ρ α)}
    (hstack : s.stack = .finish subscription :: below)
    (hregistration : subscription.isRegistration = true)
    (hchanging : below.any Frame.isChange = true) (halive : s.isAlive = true)
    (hfailed : s.hasFailed = false) : Doomed 1 s := by
  refine ⟨hfailed, by simp [Session.isTurn, hstack, Frame.isTurn], ?_⟩
  obtain ⟨number, release⟩ := subscription
  rcases release with _ | ⟨id⟩ | label
  · simp [Subscription.isRegistration] at hregistration
  · simp [Doomed, Session.tick, hstack, Session.removeEntry, Session.note, halive,
      Session.isChanging, hchanging, Session.fail]
  · simp [Subscription.isRegistration] at hregistration

/-- An object that goes away during a change ends the registrations that it owns. -/
theorem doomed_of_sweep {object : Nat} {below : List (Frame β ρ α)}
    (hstack : s.stack = .sweep object :: .changing :: below)
    (hobject : s.mayLetGo object = false)
    (howned : ∀ o ∈ s.owned, o.2.isRegistration = true) (halive : s.isAlive = true)
    (hfailed : s.hasFailed = false) : Doomed 2 s := by
  refine ⟨hfailed, by simp [Session.isTurn, hstack, Frame.isTurn], ?_⟩
  obtain ⟨hgone, subscription, howner⟩ : s.refersTo object = false ∧
      ∃ subscription, (object, subscription) ∈ s.owned := by
    simpa [Session.mayLetGo] using hobject
  obtain ⟨o, more, hfilter⟩ : ∃ o more, s.owned.filter (·.1 = object) = o :: more :=
    List.exists_cons_of_ne_nil (List.ne_nil_of_mem (List.mem_filter.2 ⟨howner, by simp⟩))
  have ho : o ∈ s.owned := List.mem_of_mem_filter (hfilter ▸ List.mem_cons_self ..)
  have htick : s.tick =
      ({ s with stack := .changing :: below } : Session β ρ α).endObject object := by
    simp only [Session.tick, hstack]
    rw [if_neg (by simp [refersTo_pop hstack rfl, hgone])]
  have hfinish : s.tick.stack =
      .finish o.2 :: (more.map (fun o => .finish o.2) ++ .changing :: below) := by
    simp [htick, Session.endObject, hfilter]
  refine doomed_of_finish hfinish (howned o ho) ?_ ?_ ?_
  · simp [Frame.isChange]
  · simp [htick, Session.endObject, halive]
  · simp [htick, Session.endObject, hfailed]

theorem outgoing?_eq_some {entry : Entry (Callback β)} (h : s.outgoing? = some entry) :
    ∃ number below, s.stack = .finish ⟨number, some (.entry entry.id)⟩ :: below ∧
      s.isAlive = true ∧ s.registry.find? entry.id = some entry := by
  unfold Session.outgoing? at h
  split at h
  · next number id below hstack =>
    split at h
    · next halive =>
      obtain rfl : entry.id = id := by simpa using List.find?_some h
      exact ⟨number, below, hstack, halive, h⟩
    · simp at h
  · simp at h

theorem removeEntry_of_find? {entry : Entry (Callback β)} {id : Nat} (halive : s.isAlive = true)
    (hchanging : s.isChanging = false) (hfind : s.registry.find? id = some entry) :
    s.removeEntry id = ({ s with registry := s.registry.remove id } : Session β ρ α).push
      [.sweep entry.callback.object, .changing] := by
  simp [Session.removeEntry, halive, hchanging, hfind]

/-- To take out an owner is to fail. -/
theorem doomed_of_takesOutOwner (h : Undisturbed s)
    (howned : ∀ o ∈ s.owned, o.2.isRegistration = true) (hout : s.takesOutOwner = true) :
    Doomed 3 s := by
  obtain ⟨entry, hentry, hobject⟩ := (Option.any_eq_true _ _).1 hout
  obtain ⟨number, below, hstack, halive, hfind⟩ := outgoing?_eq_some hentry
  have hidle : Idle s := by
    cases h with
    | idle h => exact h
    | changing hstack' | sweeping hstack' => simp [hstack] at hstack'
  let t := ({ s with stack := below } : Session β ρ α).note (.released number (.entry entry.id))
  have hchanging : t.isChanging = false := (hidle.pop hstack).isChanging
  have htick : s.tick = ({ t with registry := s.registry.remove entry.id } : Session β ρ α).push
      [.sweep entry.callback.object, .changing] := by
    simp only [Session.tick, hstack]
    exact removeEntry_of_find? halive hchanging hfind
  refine ⟨h.unfailed, by simp [Session.isTurn, hstack, Frame.isTurn], ?_⟩
  rw [htick]
  refine doomed_of_sweep rfl ?_ howned halive h.unfailed
  simpa [Session.mayLetGo, Session.refersTo, Session.push, Session.note, t, hstack, Frame.objects]
    using hobject

/-- A session does not fail before it takes an owner out. -/
theorem exists_takesOutOwner (h : Undisturbed s) {inputs : List (Input β ρ α)}
    (hfailed : (s.run inputs).hasFailed = true) :
    ∃ before rest, inputs = before ++ rest ∧ (s.run before).hasFailed = false ∧
      (s.run before).takesOutOwner = true := by
  induction inputs generalizing s with
  | nil => exact absurd hfailed (by simp [Session.run, h.unfailed])
  | cons i inputs ih =>
    cases hout : s.takesOutOwner with
    | true => exact ⟨[], i :: inputs, rfl, h.unfailed, hout⟩
    | false =>
      obtain ⟨before, rest, rfl, hlater⟩ := ih (h.feed hout i) hfailed
      exact ⟨i :: before, rest, rfl, hlater⟩

/-- Where all subscriptions hold registrations, a session fails three ticks after it has taken an
owner out, and only then. -/
theorem hasFailed_run_iff (h : Undisturbed s) (hs : Orderly s) {inputs : List (Input β ρ α)}
    (hinputs : ∀ name label, .act (.own name label) ∉ inputs) :
    (s.run inputs).hasFailed = true ↔ ∃ before rest, inputs = before ++ rest ∧
      (s.run before).takesOutOwner = true ∧ 3 ≤ rest.countP Input.isTick := by
  induction inputs generalizing s with
  | nil => simp [Session.run, h.unfailed]
  | cons i inputs ih =>
    cases hout : s.takesOutOwner with
    | true =>
      -- The first owner that is taken out decides: a later one leaves fewer ticks.
      rw [(doomed_of_takesOutOwner h hs.owned hout).hasFailed_run]
      constructor
      · exact fun hticks => ⟨[], i :: inputs, rfl, hout, hticks⟩
      · rintro ⟨before, rest, hsplit, -, hticks⟩
        rw [hsplit]
        exact hticks.trans (List.sublist_append_right before rest).countP_le
    | false =>
      have hi : ∀ name label, i ≠ .act (.own name label) :=
        fun name label hi => hinputs name label (hi ▸ List.mem_cons_self ..)
      have hlater : ∀ name label, .act (.own name label) ∉ inputs :=
        fun name label hmem => hinputs name label (List.mem_cons_of_mem _ hmem)
      refine (ih (h.feed hout i) (hs.feed hi) hlater).trans ?_
      constructor
      · rintro ⟨before, rest, rfl, hlast, hticks⟩
        exact ⟨i :: before, rest, rfl, hlast, hticks⟩
      · rintro ⟨before, rest, hsplit, hlast, hticks⟩
        cases before with
        | nil => simp [Session.run, hout] at hlast
        | cons j before =>
          obtain ⟨rfl, rfl⟩ := List.cons.inj hsplit
          exact ⟨before, rest, rfl, hlast, hticks⟩

end Doomed

/-! ## All sessions -/

theorem active?_eq_some {subscription : Subscription ρ} {n : Nat} {x : Release ρ} :
    subscription.active? = some (n, x) ↔ subscription = ⟨n, some x⟩ := by
  obtain ⟨number, release⟩ := subscription
  cases release <;> simp [Subscription.active?]

/-- Where nothing is about to end, a subscription is on the shelf or belongs to an object. -/
theorem exists_holder {s : Session β ρ α} (hstack : ∀ f ∈ s.stack, f.isEnding = false) {n : Nat}
    {x : Release ρ} (h : (n, x) ∈ s.held) :
    (∃ name, (name, ⟨n, some x⟩) ∈ s.shelf) ∨ ∃ object, (object, ⟨n, some x⟩) ∈ s.owned := by
  simp only [Session.held, Multiset.mem_add, Multiset.mem_coe, List.mem_filterMap,
    active?_eq_some] at h
  rcases h with (⟨⟨name, _⟩, hp, rfl⟩ | ⟨⟨object, _⟩, ho, rfl⟩) | ⟨f, hf, hending⟩
  · exact .inl ⟨name, hp⟩
  · exact .inr ⟨object, ho⟩
  · have hnot := hstack f hf
    cases f <;> simp [Frame.ending?, Frame.isEnding] at hending hnot

/-- A session fails only if the end of a registration takes the last reference to an object out of
the list and the object owns a subscription. If the host makes no subscriptions by itself, that is
also enough: the registrations of the object reach for the list while it is being changed, and this
fails with the third tick, whatever is tried meanwhile.

A session that has not failed has let go of everything when somebody is to act: who is registered
still has a subscription that the host keeps, or that an object owns to which somebody refers. -/
theorem failed_iff_owner_taken_out (inputs : List (Input β ρ α)) :
    let s := ({} : Session β ρ α).run inputs
    (s.hasFailed = true → ∃ before rest, inputs = before ++ rest ∧
      (({} : Session β ρ α).run before).hasFailed = false ∧
        (({} : Session β ρ α).run before).takesOutOwner = true) ∧
    ((∀ name label, .act (.own name label) ∉ inputs) →
      (s.hasFailed = true ↔ ∃ before rest, inputs = before ++ rest ∧
        (({} : Session β ρ α).run before).takesOutOwner = true ∧
          3 ≤ rest.countP Input.isTick) ∧
      (s.hasFailed = false → s.isTurn = true → s.isAlive = true →
        ∀ e ∈ s.registry.entries, ∃ n,
          (∃ name, (name, ⟨n, some (.entry e.id)⟩) ∈ s.shelf) ∨
            ∃ object, (object, ⟨n, some (.entry e.id)⟩) ∈ s.owned ∧
              s.refersTo object = true)) := by
  intro s
  refine ⟨exists_takesOutOwner undisturbed_empty, fun hinputs => ⟨?_, ?_⟩⟩
  · exact hasFailed_run_iff undisturbed_empty .empty hinputs
  intro hfailed hturn halive e he
  have hsound : s.ledger.Sound := sound_run inputs
  have hstack : ∀ f ∈ s.stack, f.isEnding = false :=
    (Orderly.empty.run hinputs).not_isEnding hturn
  have hentries : s.registry.entries = s.ledger.standing := hsound.entries halive hfailed
  rw [hentries] at he
  obtain ⟨n, hn, hlive⟩ := Ledger.mem_standing.1 he
  have hheld : (n, .entry e.id) ∈ s.held := by
    refine (Multiset.mem_add.1 ((hsound.matched n e.id).2 ⟨e, hn, rfl⟩)).resolve_right ?_
    exact Ledger.hasEnded_eq_false.1 hlive _
  refine ⟨n, (exists_holder hstack hheld).imp_right fun ⟨object, ho⟩ => ⟨object, ho, ?_⟩⟩
  exact refersTo_of_mem_watched (owners_watched_run inputs _ ho) hstack

/-- Two callbacks are registered, and the first one owns the registration of the second. -/
def ownsOther : List (Input Unit Empty Unit) :=
  [.act (.register "a" ⟨0, ()⟩), .tick, .act (.register "b" ⟨1, ()⟩), .tick,
    .act (.give "b" 0), .tick]

/-- The first callback ends its own registration while it is being called. -/
def leavesWhileCalled : List (Input Unit Empty Unit) :=
  ownsOther ++ [.act (.each ()), .tick, .act (.release "a"), .tick, .tick, .tick, .tick, .tick]

/-- Outside of calls the end of the first registration fails; while its callback is being called it
does not, and the other registration is there as long as the callback is. -/
theorem failed_iff_owner_taken_out_twice :
    let s := ({} : Session Unit Empty Unit).run
      (ownsOther ++ .act (.release "a") :: .replicate 3 .tick)
    let t := ({} : Session Unit Empty Unit).run leavesWhileCalled
    s.hasFailed = true ∧ t.hasFailed = false ∧ t.registry.entries = [⟨1, ⟨1, ()⟩⟩] ∧
      ∃ object n, (object, ⟨n, some (.entry 1)⟩) ∈ t.owned ∧ t.refersTo object = true := by
  intro s t
  have hfails : s.hasFailed = true :=
    ((failed_iff_owner_taken_out _).2 (by simp [ownsOther])).1.2
      ⟨ownsOther ++ [.act (.release "a")], .replicate 3 .tick, rfl, by decide, by decide⟩
  have hstays : t.hasFailed = false := by decide
  have hentries : t.registry.entries = [⟨1, ⟨1, ()⟩⟩] := by decide
  obtain ⟨n, hshelf | ⟨object, howned, hobject⟩⟩ :=
    ((failed_iff_owner_taken_out leavesWhileCalled).2 (by simp [leavesWhileCalled, ownsOther])).2
      hstays (by decide) (by decide) ⟨1, ⟨1, ()⟩⟩ (by simp [hentries, t])
  · obtain ⟨name, hname⟩ := hshelf
    have hempty : t.shelf = [] := by decide
    simp [t, hempty] at hname
  · exact ⟨hfails, hstays, hentries, object, n, howned, hobject⟩

/-- To release a callback that owns another registration fails, and leaves that registration in the
list. -/
theorem not_released_with_owned :
    let s := ({} : Session Unit Empty Unit).run ownsOther
    let t := (s.feed (.act (.release "a"))).run (.replicate 3 .tick)
    (s.isTurn = true ∧ s.hasFailed = false ∧ s.registry.size = 2) ∧
      t.hasFailed = true ∧ t.registry.entries = [⟨1, ⟨1, ()⟩⟩] := by
  decide

end DeviceStatus.Callbacks
