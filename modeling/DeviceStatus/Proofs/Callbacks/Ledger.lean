import DeviceStatus.Callbacks.Session
import Mathlib.Data.List.Basic
import Mathlib.Data.Multiset.Range

/-!
# The ledger of registrations

Each registration is held by one subscription and ends with it. A `Ledger` has what there is to
know about this: the list, the registrations made so far, and the subscriptions, those that are held
and those that have ended. `Ledger.Step` says all that one input may do to it, and `Ledger.Sound` is
what every step preserves: the list consists of the registrations whose subscriptions have not
ended.

Two numbers are matched here. A registration has a number in the list, its subscription has another
one, and neither is used twice. So the end of a subscription, which only knows a number of the list,
takes out the registration that it holds and no other.
-/

namespace DeviceStatus.Callbacks

variable {κ ρ : Type}

namespace Registry

variable {r : Registry κ}

/-- A registration that is taken out leaves the others in their places. -/
theorem WellNumbered.remove_of_mem (h : r.WellNumbered) {e : Entry κ} (he : e ∈ r.entries) :
    ∃ front back, r.entries = front ++ e :: back ∧
      r.remove e.id = { r with entries := front ++ back } := by
  obtain ⟨front, back, hsplit⟩ := List.append_of_mem he
  refine ⟨front, back, hsplit, ?_⟩
  have hincreasing := h.increasing
  rw [hsplit, List.pairwise_append, List.pairwise_cons] at hincreasing
  obtain ⟨-, ⟨hback, -⟩, hfront⟩ := hincreasing
  have hfront' : front.filter (·.id ≠ e.id) = front := by
    refine List.filter_eq_self.2 fun a ha => ?_
    have hlt := hfront a ha e (List.mem_cons_self ..)
    simpa using Nat.ne_of_lt hlt
  have hback' : back.filter (·.id ≠ e.id) = back := by
    refine List.filter_eq_self.2 fun a ha => ?_
    simpa using Nat.ne_of_gt (hback a ha)
  rw [Registry.remove, hsplit, List.filter_append, hfront', List.filter_cons_of_neg (by simp),
    hback']

/-- A number that is not in the list takes nothing out. -/
theorem remove_of_find?_eq_none {id : Nat} (h : r.find? id = none) : r.remove id = r := by
  have hall : r.entries.filter (·.id ≠ id) = r.entries := by
    rw [find?, List.find?_eq_none] at h
    exact List.filter_eq_self.2 fun e he => by simpa using h e he
  rw [remove, hall]

end Registry

/-- A list of callbacks with the registrations and the subscriptions made so far. -/
structure Ledger (κ ρ : Type) where
  /-- The list. -/
  registry : Registry κ
  /-- Whether the list exists. -/
  isAlive : Bool
  /-- Whether a change of the list was attempted during another one. -/
  hasFailed : Bool
  /-- The registrations, oldest first, each with the number of its subscription. -/
  registrations : List (Entry κ × Nat)
  /-- The subscriptions that have not ended, with what happens when they do. -/
  held : Multiset (Nat × Release ρ)
  /-- The subscriptions that have ended, latest first, with what happened then. -/
  ended : List (Nat × Release ρ)
  /-- The number of the next subscription. -/
  nextSubscription : Nat

namespace Ledger

/-- All subscriptions. -/
def subscriptions (l : Ledger κ ρ) : Multiset (Nat × Release ρ) := l.held + l.ended

/-- Whether a subscription has ended. -/
def hasEnded (l : Ledger κ ρ) (n : Nat) : Bool := l.ended.any (·.1 = n)

/-- The registrations whose subscriptions have not ended, oldest first. -/
def standing (l : Ledger κ ρ) : List (Entry κ) :=
  (l.registrations.filter (!l.hasEnded ·.2)).map Prod.fst

/-- A new subscription is held. -/
def subscribe (l : Ledger κ ρ) (x : Release ρ) : Ledger κ ρ :=
  { l with
    held := (l.nextSubscription, x) ::ₘ l.held
    nextSubscription := l.nextSubscription + 1 }

/-- A subscription ends, and the others are still held. -/
def finish (l : Ledger κ ρ) (n : Nat) (x : Release ρ) (others : Multiset (Nat × Release ρ)) :
    Ledger κ ρ :=
  { l with held := others, ended := (n, x) :: l.ended }

/-- What one input does. -/
inductive Step (l : Ledger κ ρ) : Ledger κ ρ → Prop
  /-- Nothing. -/
  | stay : Step l l
  /-- A change of the list is attempted during another one. -/
  | fail : Step l { l with hasFailed := true }
  /-- The list ends, with all that is registered. -/
  | expire : Step l { l with isAlive := false, registry := { l.registry with entries := [] } }
  /-- A callback is registered, and a subscription holds it. -/
  | register (callback : κ) :
    Step l { l.subscribe (.entry l.registry.nextId) with
      registry := l.registry.register callback
      registrations := l.registrations ++ [(⟨l.registry.nextId, callback⟩, l.nextSubscription)] }
  /-- A subscription is made that holds no registration. -/
  | own (label : ρ) : Step l (l.subscribe (.custom label))
  /-- A subscription ends that holds no registration. -/
  | release {n : Nat} {label : ρ} {others : Multiset (Nat × Release ρ)}
    (hheld : l.held = (n, .custom label) ::ₘ others) : Step l (l.finish n (.custom label) others)
  /-- The subscription of a registration ends, and the list is there. -/
  | remove {n id : Nat} {others : Multiset (Nat × Release ρ)}
    (hheld : l.held = (n, .entry id) ::ₘ others) (halive : l.isAlive = true)
    (hfailed : l.hasFailed = false) :
    Step l { l.finish n (.entry id) others with registry := l.registry.remove id }
  /-- The subscription of a registration ends after the list. -/
  | outlive {n id : Nat} {others : Multiset (Nat × Release ρ)}
    (hheld : l.held = (n, .entry id) ::ₘ others) (hdead : l.isAlive = false) :
    Step l (l.finish n (.entry id) others)
  /-- The subscription of a registration ends while the list is being changed. -/
  | collide {n id : Nat} {others : Multiset (Nat × Release ρ)}
    (hheld : l.held = (n, .entry id) ::ₘ others) :
    Step l { l.finish n (.entry id) others with hasFailed := true }

/-- The list and the subscriptions agree. -/
structure Sound (l : Ledger κ ρ) : Prop where
  /-- The list is in order. -/
  wellNumbered : l.registry.WellNumbered
  /-- The list has numbered the registrations one after the other. -/
  ids : l.registrations.map (·.1.id) = List.range l.registry.nextId
  /-- The subscriptions are numbered one after the other, and each of them is held or has ended. -/
  numbers : l.subscriptions.map Prod.fst = Multiset.range l.nextSubscription
  /-- A subscription ends the registration that it was made with. -/
  matched : ∀ n id, (n, .entry id) ∈ l.subscriptions ↔ ∃ e, (e, n) ∈ l.registrations ∧ e.id = id
  /-- The list has the registrations whose subscriptions have not ended. -/
  entries : l.isAlive = true → l.hasFailed = false → l.registry.entries = l.standing

variable {l l' : Ledger κ ρ} {n id : Nat} {x y : Release ρ} {others : Multiset (Nat × Release ρ)}

theorem mem_standing {e : Entry κ} :
    e ∈ l.standing ↔ ∃ n, (e, n) ∈ l.registrations ∧ l.hasEnded n = false := by
  simp [standing]

theorem hasEnded_eq_false : l.hasEnded n = false ↔ ∀ x, (n, x) ∉ l.ended := by
  simp only [hasEnded, List.any_eq_false, decide_eq_true_eq, Prod.forall]
  exact ⟨fun h x hx => h n x hx rfl, fun h m x hx hm => h x (hm ▸ hx)⟩

theorem subscriptions_subscribe (l : Ledger κ ρ) (x : Release ρ) :
    (l.subscribe x).subscriptions = (l.nextSubscription, x) ::ₘ l.subscriptions :=
  Multiset.cons_add _ _ _

theorem subscriptions_finish (hheld : l.held = (n, x) ::ₘ others) :
    (l.finish n x others).subscriptions = l.subscriptions := by
  rw [subscriptions, subscriptions, hheld, Multiset.cons_add, ← Multiset.add_cons]
  rfl

theorem mem_subscriptions_of_held (hheld : l.held = (n, x) ::ₘ others) :
    (n, x) ∈ l.subscriptions := by
  rw [subscriptions, hheld, Multiset.cons_add]
  exact Multiset.mem_cons_self _ _

theorem standing_finish (l : Ledger κ ρ) (n : Nat) (x : Release ρ)
    (others : Multiset (Nat × Release ρ)) :
    (l.finish n x others).standing =
      ((l.registrations.filter (!l.hasEnded ·.2)).filter (·.2 ≠ n)).map Prod.fst := by
  rw [standing, List.filter_filter]
  refine congrArg _ (List.filter_congr fun r _ => ?_)
  simp [hasEnded, finish, Bool.not_or, eq_comm]

namespace Sound

theorem number_lt (h : Sound l) (hx : (n, x) ∈ l.subscriptions) : n < l.nextSubscription := by
  rw [← Multiset.mem_range, ← h.numbers]
  exact Multiset.mem_map_of_mem Prod.fst hx

theorem nodup_numbers (h : Sound l) : (l.subscriptions.map Prod.fst).Nodup := by
  rw [h.numbers]
  exact Multiset.nodup_range _

/-- No two subscriptions have one number. -/
theorem eq_of_number (h : Sound l) (hx : (n, x) ∈ l.subscriptions)
    (hy : (n, y) ∈ l.subscriptions) : x = y :=
  congrArg Prod.snd (Multiset.inj_on_of_nodup_map h.nodup_numbers _ hx _ hy rfl)

/-- No two registrations have one number. -/
theorem eq_of_id (h : Sound l) {r r' : Entry κ × Nat} (hr : r ∈ l.registrations)
    (hr' : r' ∈ l.registrations) (hid : r.1.id = r'.1.id) : r = r' := by
  have hnodup : (l.registrations.map (·.1.id)).Nodup := h.ids ▸ List.nodup_range
  exact List.inj_on_of_nodup_map hnodup hr hr' hid

/-- The two numbers of a registration belong together. -/
theorem id_eq_iff (h : Sound l) (hx : (n, .entry id) ∈ l.subscriptions) {r : Entry κ × Nat}
    (hr : r ∈ l.registrations) : r.1.id = id ↔ r.2 = n := by
  constructor
  · intro hid
    obtain ⟨e, he, heid⟩ := (h.matched n id).1 hx
    rw [h.eq_of_id hr he (hid.trans heid.symm)]
  · rintro rfl
    have hown : (r.2, .entry r.1.id) ∈ l.subscriptions := (h.matched _ _).2 ⟨r.1, hr, rfl⟩
    simpa using h.eq_of_number hown hx

/-- A subscription that is held has not ended. -/
theorem hasEnded_of_held (h : Sound l) (hheld : l.held = (n, x) ::ₘ others) :
    l.hasEnded n = false := by
  refine hasEnded_eq_false.2 fun y hy => ?_
  have hnodup := h.nodup_numbers
  rw [subscriptions, hheld, Multiset.cons_add, Multiset.map_cons, Multiset.nodup_cons] at hnodup
  have hother : (n, y) ∈ others + (l.ended : Multiset _) :=
    Multiset.mem_add.2 (.inr (Multiset.mem_coe.2 hy))
  exact hnodup.1 (Multiset.mem_map.2 ⟨_, hother, rfl⟩)

/-- The next subscription has not ended. -/
theorem hasEnded_next (h : Sound l) : l.hasEnded l.nextSubscription = false :=
  hasEnded_eq_false.2 fun _ hx =>
    Nat.lt_irrefl _ (h.number_lt (Multiset.mem_add.2 (.inr (Multiset.mem_coe.2 hx))))

/-- The registration whose subscription is about to end is in the list. -/
theorem exists_standing (h : Sound l) (hheld : l.held = (n, .entry id) ::ₘ others) :
    ∃ e, (e, n) ∈ l.registrations ∧ e.id = id ∧ e ∈ l.standing := by
  obtain ⟨e, he, hid⟩ := (h.matched n id).1 (mem_subscriptions_of_held hheld)
  exact ⟨e, he, hid, mem_standing.2 ⟨n, he, h.hasEnded_of_held hheld⟩⟩

/-- With a subscription that holds no registration, none goes. -/
theorem standing_finish_custom (h : Sound l) {label : ρ}
    (hheld : l.held = (n, .custom label) ::ₘ others) :
    (l.finish n (.custom label) others).standing = l.standing := by
  rw [standing_finish, standing, List.filter_eq_self.2]
  intro r hr
  have hown : (r.2, .entry r.1.id) ∈ l.subscriptions :=
    (h.matched _ _).2 ⟨r.1, List.mem_of_mem_filter hr, rfl⟩
  have hne : r.2 ≠ n := by
    rintro rfl
    simpa using h.eq_of_number hown (mem_subscriptions_of_held hheld)
  simpa using hne

/-- With the subscription of a registration, this one goes. -/
theorem standing_finish_entry (h : Sound l) (hheld : l.held = (n, .entry id) ::ₘ others) :
    (l.finish n (.entry id) others).standing = l.standing.filter (·.id ≠ id) := by
  rw [standing_finish, standing, List.filter_map]
  congr 1
  -- one side goes by the number of the subscription, the other one by that of the registration
  refine List.filter_congr fun r hr => ?_
  have hiff := h.id_eq_iff (mem_subscriptions_of_held hheld) (List.mem_of_mem_filter hr)
  simp [hiff]

/-! ## Steps -/

theorem finish (h : Sound l) (hheld : l.held = (n, x) ::ₘ others) {r : Registry κ} {failed : Bool}
    (hnumbered : r.WellNumbered) (hnext : r.nextId = l.registry.nextId)
    (hentries : l.isAlive = true → failed = false →
      r.entries = (l.finish n x others).standing) :
    Sound { l.finish n x others with registry := r, hasFailed := failed } where
  wellNumbered := hnumbered
  ids := hnext ▸ h.ids
  numbers := (congrArg (Multiset.map Prod.fst) (subscriptions_finish hheld)).trans h.numbers
  matched m i := by
    have hsame := h.matched m i
    rw [← subscriptions_finish hheld] at hsame
    exact hsame
  entries := hentries

theorem subscribe_custom (h : Sound l) (label : ρ) : Sound (l.subscribe (.custom label)) where
  wellNumbered := h.wellNumbered
  ids := h.ids
  numbers := by
    rw [subscriptions_subscribe, Multiset.map_cons, h.numbers]
    exact (Multiset.range_succ _).symm
  matched m i := by
    rw [subscriptions_subscribe, Multiset.mem_cons, or_iff_right (by simp)]
    exact h.matched m i
  entries := h.entries

theorem register (h : Sound l) (callback : κ) :
    Sound { l.subscribe (.entry l.registry.nextId) with
      registry := l.registry.register callback
      registrations :=
        l.registrations ++ [(⟨l.registry.nextId, callback⟩, l.nextSubscription)] } where
  wellNumbered := h.wellNumbered.register callback
  ids := by
    rw [List.map_append, h.ids]
    exact List.range_succ.symm
  numbers := by
    refine (congrArg _ (subscriptions_subscribe l _)).trans ?_
    rw [Multiset.map_cons, h.numbers]
    exact (Multiset.range_succ _).symm
  matched m i := by
    change (m, .entry i) ∈ (l.subscribe (.entry l.registry.nextId)).subscriptions ↔ _
    rw [subscriptions_subscribe, Multiset.mem_cons, h.matched m i]
    constructor
    · rintro (hnew | ⟨e, he, hid⟩)
      · obtain ⟨rfl, rfl⟩ : m = l.nextSubscription ∧ i = l.registry.nextId := by simpa using hnew
        exact ⟨_, List.mem_append_right _ (List.mem_singleton_self _), rfl⟩
      · exact ⟨e, List.mem_append_left _ he, hid⟩
    · rintro ⟨e, he, rfl⟩
      rcases List.mem_append.1 he with he | he
      · exact .inr ⟨e, he, rfl⟩
      · obtain ⟨rfl, rfl⟩ := Prod.mk.inj (List.mem_singleton.1 he)
        exact .inl rfl
  entries halive hfailed := by
    have hnew : [((⟨l.registry.nextId, callback⟩ : Entry κ), l.nextSubscription)].filter
        (!l.hasEnded ·.2) = [(⟨l.registry.nextId, callback⟩, l.nextSubscription)] :=
      List.filter_cons_of_pos (by simp [h.hasEnded_next])
    change l.registry.entries ++ _ =
      List.map Prod.fst ((l.registrations ++ _).filter (!l.hasEnded ·.2))
    rw [h.entries halive hfailed, List.filter_append, hnew, List.map_append]
    rfl

/-- The list and the subscriptions agree after every step. -/
theorem step (h : Sound l) (hstep : Step l l') : Sound l' := by
  cases hstep with
  | stay => exact h
  | fail => exact ⟨h.wellNumbered, h.ids, h.numbers, h.matched, fun _ hfailed => nomatch hfailed⟩
  | expire =>
    exact ⟨⟨by simp, .nil⟩, h.ids, h.numbers, h.matched, fun halive => nomatch halive⟩
  | register callback => exact h.register callback
  | own label => exact h.subscribe_custom label
  | release hheld =>
    refine h.finish hheld h.wellNumbered rfl fun halive hfailed => ?_
    rw [h.standing_finish_custom hheld, h.entries halive hfailed]
  | @remove n id others hheld halive hfailed =>
    refine h.finish hheld (h.wellNumbered.remove id) rfl fun _ _ => ?_
    rw [h.standing_finish_entry hheld, ← h.entries halive hfailed]
    rfl
  | outlive hheld hdead =>
    exact h.finish hheld h.wellNumbered rfl fun halive => by simp [hdead] at halive
  | collide hheld => exact h.finish hheld h.wellNumbered rfl fun _ hfailed => nomatch hfailed

/-- The end of a subscription takes exactly its own registration out of the list, and does nothing
to a list that has ended. -/
theorem step_of_ended (h : Sound l) (hstep : Step l l')
    (hended : l'.ended = (n, .entry id) :: l.ended) :
    if l.isAlive then
      l'.hasFailed = true ∨ ∃ e front back, (e, n) ∈ l.registrations ∧ e.id = id ∧
        l.registry.entries = front ++ e :: back ∧
        l'.registry = { l.registry with entries := front ++ back }
    else l'.registry = l.registry := by
  cases hstep with
  | stay | fail | expire | register | own =>
    exact absurd (congrArg List.length hended) (by simp [subscribe])
  | release hheld => simp [Ledger.finish] at hended
  | remove hheld halive hfailed =>
    obtain ⟨⟨rfl, rfl⟩, -⟩ : (_ = n ∧ _ = id) ∧ True := by simpa [Ledger.finish] using hended
    obtain ⟨e, he, rfl, hstanding⟩ := h.exists_standing hheld
    rw [← h.entries halive hfailed] at hstanding
    obtain ⟨front, back, hsplit, hremove⟩ := h.wellNumbered.remove_of_mem hstanding
    rw [if_pos halive]
    exact .inr ⟨e, front, back, he, rfl, hsplit, hremove⟩
  | outlive hheld hdead =>
    rw [if_neg (by simp [hdead])]
    rfl
  | collide hheld =>
    split
    · exact .inl rfl
    · rfl

end Sound

theorem Step.of_eq (h : l' = l) : Step l l' := h ▸ .stay

/-- What has ended stays ended. -/
theorem Step.ended_suffix (h : Step l l') : l.ended <:+ l'.ended := by
  cases h with
  | stay | fail | expire | register | own => exact List.suffix_refl _
  | release | remove | outlive | collide => exact List.suffix_cons _ _

end Ledger

end DeviceStatus.Callbacks
