import DeviceStatus.Proofs.Callbacks.Changes
import DeviceStatus.Proofs.Callbacks.Dispatch
import DeviceStatus.Proofs.Callbacks.Subscriptions
import Mathlib.Data.List.Induction

/-!
# Objects that own subscriptions

An object that nobody refers to goes away, and takes its subscriptions along. Whenever a reference
goes, it is looked at whether it was the last one, so no object that owns something is forgotten
(`owners_watched_run`). As long as the host makes no subscriptions by itself, nothing is left to be
looked at when somebody is to act (`Orderly`).
-/

namespace DeviceStatus.Callbacks

variable {β ρ α : Type}

/-- Whether the subscription holds a registration. -/
def Subscription.isRegistration (s : Subscription ρ) : Bool :=
  match s.release with
  | some (.entry _) => true
  | _ => false

/-- Whether no subscription is at work that the host made by itself. -/
def Frame.isPlain : Frame β ρ α → Bool
  | finish s => !s.isActive || s.isRegistration
  | releasing .. => false
  | _ => true

/-- Whether a subscription is to end, or an object may go away. -/
def Frame.isEnding : Frame β ρ α → Bool
  | finish _ | sweep _ => true
  | _ => false

/-- The objects that something going on refers to, and those that may go away. -/
def Frame.watched : Frame β ρ α → List Nat
  | sweep object => [object]
  | f => f.objects

/-- The objects that somebody refers to, and those that may go away. -/
def Session.watched (s : Session β ρ α) : List Nat :=
  s.registry.entries.map (·.callback.object) ++ s.kept ++ s.stack.flatMap Frame.watched

/-! ## No owner is forgotten -/

section Watched

variable {s t : Session β ρ α}

theorem mem_watched_of_refersTo {object : Nat} (h : s.refersTo object = true) :
    object ∈ s.watched := by
  have hframes : ∀ f : Frame β ρ α, object ∈ f.objects → object ∈ f.watched := by
    intro f hf
    cases f with
    | sweep => simp [Frame.objects] at hf
    | _ => exact hf
  simp only [Session.refersTo, Bool.or_eq_true, List.any_eq_true, decide_eq_true_eq,
    List.contains_iff_mem] at h
  simp only [Session.watched, List.mem_append, List.mem_map, List.mem_flatMap]
  refine h.imp_right ?_
  rintro ⟨f, hf, hobject⟩
  exact ⟨f, hf, hframes f hobject⟩

/-- Where nothing may go away, what is watched is referred to. -/
theorem refersTo_of_mem_watched {object : Nat} (h : object ∈ s.watched)
    (hstack : ∀ f ∈ s.stack, f.isEnding = false) : s.refersTo object = true := by
  simp only [Session.watched, List.mem_append, List.mem_map, List.mem_flatMap] at h
  simp only [Session.refersTo, Bool.or_eq_true, List.any_eq_true, decide_eq_true_eq,
    List.contains_iff_mem]
  refine h.imp_right ?_
  rintro ⟨f, hf, hobject⟩
  refine ⟨f, hf, ?_⟩
  cases f with
  | sweep => simpa [Frame.isEnding] using hstack _ hf
  | _ => exact hobject

theorem watched_subset_push (s : Session β ρ α) (frames : List (Frame β ρ α)) :
    s.watched ⊆ (s.push frames).watched := by
  intro object h
  simp only [Session.watched, Session.push, List.flatMap_append, List.mem_append] at h ⊢
  tauto

theorem watched_subset_settleList (s : Session β ρ α) : s.watched ⊆ s.settleList.watched := by
  unfold Session.settleList
  split
  · intro object h
    simp only [Session.watched, List.flatMap_append, List.mem_append, List.mem_flatMap,
      List.mem_map] at h ⊢
    rcases h with (⟨e, he, rfl⟩ | h) | h
    · exact .inr (.inl ⟨_, ⟨_, ⟨e, he, rfl⟩, rfl⟩, List.mem_singleton_self _⟩)
    · exact .inl (.inr h)
    · exact .inr (.inr h)
  · exact List.Subset.refl _

theorem watched_subset_withList (h : s.watched ⊆ t.watched) :
    s.watched ⊆ (s.withList t).watched := by
  unfold Session.withList
  split
  · exact watched_subset_push s _
  split
  · exact List.Subset.refl _
  · exact h

theorem watched_subset_withSubscription {name : String} {f : Subscription ρ → Session β ρ α}
    (h : ∀ subscription, s.watched ⊆ (f subscription).watched) :
    s.watched ⊆ (s.withSubscription name f).watched := by
  unfold Session.withSubscription
  split
  · exact h _
  · exact watched_subset_push s _

/-- An action leaves no object without a look. -/
theorem watched_subset_act (s : Session β ρ α) (a : Action β ρ α) :
    s.watched ⊆ (s.act a).watched := by
  cases a with
  | register name callback =>
    have hnew : s.watched ⊆
        Session.watched { s with registry := s.registry.register callback } := by
      intro object h
      simp only [Session.watched, Registry.register, List.map_append, List.mem_append] at h ⊢
      tauto
    exact watched_subset_withList (List.Subset.trans hnew (watched_subset_push _ _))
  | own name label => exact watched_subset_push s _
  | release name | drop name | inspect name =>
    exact watched_subset_withSubscription fun _ => watched_subset_push s _
  | give name object =>
    simp only [Session.act]
    split
    · exact watched_subset_withSubscription fun _ => watched_subset_push s _
    · exact watched_subset_push s _
  | keep object =>
    simp only [Session.act]
    split
    · have hkept : s.watched ⊆ Session.watched { s with kept := object :: s.kept } := by
        intro other h
        simp only [Session.watched, List.mem_append, List.mem_cons] at h ⊢
        tauto
      exact List.Subset.trans hkept (watched_subset_push _ _)
    · exact watched_subset_push s _
  | forget object =>
    intro other h
    simp only [Session.act, Session.watched, Session.push, List.mem_append, List.mem_filter,
      List.flatMap_append, List.flatMap_cons, Frame.watched, List.mem_singleton,
      decide_eq_true_eq] at h ⊢
    tauto
  | each value =>
    exact watched_subset_withList (watched_subset_push s _)
  | count => exact watched_subset_withList (watched_subset_push s _)
  | dropList =>
    let t := ({ s with isHeld := false } : Session β ρ α).push [.answer .listDropped]
    have hgone : s.watched ⊆ t.watched := watched_subset_push s _
    exact List.Subset.trans hgone (watched_subset_settleList t)

/-- The object of the registration that is taken out may go away. -/
theorem watched_subset_removeEntry (hnumbered : s.registry.WellNumbered) (id : Nat) :
    s.watched ⊆ (s.removeEntry id).watched := by
  unfold Session.removeEntry
  split
  · exact List.Subset.refl _
  split
  · exact List.Subset.refl _
  split
  · next entry hfind =>
    obtain rfl : entry.id = id := by simpa using List.find?_some hfind
    obtain ⟨front, back, hsplit, hremove⟩ :=
      hnumbered.remove_of_mem (List.mem_of_find?_eq_some hfind)
    intro object h
    simp only [Session.watched, Session.push, hsplit, hremove, List.map_append, List.map_cons,
      List.flatMap_append, List.flatMap_cons, Frame.watched, List.mem_append, List.mem_cons] at h ⊢
    tauto
  · exact List.Subset.refl _

theorem watched_pop {f : Frame β ρ α} {below : List (Frame β ρ α)} (hstack : s.stack = f :: below)
    (hf : f.watched = []) : ({ s with stack := below } : Session β ρ α).watched = s.watched := by
  simp [Session.watched, hstack, hf]

/-- The object of a callback that returns may go away. -/
theorem watched_subset_returned (s : Session β ρ α) : s.watched ⊆ s.returned.watched := by
  unfold Session.returned
  split
  · next dispatch value current rest below hstack =>
    intro object h
    simp only [Session.watched, hstack, List.flatMap_cons, Frame.watched, Frame.objects,
      List.mem_append, List.mem_cons] at h ⊢
    tauto
  · next number label below hstack => exact (watched_pop hstack rfl).symm ▸ List.Subset.refl _
  · exact List.Subset.refl _

/-- An object that nobody refers to any more has been looked at, and owns nothing. -/
theorem mem_watched_tick (hnumbered : s.registry.WellNumbered) {object : Nat}
    (h : object ∈ s.watched) : object ∈ s.tick.watched ∨ ∀ o ∈ s.tick.owned, o.1 ≠ object := by
  unfold Session.tick
  split
  · next dispatch value entry rest below hstack =>
    refine .inl ?_
    simpa [Session.watched, Session.note, hstack, Frame.watched, Frame.objects] using h
  · next dispatch value below hstack =>
    rw [← watched_pop hstack rfl] at h
    exact .inl (watched_subset_settleList _ h)
  · next subscription below hstack =>
    rw [← watched_pop hstack rfl] at h
    simp only
    split
    · exact .inl h
    · next id hrelease =>
      let t := ({ s with stack := below } : Session β ρ α).note
        (.released subscription.number (.entry id))
      have ht : t.registry.WellNumbered := hnumbered
      exact .inl (watched_subset_removeEntry ht id h)
    · exact .inl (watched_subset_push _ _ h)
  · next other below hstack =>
    have hmem : object = other ∨
        object ∈ ({ s with stack := below } : Session β ρ α).watched := by
      simp only [Session.watched, hstack, List.flatMap_cons, Frame.watched, List.mem_append,
        List.mem_singleton] at h ⊢
      tauto
    simp only
    split
    · next hother => exact .inl (hmem.elim (fun heq => heq ▸ mem_watched_of_refersTo hother) id)
    · rcases hmem with rfl | hmem
      · exact .inr fun o ho => by simpa using (List.mem_filter.1 ho).2
      · exact .inl (watched_subset_push _ _ hmem)
  · next below hstack =>
    rw [← watched_pop hstack rfl] at h
    exact .inl (watched_subset_settleList _ h)
  · next a below hstack =>
    rw [← watched_pop hstack rfl] at h
    exact .inl h
  · exact .inl h

/-- No object that owns a subscription goes without a look. -/
theorem owners_watched_feed (hnumbered : s.registry.WellNumbered)
    (h : ∀ o ∈ s.owned, o.1 ∈ s.watched) (i : Input β ρ α) :
    ∀ o ∈ (s.feed i).owned, o.1 ∈ (s.feed i).watched := by
  refine Session.feed_of (P := fun t => ∀ o ∈ t.owned, o.1 ∈ t.watched) h (fun _ => ?_)
    (fun a _ _ => ?_) (fun _ => ?_) i
  · intro o ho
    refine (mem_watched_tick hnumbered (h o (tick_owned_subset s ho))).resolve_right fun hgone => ?_
    exact hgone o ho rfl
  · intro o ho
    refine watched_subset_act s a ?_
    cases a with
    | give name object =>
      rcases mem_owned_give ho with ho | ⟨rfl, -, hobject⟩
      · exact h o ho
      · exact mem_watched_of_refersTo hobject
    | _ =>
      rw [act_owned s (by simp)] at ho
      exact h o ho
  · intro o ho
    exact watched_subset_returned s (h o (returned_owned s ▸ ho))

theorem owners_watched_run (inputs : List (Input β ρ α)) :
    ∀ o ∈ (({} : Session β ρ α).run inputs).owned,
      o.1 ∈ (({} : Session β ρ α).run inputs).watched := by
  induction inputs using List.reverseRecOn with
  | nil => simp [Session.run]
  | append_singleton inputs i ih =>
    have hsound : (({} : Session β ρ α).run inputs).ledger.Sound := sound_run inputs
    rw [Session.run, List.foldl_append]
    exact owners_watched_feed hsound.wellNumbered ih i

end Watched

/-! ## Registrations only -/

/-- All subscriptions hold registrations, and nothing is about to end while a callback is being
called. -/
structure Orderly (s : Session β ρ α) : Prop where
  /-- The host's subscriptions hold registrations. -/
  shelf : ∀ p ∈ s.shelf, p.2.isRegistration = true
  /-- The subscriptions of the objects do. -/
  owned : ∀ o ∈ s.owned, o.2.isRegistration = true
  /-- Those that are to end do, if they have not ended already. -/
  stack : ∀ f ∈ s.stack, f.isPlain = true
  /-- Whatever ends does so before the next callback is called. -/
  calls : s.stack.Pairwise fun f g => f.dispatch?.isSome = true → g.isEnding = false

namespace Orderly

variable {s t : Session β ρ α}

theorem empty : Orderly ({} : Session β ρ α) :=
  ⟨by simp, by simp, by simp, .nil⟩

/-- Other parts of the session may change. -/
theorem congr (h : Orderly s) (hshelf : t.shelf = s.shelf) (howned : t.owned = s.owned)
    (hstack : t.stack = s.stack) : Orderly t :=
  ⟨hshelf ▸ h.shelf, howned ▸ h.owned, hstack ▸ h.stack, hstack ▸ h.calls⟩

theorem push (h : Orderly s) {frames : List (Frame β ρ α)}
    (hframes : ∀ f ∈ frames, f.isPlain = true ∧ f.dispatch? = none) : Orderly (s.push frames) where
  shelf := h.shelf
  owned := h.owned
  stack := List.forall_mem_append.2 ⟨fun f hf => (hframes f hf).1, h.stack⟩
  calls := by
    have hnone : ∀ f ∈ frames, ∀ g : Frame β ρ α,
        f.dispatch?.isSome = true → g.isEnding = false := by
      intro f hf g hsome
      simp [(hframes f hf).2] at hsome
    refine List.pairwise_append.2 ⟨?_, h.calls, fun f hf g _ => hnone f hf g⟩
    exact List.pairwise_of_forall_mem_list fun f hf g _ => hnone f hf g

/-- The call that comes next is on the stack already. -/
theorem replace (h : Orderly s) {f g : Frame β ρ α} {below : List (Frame β ρ α)}
    (hstack : s.stack = f :: below) (hg : g.isPlain = true)
    (hdispatch : g.dispatch?.isSome = true → f.dispatch?.isSome = true) :
    Orderly { s with stack := g :: below } := by
  have hplain := h.stack
  have hcalls := h.calls
  rw [hstack, List.forall_mem_cons] at hplain
  rw [hstack, List.pairwise_cons] at hcalls
  refine ⟨h.shelf, h.owned, List.forall_mem_cons.2 ⟨hg, hplain.2⟩, ?_⟩
  exact List.pairwise_cons.2 ⟨fun f' hf' hsome => hcalls.1 f' hf' (hdispatch hsome), hcalls.2⟩

theorem pop (h : Orderly s) {f : Frame β ρ α} {below : List (Frame β ρ α)}
    (hstack : s.stack = f :: below) : Orderly { s with stack := below } := by
  have hplain := h.stack
  have hcalls := h.calls
  rw [hstack] at hplain hcalls
  exact ⟨h.shelf, h.owned, (List.forall_mem_cons.1 hplain).2, (List.pairwise_cons.1 hcalls).2⟩

/-- Whoever is to act, nothing else is about to end. -/
theorem not_isEnding (h : Orderly s) (hturn : s.isTurn = true) :
    ∀ f ∈ s.stack, f.isEnding = false := by
  have hplain := h.stack
  have hcalls := h.calls
  unfold Session.isTurn at hturn
  cases hstack : s.stack with
  | nil => simp
  | cons f below =>
    rw [hstack] at hplain hcalls hturn
    cases f with
    | call =>
      have hbelow := (List.pairwise_cons.1 hcalls).1
      exact List.forall_mem_cons.2 ⟨rfl, fun g hg => hbelow g hg rfl⟩
    | releasing => simpa [Frame.isPlain] using hplain _ (List.mem_cons_self ..)
    | _ => simp [Frame.isTurn] at hturn

theorem settleList (h : Orderly s) : Orderly s.settleList := by
  unfold Session.settleList
  split
  · have hends : Orderly { s with
        isAlive := false
        registry := { s.registry with entries := [] } } := h.congr rfl rfl rfl
    exact hends.push (by simp [Frame.isPlain, Frame.dispatch?])
  · exact h

theorem unshelve (h : Orderly s) (name : String) : Orderly (s.unshelve name) :=
  ⟨fun p hp => h.shelf p (List.mem_filter.1 hp).1, h.owned, h.stack, h.calls⟩

theorem isRegistration_of_lookup (h : Orderly s) {name : String} {subscription : Subscription ρ}
    (hlookup : s.shelf.lookup name = some subscription) :
    subscription.isRegistration = true := by
  obtain ⟨front, back, hshelf, -⟩ := List.lookup_eq_some_iff.1 hlookup
  exact h.shelf (name, subscription) (by simp [hshelf])

theorem store (h : Orderly s) (name : String) (id : Nat) :
    Orderly (s.store name (.entry id)) := by
  have hnew : Orderly { s with
      nextSubscription := s.nextSubscription + 1
      shelf := (name, ⟨s.nextSubscription, some (.entry id)⟩) :: s.shelf.filter (·.1 ≠ name) } :=
    ⟨List.forall_mem_cons.2 ⟨rfl, (h.unshelve name).shelf⟩, h.owned, h.stack, h.calls⟩
  refine hnew.push ?_
  cases hlookup : s.shelf.lookup name with
  | none => simp [Frame.isPlain, Frame.dispatch?]
  | some replaced => simp [Frame.isPlain, Frame.dispatch?, h.isRegistration_of_lookup hlookup]

theorem withList (h : Orderly s) (ht : Orderly t) : Orderly (s.withList t) := by
  unfold Session.withList
  split
  · exact h.push (by simp [Frame.isPlain, Frame.dispatch?])
  split
  · exact h.congr rfl rfl rfl
  · exact ht

theorem withSubscription (h : Orderly s) {name : String} {f : Subscription ρ → Session β ρ α}
    (hf : ∀ subscription, subscription.isRegistration = true → Orderly (f subscription)) :
    Orderly (s.withSubscription name f) := by
  unfold Session.withSubscription
  split
  · next hlookup => exact hf _ (h.isRegistration_of_lookup hlookup)
  · exact h.push (by simp [Frame.isPlain, Frame.dispatch?])

/-- Nothing is about to end when the calls of all callbacks begin. -/
theorem deliver (h : Orderly s) (hturn : s.isTurn = true) (dispatch : Nat) (value : α)
    (rest : List (Entry (Callback β))) :
    Orderly (s.push [.deliver dispatch value rest, .answer .called]) := by
  have hanswer : Orderly (s.push [.answer .called]) :=
    h.push (by simp [Frame.isPlain, Frame.dispatch?])
  have hending : ∀ f ∈ (s.push [.answer .called]).stack, f.isEnding = false :=
    List.forall_mem_cons.2 ⟨rfl, h.not_isEnding hturn⟩
  exact ⟨h.shelf, h.owned, List.forall_mem_cons.2 ⟨rfl, hanswer.stack⟩,
    List.pairwise_cons.2 ⟨fun f hf _ => hending f hf, hanswer.calls⟩⟩

theorem act (h : Orderly s) (hturn : s.isTurn = true) {a : Action β ρ α}
    (ha : ∀ name label, a ≠ .own name label) : Orderly (s.act a) := by
  cases a with
  | register name callback =>
    have hnew : Orderly ({ s with registry := s.registry.register callback }.note
        (.registered ⟨s.registry.nextId, callback⟩ s.nextSubscription)) := h.congr rfl rfl rfl
    exact h.withList (hnew.store name _)
  | own name label => exact absurd rfl (ha name label)
  | release name | drop name =>
    refine h.withSubscription fun subscription hplain => (h.unshelve name).push ?_
    simp [Frame.isPlain, Frame.dispatch?, hplain, Subscription.ended, Subscription.isActive]
  | inspect name =>
    exact h.withSubscription fun _ _ => h.push (by simp [Frame.isPlain, Frame.dispatch?])
  | give name object =>
    simp only [Session.act]
    split
    · refine h.withSubscription fun subscription hplain => ?_
      have hgiven : Orderly { s.unshelve name with owned := s.owned ++ [(object, subscription)] } :=
        ⟨(h.unshelve name).shelf, List.forall_mem_append.2 ⟨h.owned, by simpa using hplain⟩,
          h.stack, h.calls⟩
      exact hgiven.push (by simp [Frame.isPlain, Frame.dispatch?])
    · exact h.push (by simp [Frame.isPlain, Frame.dispatch?])
  | keep object =>
    simp only [Session.act]
    split
    · have hkept : Orderly { s with kept := object :: s.kept } := h.congr rfl rfl rfl
      exact hkept.push (by simp [Frame.isPlain, Frame.dispatch?])
    · exact h.push (by simp [Frame.isPlain, Frame.dispatch?])
  | forget object =>
    have hkept : Orderly { s with kept := s.kept.filter (· ≠ object) } := h.congr rfl rfl rfl
    exact hkept.push (by simp [Frame.isPlain, Frame.dispatch?])
  | each value =>
    have hbegin : Orderly ({ s with nextDispatch := s.nextDispatch + 1 }.note
        (.began s.nextDispatch (s.registry.entries.map Entry.id))) := h.congr rfl rfl rfl
    exact h.withList (hbegin.deliver hturn _ _ _)
  | count => exact h.withList (h.push (by simp [Frame.isPlain, Frame.dispatch?]))
  | dropList =>
    have hgone : Orderly { s with isHeld := false } := h.congr rfl rfl rfl
    exact (hgone.push (by simp [Frame.isPlain, Frame.dispatch?])).settleList

theorem removeEntry (h : Orderly s) (id : Nat) : Orderly (s.removeEntry id) := by
  unfold Session.removeEntry
  split
  · exact h
  split
  · exact h.congr rfl rfl rfl
  split
  · have hremoved : Orderly { s with registry := s.registry.remove id } := h.congr rfl rfl rfl
    exact hremoved.push (by simp [Frame.isPlain, Frame.dispatch?])
  · exact h

theorem endObject (h : Orderly s) (object : Nat) : Orderly (s.endObject object) := by
  have hgone : Orderly { s with owned := s.owned.filter (·.1 ≠ object) } :=
    ⟨h.shelf, fun o ho => h.owned o (List.mem_filter.1 ho).1, h.stack, h.calls⟩
  refine hgone.push fun f hf => ?_
  obtain ⟨o, ho, rfl⟩ := List.mem_map.1 hf
  simp [Frame.isPlain, Frame.dispatch?, h.owned o (List.mem_filter.1 ho).1]

theorem tick (h : Orderly s) : Orderly s.tick := by
  unfold Session.tick
  split
  · next dispatch value entry rest below hstack =>
    have hcall : Orderly { s with stack := .call dispatch value entry rest :: below } :=
      h.replace hstack rfl fun _ => rfl
    exact hcall.congr rfl rfl rfl
  · next dispatch value below hstack =>
    have hpop : Orderly ({ s with stack := below }.note (.ended dispatch)) :=
      (h.pop hstack).congr rfl rfl rfl
    exact hpop.settleList
  · next subscription below hstack =>
    have hpop := h.pop hstack
    simp only
    split
    · exact hpop
    · next id hrelease =>
      have hnote : Orderly ({ s with stack := below }.note
          (.released subscription.number (.entry id))) := hpop.congr rfl rfl rfl
      exact hnote.removeEntry id
    · next label hrelease =>
      have hplain := h.stack (.finish subscription) (by simp [hstack])
      simp [Frame.isPlain, Subscription.isActive, Subscription.isRegistration, hrelease] at hplain
  · next object below hstack =>
    have hpop := h.pop hstack
    simp only
    split
    · exact hpop
    · exact hpop.endObject object
  · next below hstack => exact (h.pop hstack).settleList
  · next a below hstack => exact (h.pop hstack).congr rfl rfl rfl
  · exact h

theorem returned (h : Orderly s) : Orderly s.returned := by
  unfold Session.returned
  split
  · next dispatch value current rest below hstack =>
    have hback : Orderly { s with stack := .deliver dispatch value rest :: below } :=
      h.replace hstack rfl fun _ => rfl
    have hsweep : Orderly (Session.push _ [.sweep current.callback.object]) :=
      hback.push (by simp [Frame.isPlain, Frame.dispatch?])
    exact hsweep
  · next hstack => exact h.pop hstack
  · exact h

theorem feed (h : Orderly s) {i : Input β ρ α} (hi : ∀ name label, i ≠ .act (.own name label)) :
    Orderly (s.feed i) :=
  feed_of_act h h.tick
    (fun _ ha hturn => h.act hturn fun name label hown => hi name label (hown ▸ ha)) h.returned

theorem run (h : Orderly s) {inputs : List (Input β ρ α)}
    (hinputs : ∀ name label, .act (.own name label) ∉ inputs) : Orderly (s.run inputs) := by
  induction inputs generalizing s with
  | nil => exact h
  | cons i inputs ih =>
    refine ih (h.feed fun name label hi => ?_) fun name label hmem => ?_
    · exact hinputs name label (hi ▸ List.mem_cons_self ..)
    · exact hinputs name label (List.mem_cons_of_mem _ hmem)

end Orderly

end DeviceStatus.Callbacks
