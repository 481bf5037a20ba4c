import DeviceStatus.Proofs.Callbacks.Ledger
import Mathlib.Algebra.Order.Group.Multiset

/-!
# The subscriptions of a session

A session has its ledger: what was registered and what has ended is written in the journal, and the
subscriptions that are held are on the shelf, with an object, or on the stack where they are about
to end. Every input is one step of the ledger (`Session.step_feed`), as long as the shelf has no
name twice, so what holds of ledgers holds of sessions at every moment (`sound_run`).
-/

namespace DeviceStatus.Callbacks

variable {β ρ α : Type}

/-- A subscription that has not ended: its number, and what happens when it does. -/
def Subscription.active? (s : Subscription ρ) : Option (Nat × Release ρ) :=
  s.release.map (s.number, ·)

/-- The subscription that is about to end. -/
def Frame.ending? : Frame β ρ α → Option (Nat × Release ρ)
  | finish s => s.active?
  | _ => none

/-- What is registered, and the number of its subscription. -/
def Occurrence.registration? : Occurrence β ρ α → Option (Entry (Callback β) × Nat)
  | registered entry subscription => some (entry, subscription)
  | _ => none

/-- The subscription that ends, and what happens then. -/
def Occurrence.ending? : Occurrence β ρ α → Option (Nat × Release ρ)
  | released subscription release => some (subscription, release)
  | _ => none

namespace Session

/-- The subscriptions that have not ended, with what happens when they do. -/
def held (s : Session β ρ α) : Multiset (Nat × Release ρ) :=
  .ofList (s.shelf.filterMap (·.2.active?)) + .ofList (s.owned.filterMap (·.2.active?)) +
    .ofList (s.stack.filterMap Frame.ending?)

/-- The ledger of a session. -/
def ledger (s : Session β ρ α) : Ledger (Callback β) ρ where
  registry := s.registry
  isAlive := s.isAlive
  hasFailed := s.hasFailed
  registrations := (s.journal.filterMap Occurrence.registration?).reverse
  held := s.held
  ended := s.journal.filterMap Occurrence.ending?
  nextSubscription := s.nextSubscription

end Session

/-! ## The shelf -/

/-- What is kept under a name, and everything else. -/
theorem perm_lookup_filter {γ : Type} (shelf : List (String × γ)) (name : String)
    (hnodup : (shelf.map Prod.fst).Nodup) :
    shelf.Perm ((shelf.lookup name).toList.map (name, ·) ++ shelf.filter (·.1 ≠ name)) := by
  induction shelf with
  | nil => simp
  | cons p shelf ih =>
    obtain ⟨key, value⟩ := p
    rw [List.map_cons, List.nodup_cons] at hnodup
    by_cases hkey : key = name
    · subst hkey
      have hothers : shelf.filter (·.1 ≠ key) = shelf := by
        refine List.filter_eq_self.2 fun q hq => ?_
        have hne : q.1 ≠ key := fun h => hnodup.1 (List.mem_map.2 ⟨q, hq, h⟩)
        simpa using hne
      rw [List.lookup_cons_self, List.filter_cons_of_neg (by simp), hothers]
      exact .refl _
    · have hlookup : ((key, value) :: shelf).lookup name = shelf.lookup name := by
        rw [List.lookup_cons, beq_false_of_ne (Ne.symm hkey)]
      rw [hlookup, List.filter_cons_of_pos (by simpa using hkey)]
      exact ((ih hnodup.2).cons _).trans List.perm_middle.symm

/-- The shelf and the list are in order. -/
structure Tidy (s : Session β ρ α) : Prop where
  /-- No name is on the shelf twice. -/
  names : (s.shelf.map Prod.fst).Nodup
  /-- No subscription on the shelf has ended. -/
  active : ∀ p ∈ s.shelf, p.2.isActive = true
  /-- The list exists as long as the host has it. -/
  alive : s.isHeld = true → s.isAlive = true

namespace Tidy

variable {s t : Session β ρ α}

theorem empty : Tidy ({} : Session β ρ α) :=
  ⟨.nil, by simp, fun _ => rfl⟩

/-- Other parts of the session may change. -/
theorem congr (h : Tidy s) (hshelf : t.shelf = s.shelf) (hheld : t.isHeld = s.isHeld)
    (halive : t.isAlive = s.isAlive) : Tidy t := by
  refine ⟨?_, ?_, ?_⟩
  · rw [hshelf]
    exact h.names
  · rw [hshelf]
    exact h.active
  · rw [hheld, halive]
    exact h.alive

theorem settleList (h : Tidy s) : Tidy s.settleList := by
  unfold Session.settleList
  split
  · next hends =>
    have hheld : s.isHeld = false := by
      simp only [Bool.and_eq_true, Bool.not_eq_true'] at hends
      exact hends.1.2
    exact ⟨h.names, h.active, fun hheld' => by simp [hheld] at hheld'⟩
  · exact h

theorem unshelve (h : Tidy s) (name : String) : Tidy (s.unshelve name) where
  names := h.names.sublist (List.filter_sublist.map Prod.fst)
  active p hp := h.active p (List.mem_of_mem_filter hp)
  alive := h.alive

theorem store (h : Tidy s) (name : String) (release : Release ρ) :
    Tidy (s.store name release) where
  names := by
    refine List.nodup_cons.2 ⟨?_, (h.unshelve name).names⟩
    simp [List.mem_map]
  active := List.forall_mem_cons.2 ⟨rfl, (h.unshelve name).active⟩
  alive := h.alive

theorem withList (h : Tidy s) (ht : Tidy t) : Tidy (s.withList t) := by
  unfold Session.withList
  split
  · exact h.congr rfl rfl rfl
  split
  · exact h.congr rfl rfl rfl
  · exact ht

theorem withSubscription (h : Tidy s) {name : String} {f : Subscription ρ → Session β ρ α}
    (hf : ∀ subscription, Tidy (f subscription)) : Tidy (s.withSubscription name f) := by
  unfold Session.withSubscription
  split
  · exact hf _
  · exact h.congr rfl rfl rfl

theorem act (h : Tidy s) (a : Action β ρ α) : Tidy (s.act a) := by
  cases a with
  | register name callback =>
    have hnew : Tidy ({ s with registry := s.registry.register callback }.note
        (.registered ⟨s.registry.nextId, callback⟩ s.nextSubscription)) := h.congr rfl rfl rfl
    exact h.withList (hnew.store name _)
  | own name label => exact h.store name _
  | release name | drop name =>
    exact h.withSubscription fun _ => (h.unshelve name).congr rfl rfl rfl
  | inspect name => exact h.withSubscription fun _ => h.congr rfl rfl rfl
  | give name object =>
    simp only [Session.act]
    split
    · exact h.withSubscription fun _ => (h.unshelve name).congr rfl rfl rfl
    · exact h.congr rfl rfl rfl
  | keep object =>
    simp only [Session.act]
    split <;> exact h.congr rfl rfl rfl
  | forget object => exact h.congr rfl rfl rfl
  | each value | count => exact h.withList (h.congr rfl rfl rfl)
  | dropList =>
    have hgone : Tidy ({ s with isHeld := false }.push [.answer .listDropped]) :=
      ⟨h.names, h.active, fun hheld => nomatch hheld⟩
    exact hgone.settleList

theorem removeEntry (h : Tidy s) (id : Nat) : Tidy (s.removeEntry id) := by
  unfold Session.removeEntry
  split
  · exact h
  split
  · exact h.congr rfl rfl rfl
  split
  · exact h.congr rfl rfl rfl
  · exact h

theorem tick (h : Tidy s) : Tidy s.tick := by
  unfold Session.tick
  split
  · exact h.congr rfl rfl rfl
  · next dispatch value below hstack =>
    have hpop : Tidy ({ s with stack := below }.note (.ended dispatch)) := h.congr rfl rfl rfl
    exact hpop.settleList
  · next subscription below hstack =>
    have hpop : Tidy { s with stack := below } := h.congr rfl rfl rfl
    simp only
    split
    · exact hpop
    · next id hrelease =>
      have hnote : Tidy ({ s with stack := below }.note
          (.released subscription.number (.entry id))) := hpop.congr rfl rfl rfl
      exact hnote.removeEntry id
    · exact hpop.congr rfl rfl rfl
  · simp only
    split <;> exact h.congr rfl rfl rfl
  · next below hstack =>
    have hpop : Tidy { s with stack := below } := h.congr rfl rfl rfl
    exact hpop.settleList
  · exact h.congr rfl rfl rfl
  · exact h

theorem returned (h : Tidy s) : Tidy s.returned := by
  unfold Session.returned
  split <;> exact h.congr rfl rfl rfl

theorem feed (h : Tidy s) (i : Input β ρ α) : Tidy (s.feed i) :=
  Session.feed_of h (fun _ => h.tick) (fun a _ _ => h.act a) (fun _ => h.returned) i

theorem run (h : Tidy s) (inputs : List (Input β ρ α)) : Tidy (s.run inputs) :=
  Session.run_of (fun _ i h => h.feed i) h inputs

end Tidy

/-! ## The ledger after an input -/

namespace Session

variable {s t : Session β ρ α}

theorem held_push (s : Session β ρ α) (frames : List (Frame β ρ α)) :
    (s.push frames).held = (frames.filterMap Frame.ending? : Multiset _) + s.held := by
  simp only [held, push, List.filterMap_append, ← Multiset.coe_add]
  exact add_left_comm _ _ _

theorem push_pop {f : Frame β ρ α} {below : List (Frame β ρ α)} (hstack : s.stack = f :: below) :
    ({ s with stack := below } : Session β ρ α).push [f] = s := by
  simp [push, ← hstack]

theorem held_pop {f : Frame β ρ α} {below : List (Frame β ρ α)} (hstack : s.stack = f :: below) :
    s.held = .ofList (f.ending?.toList) + ({ s with stack := below } : Session β ρ α).held := by
  rw [← push_pop hstack, held_push]
  rfl

theorem ledger_congr (hheld : t.held = s.held) (hregistry : t.registry = s.registry)
    (halive : t.isAlive = s.isAlive) (hfailed : t.hasFailed = s.hasFailed)
    (hjournal : t.journal = s.journal) (hnext : t.nextSubscription = s.nextSubscription) :
    t.ledger = s.ledger := by
  simp only [ledger, hheld, hregistry, halive, hfailed, hjournal, hnext]

theorem ledger_push {frames : List (Frame β ρ α)} (h : ∀ f ∈ frames, f.ending? = none) :
    (s.push frames).ledger = s.ledger := by
  refine ledger_congr ?_ rfl rfl rfl rfl rfl
  rw [held_push, List.filterMap_eq_nil_iff.2 h]
  exact zero_add _

theorem ledger_pop {f : Frame β ρ α} {below : List (Frame β ρ α)} (hstack : s.stack = f :: below)
    (hf : f.ending? = none) : ({ s with stack := below } : Session β ρ α).ledger = s.ledger := by
  refine ledger_congr ?_ rfl rfl rfl rfl rfl
  rw [held_pop hstack, hf]
  exact (zero_add _).symm

theorem ledger_replace {f : Frame β ρ α} {below : List (Frame β ρ α)}
    (hstack : s.stack = f :: below) (hf : f.ending? = none) (g : Frame β ρ α)
    (hg : g.ending? = none) :
    ({ s with stack := g :: below } : Session β ρ α).ledger = s.ledger := by
  rw [← ledger_pop hstack hf]
  have hpush : (({ s with stack := below } : Session β ρ α).push [g]).ledger = _ :=
    ledger_push (by simpa using hg)
  exact hpush

theorem ledger_note {o : Occurrence β ρ α} (hregistration : o.registration? = none)
    (hending : o.ending? = none) : (s.note o).ledger = s.ledger := by
  simp only [ledger, note, List.filterMap_cons, hregistration, hending]
  rfl

/-- What is taken off the shelf is not held by it any more. -/
theorem held_unshelve (hnames : (s.shelf.map Prod.fst).Nodup) (name : String) :
    s.held = .ofList ((s.shelf.lookup name).toList.filterMap Subscription.active?) +
      (s.unshelve name).held := by
  have hperm := (perm_lookup_filter s.shelf name hnames).filterMap (·.2.active?)
  rw [List.filterMap_append, List.filterMap_map] at hperm
  rw [held, Multiset.coe_eq_coe.2 hperm, ← Multiset.coe_add, add_assoc, add_assoc, held, add_assoc]
  rfl

/-- A subscription that goes from the shelf to the stack is still held. -/
theorem ledger_unshelve_push (hnames : (s.shelf.map Prod.fst).Nodup) {name : String}
    {subscription : Subscription ρ} (hlookup : s.shelf.lookup name = some subscription)
    {frames : List (Frame β ρ α)}
    (hframes : frames.filterMap Frame.ending? = [subscription].filterMap Subscription.active?) :
    ((s.unshelve name).push frames).ledger = s.ledger := by
  refine ledger_congr ?_ rfl rfl rfl rfl rfl
  rw [held_push, hframes, held_unshelve hnames name, hlookup]
  rfl

/-- A subscription that goes from the shelf to an object is still held. -/
theorem ledger_give (hnames : (s.shelf.map Prod.fst).Nodup) {name : String}
    {subscription : Subscription ρ} (hlookup : s.shelf.lookup name = some subscription)
    (object : Nat) :
    ({ s.unshelve name with owned := s.owned ++ [(object, subscription)] } :
      Session β ρ α).ledger = s.ledger := by
  refine ledger_congr ?_ rfl rfl rfl rfl rfl
  rw [held_unshelve hnames name, hlookup]
  simp only [held, List.filterMap_append, ← Multiset.coe_add]
  ac_rfl

/-- A new subscription is held, and the one that it replaces still is. -/
theorem ledger_store (hnames : (s.shelf.map Prod.fst).Nodup) (name : String)
    (release : Release ρ) : (s.store name release).ledger = s.ledger.subscribe release := by
  have hframes : ((s.shelf.lookup name).toList.map Frame.finish ++
      [.answer (.stored (s.shelf.lookup name).isSome)] : List (Frame β ρ α)).filterMap
        Frame.ending? = (s.shelf.lookup name).toList.filterMap Subscription.active? := by
    cases s.shelf.lookup name <;> rfl
  have hnew : ({ s.unshelve name with
      nextSubscription := s.nextSubscription + 1
      shelf := (name, ⟨s.nextSubscription, some release⟩) :: (s.unshelve name).shelf } :
        Session β ρ α).held = (s.nextSubscription, release) ::ₘ (s.unshelve name).held := by
    rfl
  have hheld : (s.store name release).held = (s.nextSubscription, release) ::ₘ s.held := by
    rw [held_unshelve hnames name, ← Multiset.add_cons, ← hnew, ← hframes]
    exact held_push _ _
  simp only [ledger, hheld]
  rfl

/-- An object that goes leaves its subscriptions on the stack. -/
theorem ledger_endObject (s : Session β ρ α) (object : Nat) :
    (s.endObject object).ledger = s.ledger := by
  refine ledger_congr ?_ rfl rfl rfl rfl rfl
  have hperm := (List.filter_append_perm (·.1 = object) s.owned).filterMap (·.2.active?)
  rw [List.filterMap_append] at hperm
  have hgone : ((s.owned.filter (·.1 = object)).map fun o =>
      (Frame.finish o.2 : Frame β ρ α)).filterMap Frame.ending? =
        (s.owned.filter (·.1 = object)).filterMap (·.2.active?) := by
    rw [List.filterMap_map]
    rfl
  simp only [held, endObject, List.filterMap_append, hgone, ← Multiset.coe_add,
    ← Multiset.coe_eq_coe.2 hperm, ne_eq, decide_not]
  ac_rfl

/-! ### Steps -/

theorem step_settleList (s : Session β ρ α) : Ledger.Step s.ledger s.settleList.ledger := by
  unfold settleList
  split
  · have hsweeps : ∀ f ∈ ((s.registry.entries.map (·.callback.object)).map .sweep :
        List (Frame β ρ α)), f.ending? = none := by
      simp [Frame.ending?]
    let t : Session β ρ α :=
      { s with isAlive := false, registry := { s.registry with entries := [] } }
    have hends : Ledger.Step s.ledger t.ledger := .expire
    rw [← ledger_push (s := t) hsweeps] at hends
    exact hends
  · exact .stay

theorem step_withList (h : Ledger.Step s.ledger t.ledger) :
    Ledger.Step s.ledger (s.withList t).ledger := by
  unfold withList
  split
  · exact .of_eq (ledger_push (by simp [Frame.ending?]))
  split
  · exact .fail
  · exact h

theorem step_withSubscription {name : String} {f : Subscription ρ → Session β ρ α}
    (h : ∀ subscription, s.shelf.lookup name = some subscription →
      (f subscription).ledger = s.ledger) :
    Ledger.Step s.ledger (s.withSubscription name f).ledger := by
  unfold withSubscription
  split
  · next subscription hlookup => exact .of_eq (h subscription hlookup)
  · exact .of_eq (ledger_push (by simp [Frame.ending?]))

theorem step_act (hs : Tidy s) (a : Action β ρ α) : Ledger.Step s.ledger (s.act a).ledger := by
  cases a with
  | register name callback =>
    apply step_withList
    let t : Session β ρ α := { s with registry := s.registry.register callback }.note
      (.registered ⟨s.registry.nextId, callback⟩ s.nextSubscription)
    have ht : t.ledger = { s.ledger with
        registry := s.registry.register callback
        registrations :=
          s.ledger.registrations ++ [(⟨s.registry.nextId, callback⟩, s.nextSubscription)] } := by
      simp only [ledger, t, note, List.filterMap_cons, Occurrence.registration?, List.reverse_cons]
      rfl
    have hstore := ledger_store (s := t) hs.names name (.entry s.registry.nextId)
    rw [ht] at hstore
    exact Eq.symm hstore ▸ .register callback
  | own name label =>
    rw [act, ledger_store hs.names]
    exact .own label
  | release name | drop name =>
    refine step_withSubscription fun subscription hlookup => ?_
    exact ledger_unshelve_push hs.names hlookup rfl
  | inspect name =>
    exact step_withSubscription fun subscription _ => ledger_push (by simp [Frame.ending?])
  | give name object =>
    simp only [act]
    split
    · refine step_withSubscription fun subscription hlookup => ?_
      rw [ledger_push (by simp [Frame.ending?]), ledger_give hs.names hlookup]
    · exact .of_eq (ledger_push (by simp [Frame.ending?]))
  | keep object =>
    simp only [act]
    split
    · exact .of_eq
        (ledger_push (s := { s with kept := object :: s.kept }) (by simp [Frame.ending?]))
    · exact .of_eq (ledger_push (by simp [Frame.ending?]))
  | forget object =>
    let t : Session β ρ α := { s with kept := s.kept.filter (· ≠ object) }
    exact .of_eq (ledger_push (s := t) (by simp [Frame.ending?]))
  | each value =>
    apply step_withList
    rw [ledger_push (by simp [Frame.ending?]), ledger_note rfl rfl]
    exact .stay
  | count =>
    apply step_withList
    exact .of_eq (ledger_push (by simp [Frame.ending?]))
  | dropList =>
    have hgone : ({ s with isHeld := false }.push [.answer .listDropped]).ledger = s.ledger :=
      ledger_push (by simp [Frame.ending?])
    have hsettle := step_settleList ({ s with isHeld := false }.push [.answer .listDropped])
    rw [hgone] at hsettle
    exact hsettle

theorem step_returned (s : Session β ρ α) : Ledger.Step s.ledger s.returned.ledger := by
  refine .of_eq ?_
  unfold returned
  split
  · next dispatch value current rest below hstack =>
    rw [← ledger_replace hstack rfl (.deliver dispatch value rest) rfl]
    have hsweep : (({ s with stack := .deliver dispatch value rest :: below } :
        Session β ρ α).push [.sweep current.callback.object]).ledger = _ :=
      ledger_push (by simp [Frame.ending?])
    exact hsweep
  · next hstack => exact ledger_pop hstack rfl
  · rfl

/-- The subscription of a registration has ended, and its release is at work. -/
theorem step_removeEntry {n id : Nat} {others : Multiset (Nat × Release ρ)}
    (ht : t.ledger = s.ledger.finish n (.entry id) others)
    (hheld : s.held = (n, .entry id) ::ₘ others) (hfailed : s.hasFailed = false) :
    Ledger.Step s.ledger (t.removeEntry id).ledger := by
  have halive : t.isAlive = s.isAlive := congrArg Ledger.isAlive ht
  have hregistry : t.registry = s.registry := congrArg Ledger.registry ht
  unfold removeEntry
  split
  · next hdead =>
    rw [ht]
    exact .outlive hheld (show s.isAlive = false by simpa [halive] using hdead)
  next hliving =>
  -- this is what happens also when the number is not in the list any more
  have hremove : Ledger.Step s.ledger { t.ledger with registry := t.registry.remove id } := by
    rw [ht, hregistry]
    exact .remove hheld (show s.isAlive = true by simpa [halive] using hliving) hfailed
  split
  · have hcollide : Ledger.Step s.ledger { t.ledger with hasFailed := true } := by
      rw [ht]
      exact .collide hheld
    exact hcollide
  split
  · rw [ledger_push (by simp [Frame.ending?])]
    exact hremove
  · next hnone =>
    rw [Registry.remove_of_find?_eq_none hnone] at hremove
    exact hremove

theorem step_tick (s : Session β ρ α) (hfailed : s.hasFailed = false) :
    Ledger.Step s.ledger s.tick.ledger := by
  unfold tick
  split
  · next dispatch value entry rest below hstack =>
    exact .of_eq ((ledger_note rfl rfl).trans (ledger_replace hstack rfl _ rfl))
  · next dispatch value below hstack =>
    have hpop : ({ s with stack := below }.note (.ended dispatch)).ledger = s.ledger := by
      rw [ledger_note rfl rfl, ledger_pop hstack rfl]
    rw [← hpop]
    exact step_settleList _
  · next subscription below hstack =>
    have hheld := held_pop hstack
    simp only
    split
    · next hrelease =>
      have hnone : (Frame.finish subscription : Frame β ρ α).ending? = none := by
        simp [Frame.ending?, Subscription.active?, hrelease]
      exact .of_eq (ledger_pop hstack hnone)
    · next id hrelease =>
      simp only [Frame.ending?, Subscription.active?, hrelease] at hheld
      exact step_removeEntry rfl hheld hfailed
    · next label hrelease =>
      simp only [Frame.ending?, Subscription.active?, hrelease] at hheld
      rw [ledger_push (by simp [Frame.ending?])]
      exact .release hheld
  · next object below hstack =>
    have hpop := ledger_pop hstack rfl
    simp only
    split
    · exact .of_eq hpop
    · exact .of_eq ((ledger_endObject _ object).trans hpop)
  · next below hstack =>
    rw [← ledger_pop hstack rfl]
    exact step_settleList _
  · next a below hstack =>
    exact .of_eq ((ledger_note rfl rfl).trans (ledger_pop hstack rfl))
  · exact .stay

/-- Every input is one step of the ledger. -/
theorem step_feed (hs : Tidy s) (i : Input β ρ α) : Ledger.Step s.ledger (s.feed i).ledger :=
  feed_of (P := fun t => Ledger.Step s.ledger t.ledger) .stay (step_tick s)
    (fun a _ _ => step_act hs a) (fun _ => step_returned s) i

/-- What has ended stays ended. -/
theorem mem_ended_run (hs : Tidy s) (inputs : List (Input β ρ α)) {p : Nat × Release ρ}
    (hp : p ∈ s.ledger.ended) : p ∈ (s.run inputs).ledger.ended := by
  refine (run_of (P := fun t : Session β ρ α => Tidy t ∧ p ∈ t.ledger.ended) ?_ ⟨hs, hp⟩ inputs).2
  rintro t i ⟨ht, hp⟩
  exact ⟨ht.feed i, (step_feed ht i).ended_suffix.subset hp⟩

theorem journal_removeEntry (s : Session β ρ α) (id : Nat) :
    (s.removeEntry id).journal = s.journal := by
  unfold removeEntry
  split
  · rfl
  split
  · rfl
  split <;> rfl

theorem mem_ended_tick {subscription : Subscription ρ} {below : List (Frame β ρ α)}
    {x : Release ρ} (hstack : s.stack = .finish subscription :: below)
    (hrelease : subscription.release = some x) :
    (subscription.number, x) ∈ s.tick.ledger.ended := by
  have hjournal : s.tick.journal = .released subscription.number x :: s.journal := by
    unfold tick
    rw [hstack]
    simp only [hrelease]
    cases x with
    | entry id => exact journal_removeEntry _ id
    | custom label => rfl
  rw [ledger, hjournal]
  exact List.mem_cons_self ..

end Session

theorem sound_empty : ({} : Session β ρ α).ledger.Sound where
  wellNumbered := Registry.wellNumbered_empty
  ids := rfl
  numbers := rfl
  matched n id := by simp [Session.ledger, Ledger.subscriptions, Session.held]
  entries _ _ := rfl

/-- The list and the subscriptions agree at every moment. -/
theorem sound_run (inputs : List (Input β ρ α)) :
    (({} : Session β ρ α).run inputs).ledger.Sound := by
  refine (Session.run_of (P := fun s : Session β ρ α => Tidy s ∧ s.ledger.Sound) ?_
    ⟨.empty, sound_empty⟩ inputs).2
  rintro s i ⟨htidy, hsound⟩
  exact ⟨htidy.feed i, hsound.step (Session.step_feed htidy i)⟩

/-! ## Released or let go of -/

/-- A subscription that is about to end ends with the next step, and nobody acts before. -/
theorem mem_ended_of_finish {s : Session β ρ α} (hs : Tidy s) (hfailed : s.hasFailed = false)
    {subscription : Subscription ρ} {below : List (Frame β ρ α)} {x : Release ρ}
    (hstack : s.stack = .finish subscription :: below) (hrelease : subscription.release = some x)
    {inputs : List (Input β ρ α)} (hlater : (s.run inputs).isTurn = true ∨ .tick ∈ inputs) :
    (subscription.number, x) ∈ (s.run inputs).ledger.ended := by
  have hwaits : s.isTurn = false := by simp [Session.isTurn, hstack, Frame.isTurn]
  induction inputs with
  | nil => simp [Session.run, hwaits] at hlater
  | cons i inputs ih =>
    cases i with
    | tick =>
      have htick : s.feed .tick = s.tick := by simp [Session.feed, hfailed]
      refine Session.mem_ended_run (hs.feed .tick) inputs ?_
      exact htick ▸ Session.mem_ended_tick hstack hrelease
    | act a =>
      have hsame : s.run (.act a :: inputs) = s.run inputs := by
        simp [Session.run, Session.feed, hwaits]
      rw [hsame] at hlater ⊢
      exact ih (by simpa using hlater)
    | done =>
      have hsame : s.run (.done :: inputs) = s.run inputs := by
        simp [Session.run, Session.feed, Session.returned, hstack]
      rw [hsame] at hlater ⊢
      exact ih (by simpa using hlater)

/-- A subscription that is released or let go of ends next. -/
theorem exists_mem_ended {s : Session β ρ α} (hs : Tidy s) (hturn : s.isTurn = true)
    (hfailed : s.hasFailed = false) {name : String} {subscription : Subscription ρ}
    (hlookup : s.shelf.lookup name = some subscription) {a : Action β ρ α}
    (ha : a = .release name ∨ a = .drop name) :
    ∃ x, subscription.release = some x ∧ ∀ during,
      ((s.feed (.act a)).run during).isTurn = true ∨ .tick ∈ during →
        (subscription.number, x) ∈ ((s.feed (.act a)).run during).ledger.ended := by
  have hmem : (name, subscription) ∈ s.shelf := by
    obtain ⟨front, back, hshelf, -⟩ := List.lookup_eq_some_iff.1 hlookup
    rw [hshelf]
    exact List.mem_append_right _ (List.mem_cons_self ..)
  obtain ⟨x, hrelease⟩ := Option.isSome_iff_exists.1 (hs.active _ hmem)
  obtain ⟨frames, hact⟩ : ∃ frames,
      s.feed (.act a) = (s.unshelve name).push (.finish subscription :: frames) := by
    have hfeed : s.feed (.act a) = s.act a := by simp [Session.feed, hturn, hfailed]
    rw [hfeed]
    rcases ha with rfl | rfl
    · refine ⟨[.finish subscription.ended, .answer .released], ?_⟩
      simp only [Session.act, Session.withSubscription, hlookup]
    · refine ⟨[.answer .dropped], ?_⟩
      simp only [Session.act, Session.withSubscription, hlookup]
  have hfailed' : (s.feed (.act a)).hasFailed = false := hact ▸ hfailed
  have hstack : (s.feed (.act a)).stack = .finish subscription :: (frames ++ s.stack) :=
    hact ▸ rfl
  exact ⟨x, hrelease, fun during => mem_ended_of_finish (hs.feed _) hfailed' hstack hrelease⟩

end DeviceStatus.Callbacks
