import DeviceStatus.Callbacks.Session

/-!
# Changes of the list

To take a registration out is the only change of the list that takes several steps: the list is let
go of when the object of the registration has gone, if that was the last reference to it. With the
object go the subscriptions that it owns, and these reach for the list. So a change is disturbed
when it takes out an object that owns something (`Session.takesOutOwner`); all others come to their
end (`Undisturbed`).
-/

namespace DeviceStatus.Callbacks

variable {β ρ α : Type}

namespace Session

/-- The registration that the next tick takes out of the list. -/
def outgoing? (s : Session β ρ α) : Option (Entry (Callback β)) :=
  match s.stack with
  | .finish ⟨_, some (.entry id)⟩ :: _ => if s.isAlive then s.registry.find? id else none
  | _ => none

/-- Whether an object stays, or owns nothing. -/
def mayLetGo (s : Session β ρ α) (object : Nat) : Bool :=
  s.refersTo object || s.owned.all (·.1 ≠ object)

/-- Whether the next tick takes the last reference to an object that owns a subscription out of the
list. -/
def takesOutOwner (s : Session β ρ α) : Bool :=
  s.outgoing?.any fun entry =>
    !({ s with registry := s.registry.remove entry.id } : Session β ρ α).mayLetGo
      entry.callback.object

end Session

/-- What holds of a session, and of everything that this input may make of it, holds after it. -/
theorem feed_of_act {P : Session β ρ α → Prop} {s : Session β ρ α} {i : Input β ρ α} (same : P s)
    (tick : P s.tick) (act : ∀ a, i = .act a → s.isTurn = true → P (s.act a))
    (returned : P s.returned) : P (s.feed i) := by
  cases i with
  | tick =>
    simp only [Session.feed]
    split
    · exact same
    · exact tick
  | act a =>
    simp only [Session.feed]
    split
    · exact same
    · next hfree =>
      obtain ⟨-, hturn⟩ : s.hasFailed = false ∧ s.isTurn = true := by simpa using hfree
      exact act a rfl hturn
  | done =>
    simp only [Session.feed]
    split
    · exact same
    · exact returned

/-- What has no objects of its own makes no difference to who is referred to. -/
theorem refersTo_pop {s : Session β ρ α} {f : Frame β ρ α} {below : List (Frame β ρ α)}
    (hstack : s.stack = f :: below) (hf : f.objects = []) (object : Nat) :
    ({ s with stack := below } : Session β ρ α).refersTo object = s.refersTo object := by
  simp [Session.refersTo, hstack, hf]

/-! ## Between the changes -/

/-- No change of the list is under way. -/
structure Idle (s : Session β ρ α) : Prop where
  /-- No change was attempted during another one. -/
  unfailed : s.hasFailed = false
  /-- Nothing that is going on is a change of the list. -/
  stack : ∀ f ∈ s.stack, f.isChange = false

namespace Idle

variable {s t : Session β ρ α}

theorem isChanging (h : Idle s) : s.isChanging = false := by
  rw [Session.isChanging, List.any_eq_false]
  exact fun f hf => by simp [h.stack f hf]

/-- Other parts of the session may change. -/
theorem congr (h : Idle s) (hfailed : t.hasFailed = s.hasFailed) (hstack : t.stack = s.stack) :
    Idle t :=
  ⟨hfailed.trans h.unfailed, hstack ▸ h.stack⟩

theorem push (h : Idle s) {frames : List (Frame β ρ α)}
    (hframes : ∀ f ∈ frames, f.isChange = false) : Idle (s.push frames) :=
  ⟨h.unfailed, List.forall_mem_append.2 ⟨hframes, h.stack⟩⟩

theorem replace (h : Idle s) {f : Frame β ρ α} {below : List (Frame β ρ α)}
    (hstack : s.stack = f :: below) (frames : List (Frame β ρ α))
    (hframes : ∀ f ∈ frames, f.isChange = false) :
    Idle ({ s with stack := frames ++ below }) := by
  refine ⟨h.unfailed, List.forall_mem_append.2 ⟨hframes, fun g hg => h.stack g ?_⟩⟩
  rw [hstack]
  exact List.mem_cons_of_mem _ hg

theorem pop (h : Idle s) {f : Frame β ρ α} {below : List (Frame β ρ α)}
    (hstack : s.stack = f :: below) : Idle { s with stack := below } :=
  h.replace hstack [] (by simp)

theorem endObject (h : Idle s) (object : Nat) : Idle (s.endObject object) := by
  have hgone : Idle { s with owned := s.owned.filter (·.1 ≠ object) } := h.congr rfl rfl
  refine hgone.push fun f hf => ?_
  obtain ⟨o, -, rfl⟩ := List.mem_map.1 hf
  rfl

theorem settleList (h : Idle s) : Idle s.settleList := by
  unfold Session.settleList
  split
  · have hends : Idle { s with
        isAlive := false
        registry := { s.registry with entries := [] } } := h.congr rfl rfl
    exact hends.push (by simp [Frame.isChange])
  · exact h

theorem store (h : Idle s) (name : String) (release : Release ρ) :
    Idle (s.store name release) := by
  have hnew : Idle { s with
      nextSubscription := s.nextSubscription + 1
      shelf := (name, ⟨s.nextSubscription, some release⟩) :: s.shelf.filter (·.1 ≠ name) } :=
    h.congr rfl rfl
  refine hnew.push ?_
  cases s.shelf.lookup name <;> simp [Frame.isChange]

theorem withList (h : Idle s) (ht : Idle t) : Idle (s.withList t) := by
  unfold Session.withList
  split
  · exact h.push (by simp [Frame.isChange])
  · rw [h.isChanging]
    exact ht

theorem withSubscription (h : Idle s) {name : String} {f : Subscription ρ → Session β ρ α}
    (hf : ∀ subscription, Idle (f subscription)) : Idle (s.withSubscription name f) := by
  unfold Session.withSubscription
  split
  · exact hf _
  · exact h.push (by simp [Frame.isChange])

theorem act (h : Idle s) (a : Action β ρ α) : Idle (s.act a) := by
  cases a with
  | register name callback =>
    have hnew : Idle ({ s with registry := s.registry.register callback }.note
        (.registered ⟨s.registry.nextId, callback⟩ s.nextSubscription)) := h.congr rfl rfl
    exact h.withList (hnew.store name _)
  | own name label => exact h.store name _
  | release name | drop name =>
    have hoff : Idle (s.unshelve name) := h.congr rfl rfl
    exact h.withSubscription fun _ => hoff.push (by simp [Frame.isChange])
  | inspect name => exact h.withSubscription fun _ => h.push (by simp [Frame.isChange])
  | give name object =>
    simp only [Session.act]
    split
    · refine h.withSubscription fun subscription => ?_
      have hgiven : Idle { s.unshelve name with owned := s.owned ++ [(object, subscription)] } :=
        h.congr rfl rfl
      exact hgiven.push (by simp [Frame.isChange])
    · exact h.push (by simp [Frame.isChange])
  | keep object =>
    simp only [Session.act]
    split
    · have hkept : Idle { s with kept := object :: s.kept } := h.congr rfl rfl
      exact hkept.push (by simp [Frame.isChange])
    · exact h.push (by simp [Frame.isChange])
  | forget object =>
    have hkept : Idle { s with kept := s.kept.filter (· ≠ object) } := h.congr rfl rfl
    exact hkept.push (by simp [Frame.isChange])
  | each value =>
    have hbegin : Idle ({ s with nextDispatch := s.nextDispatch + 1 }.note
        (.began s.nextDispatch (s.registry.entries.map Entry.id))) := h.congr rfl rfl
    exact h.withList (hbegin.push (by simp [Frame.isChange]))
  | count => exact h.withList (h.push (by simp [Frame.isChange]))
  | dropList =>
    have hgone : Idle { s with isHeld := false } := h.congr rfl rfl
    exact (hgone.push (by simp [Frame.isChange])).settleList

theorem returned (h : Idle s) : Idle s.returned := by
  unfold Session.returned
  split
  · next dispatch value current rest below hstack =>
    exact h.replace hstack [.sweep current.callback.object, .deliver dispatch value rest]
      (by simp [Frame.isChange])
  · next hstack => exact h.pop hstack
  · exact h

end Idle

/-! ## During a change -/

/-- No change of the list is under way, or one that comes to its end. -/
inductive Undisturbed (s : Session β ρ α) : Prop
  /-- No change is under way. -/
  | idle (h : Idle s)
  /-- The list has been changed, and this ends now. -/
  | changing {below : List (Frame β ρ α)} (hstack : s.stack = .changing :: below)
    (h : Idle { s with stack := below })
  /-- The object that was taken out may go away during the change. -/
  | sweeping {object : Nat} {below : List (Frame β ρ α)}
    (hstack : s.stack = .sweep object :: .changing :: below) (hobject : s.mayLetGo object = true)
    (h : Idle { s with stack := below })

namespace Undisturbed

variable {s : Session β ρ α}

theorem unfailed (h : Undisturbed s) : s.hasFailed = false := by
  cases h with
  | idle h | changing _ h | sweeping _ _ h => exact h.unfailed

theorem removeEntry (h : Idle s) {id : Nat}
    (hobject : ∀ entry, s.isAlive = true → s.registry.find? id = some entry →
      ({ s with registry := s.registry.remove id } : Session β ρ α).mayLetGo
        entry.callback.object = true) : Undisturbed (s.removeEntry id) := by
  unfold Session.removeEntry
  split
  · exact .idle h
  next halive =>
  rw [h.isChanging]
  simp only [Bool.false_eq_true, if_false]
  split
  · next entry hfind =>
    have hkept := hobject entry (by simpa using halive) hfind
    refine .sweeping rfl ?_ (h.congr rfl rfl)
    simpa [Session.mayLetGo, Session.refersTo, Session.push, Frame.objects] using hkept
  · exact .idle h

theorem tick (h : Idle s) (hout : s.takesOutOwner = false) : Undisturbed s.tick := by
  unfold Session.tick
  split
  · next dispatch value entry rest below hstack =>
    have hcall := h.replace hstack [.call dispatch value entry rest] (by simp [Frame.isChange])
    exact .idle (hcall.congr rfl rfl)
  · next dispatch value below hstack =>
    have hpop : Idle ({ s with stack := below }.note (.ended dispatch)) :=
      (h.pop hstack).congr rfl rfl
    exact .idle hpop.settleList
  · next subscription below hstack =>
    have hpop := h.pop hstack
    simp only
    split
    · exact .idle hpop
    · next id hrelease =>
      have hnote : Idle ({ s with stack := below }.note
          (.released subscription.number (.entry id))) := hpop.congr rfl rfl
      refine removeEntry hnote fun entry halive hfind => ?_
      have halive' : s.isAlive = true := halive
      have houtgoing : s.outgoing? = some entry := by
        obtain ⟨number, release⟩ := subscription
        obtain rfl : release = some (.entry id) := hrelease
        rw [Session.outgoing?, hstack]
        simp only [halive', if_true]
        exact hfind
      obtain rfl : entry.id = id := by simpa using List.find?_some hfind
      rw [Session.takesOutOwner, houtgoing, Option.any_some, Bool.not_eq_false'] at hout
      simpa [Session.mayLetGo, Session.refersTo, Session.note, hstack, Frame.objects] using hout
    · next label hrelease =>
      have hnote : Idle ({ s with stack := below }.note
          (.released subscription.number (.custom label))) := hpop.congr rfl rfl
      exact .idle (hnote.push (by simp [Frame.isChange]))
  · next object below hstack =>
    have hpop := h.pop hstack
    simp only
    split
    · exact .idle hpop
    · exact .idle (hpop.endObject object)
  · next below hstack => exact .idle (h.pop hstack).settleList
  · next a below hstack => exact .idle ((h.pop hstack).congr rfl rfl)
  · exact .idle h

/-- Where a change that takes out no owner begins, nothing disturbs it. -/
theorem feed (h : Undisturbed s) (hout : s.takesOutOwner = false) (i : Input β ρ α) :
    Undisturbed (s.feed i) := by
  cases h with
  | idle h =>
    exact Session.feed_of (.idle h) (fun _ => tick h hout) (fun a _ _ => .idle (h.act a))
      (fun _ => .idle h.returned) i
  | @changing below hstack h =>
    refine Session.feed_of (.changing hstack h) (fun _ => ?_) (fun a _ hturn => ?_) (fun _ => ?_) i
    · have htick : s.tick = ({ s with stack := below } : Session β ρ α).settleList := by
        rw [Session.tick, hstack]
      exact .idle (htick ▸ h.settleList)
    · simp [Session.isTurn, hstack, Frame.isTurn] at hturn
    · have hsame : s.returned = s := by rw [Session.returned, hstack]
      rw [hsame]
      exact .changing hstack h
  | @sweeping object below hstack hobject h =>
    refine Session.feed_of (.sweeping hstack hobject h) (fun _ => ?_) (fun a _ hturn => ?_)
      (fun _ => ?_) i
    · simp only [Session.tick, hstack]
      split
      · exact .changing rfl h
      · next hgone =>
        -- Nothing that the object owns comes between it and the end of the change.
        rw [refersTo_pop hstack rfl] at hgone
        have hnothing : s.owned.filter (·.1 = object) = [] := by
          simpa [Session.mayLetGo, hgone, List.filter_eq_nil_iff] using hobject
        have hidle : Idle { ({ s with stack := .changing :: below } : Session β ρ α).endObject
            object with stack := below } := h.congr rfl rfl
        exact .changing (by simp [Session.endObject, hnothing]) hidle
    · simp [Session.isTurn, hstack, Frame.isTurn] at hturn
    · have hsame : s.returned = s := by rw [Session.returned, hstack]
      rw [hsame]
      exact .sweeping hstack hobject h

end Undisturbed

theorem undisturbed_empty : Undisturbed ({} : Session β ρ α) :=
  .idle ⟨rfl, by simp⟩

/-! ## What objects own -/

theorem settleList_owned (s : Session β ρ α) : s.settleList.owned = s.owned := by
  unfold Session.settleList
  split <;> rfl

theorem removeEntry_owned (s : Session β ρ α) (id : Nat) : (s.removeEntry id).owned = s.owned := by
  unfold Session.removeEntry
  split
  · rfl
  split
  · rfl
  split <;> rfl

theorem withList_owned {s t : Session β ρ α} (ht : t.owned = s.owned) :
    (s.withList t).owned = s.owned := by
  unfold Session.withList
  split
  · rfl
  split
  · rfl
  · exact ht

theorem withSubscription_owned {s : Session β ρ α} {name : String}
    {f : Subscription ρ → Session β ρ α} (hf : ∀ subscription, (f subscription).owned = s.owned) :
    (s.withSubscription name f).owned = s.owned := by
  unfold Session.withSubscription
  split
  · exact hf _
  · rfl

theorem returned_owned (s : Session β ρ α) : s.returned.owned = s.owned := by
  unfold Session.returned
  split <;> rfl

/-- Ticks hand no subscription over. -/
theorem tick_owned_subset (s : Session β ρ α) : s.tick.owned ⊆ s.owned := by
  unfold Session.tick
  split
  · exact List.Subset.refl _
  · rw [settleList_owned]
    exact List.Subset.refl _
  · simp only
    split
    · exact List.Subset.refl _
    · rw [removeEntry_owned]
      exact List.Subset.refl _
    · exact List.Subset.refl _
  · simp only
    split
    · exact List.Subset.refl _
    · exact fun _ ho => (List.mem_filter.1 ho).1
  · rw [settleList_owned]
    exact List.Subset.refl _
  · exact List.Subset.refl _
  · exact List.Subset.refl _

theorem act_owned (s : Session β ρ α) {a : Action β ρ α}
    (ha : ∀ name object, a ≠ .give name object) : (s.act a).owned = s.owned := by
  cases a with
  | register | each | count => exact withList_owned rfl
  | release | drop | inspect => exact withSubscription_owned fun _ => rfl
  | own | forget => rfl
  | give name object => exact absurd rfl (ha name object)
  | keep object =>
    simp only [Session.act]
    split <;> rfl
  | dropList => exact settleList_owned _

/-- A subscription gets to an object from the shelf, and somebody refers to the object. -/
theorem mem_owned_give {s : Session β ρ α} {name : String} {object : Nat}
    {o : Nat × Subscription ρ} (h : o ∈ (s.act (.give name object)).owned) :
    o ∈ s.owned ∨
      o.1 = object ∧ s.shelf.lookup name = some o.2 ∧ s.refersTo object = true := by
  simp only [Session.act] at h
  split at h
  · next hobject =>
    rw [Session.withSubscription] at h
    split at h
    · next subscription hlookup =>
      rcases List.mem_append.1 h with h | h
      · exact .inl h
      · obtain rfl := List.mem_singleton.1 h
        exact .inr ⟨rfl, hlookup, hobject⟩
    · exact .inl h
  · exact .inl h

/-- As long as nothing is handed over, objects own no more than before. -/
theorem feed_owned_subset (s : Session β ρ α) {i : Input β ρ α}
    (hi : ∀ name object, i ≠ .act (.give name object)) : (s.feed i).owned ⊆ s.owned := by
  refine feed_of_act (P := fun t => t.owned ⊆ s.owned) (List.Subset.refl _) (tick_owned_subset s)
    (fun a ha _ => ?_) ?_
  · rw [act_owned s fun name object hgive => hi name object (hgive ▸ ha)]
    exact List.Subset.refl _
  · rw [returned_owned]
    exact List.Subset.refl _

/-- A session in which nobody owns anything takes no owner out. -/
theorem takesOutOwner_of_owned_eq_nil {s : Session β ρ α} (howned : s.owned = []) :
    s.takesOutOwner = false := by
  rw [Session.takesOutOwner]
  cases s.outgoing? <;> simp [Session.mayLetGo, howned]

end DeviceStatus.Callbacks
