import DeviceStatus.Proofs.Callbacks.Workload

/-!
# Calling all callbacks

The callbacks that are called are those registered at the moment when the dispatch began, whatever
they do meanwhile. A dispatch is one frame on the stack, which holds the calls that are still to be
made; what goes on above it comes and goes, and nothing but its own steps touches it. `Turnover`
says what an input does to the frames of dispatches, and `Serving` is what this preserves: the calls
made and the calls to be made are together the plan of the dispatch.
-/

namespace DeviceStatus.Callbacks

variable {β ρ α : Type}

/-- The dispatch of a frame, with the calls that are still to be made. -/
def Frame.dispatch? : Frame β ρ α → Option (Nat × List (Entry (Callback β) × α))
  | call dispatch value _ rest => some (dispatch, rest.map (·, value))
  | deliver dispatch value rest => some (dispatch, rest.map (·, value))
  | _ => none

/-- The dispatch that a call belongs to, or that ends. -/
def Occurrence.dispatch? : Occurrence β ρ α → Option Nat
  | called dispatch .. => some dispatch
  | ended dispatch => some dispatch
  | _ => none

/-- A call of a dispatch: what was called, and with which value. -/
def Occurrence.callOf? (dispatch : Nat) : Occurrence β ρ α → Option (Entry (Callback β) × α)
  | called d entry value => if d = dispatch then some (entry, value) else none
  | _ => none

/-- Whether a dispatch ends. -/
def Occurrence.isEndOf (dispatch : Nat) : Occurrence β ρ α → Bool
  | ended d => d = dispatch
  | _ => false

namespace Session

/-- The calls of a dispatch, oldest first. -/
def calls (s : Session β ρ α) (dispatch : Nat) : List (Entry (Callback β) × α) :=
  (s.journal.filterMap (·.callOf? dispatch)).reverse

/-- Whether a dispatch has ended. -/
def hasEnded (s : Session β ρ α) (dispatch : Nat) : Bool := s.journal.any (·.isEndOf dispatch)

/-- Whether the one who is to act has the list and may use it. -/
def mayUseList (s : Session β ρ α) : Bool :=
  s.isTurn && s.isHeld && !s.isChanging && !s.hasFailed

end Session

/-! ## What an input does -/

/-- When the list ends, it leaves objects that may go away. -/
theorem settleList_frames (s : Session β ρ α) :
    ∃ frames, (∀ f ∈ frames, f.dispatch? = none) ∧ s.settleList.stack = frames ++ s.stack ∧
      s.settleList.journal = s.journal ∧ s.settleList.nextDispatch = s.nextDispatch := by
  unfold Session.settleList
  split
  · exact ⟨_, by simp [Frame.dispatch?], rfl, rfl, rfl⟩
  · exact ⟨[], by simp⟩

/-- No dispatch is touched: at most one frame that belongs to none is replaced by others. -/
structure Quiet (s s' : Session β ρ α) : Prop where
  /-- The frames that go and those that come belong to no dispatch. -/
  stack : ∃ top below frames, top.length ≤ 1 ∧ s.stack = top ++ below ∧
    s'.stack = frames ++ below ∧ ∀ f ∈ top ++ frames, f.dispatch? = none
  /-- What happens belongs to no dispatch. -/
  journal : ∃ notes, s'.journal = notes ++ s.journal ∧ ∀ o ∈ notes, o.dispatch? = none
  /-- No dispatch begins. -/
  nextDispatch : s'.nextDispatch = s.nextDispatch

namespace Quiet

variable {s s' : Session β ρ α}

theorem refl (s : Session β ρ α) : Quiet s s :=
  ⟨⟨[], s.stack, [], by simp⟩, ⟨[], by simp⟩, rfl⟩

theorem pop {f : Frame β ρ α} {below : List (Frame β ρ α)} (hstack : s.stack = f :: below)
    (hf : f.dispatch? = none) : Quiet s { s with stack := below } :=
  ⟨⟨[f], below, [], by simp [hstack, hf]⟩, ⟨[], by simp⟩, rfl⟩

theorem push (h : Quiet s s') {frames : List (Frame β ρ α)}
    (hframes : ∀ f ∈ frames, f.dispatch? = none) : Quiet s (s'.push frames) := by
  obtain ⟨top, below, above, hlength, hstack, hstack', hnone⟩ := h.stack
  refine ⟨⟨top, below, frames ++ above, hlength, hstack, ?_, ?_⟩, h.journal, h.nextDispatch⟩
  · simp [Session.push, hstack']
  · intro f hf
    rcases List.mem_append.1 hf with hf | hf
    · exact hnone f (List.mem_append_left _ hf)
    rcases List.mem_append.1 hf with hf | hf
    · exact hframes f hf
    · exact hnone f (List.mem_append_right _ hf)

theorem note (h : Quiet s s') {o : Occurrence β ρ α} (ho : o.dispatch? = none) :
    Quiet s (s'.note o) := by
  obtain ⟨notes, hjournal, hnone⟩ := h.journal
  refine ⟨h.stack, ⟨o :: notes, ?_, ?_⟩, h.nextDispatch⟩
  · simp [Session.note, hjournal]
  · exact List.forall_mem_cons.2 ⟨ho, hnone⟩

/-- Other parts of the session may change. -/
theorem congr (h : Quiet s s') {t : Session β ρ α} (hstack : t.stack = s'.stack)
    (hjournal : t.journal = s'.journal) (hnext : t.nextDispatch = s'.nextDispatch) :
    Quiet s t := by
  refine ⟨?_, ?_, hnext.trans h.nextDispatch⟩
  · rw [hstack]
    exact h.stack
  · rw [hjournal]
    exact h.journal

theorem settleList (h : Quiet s s') : Quiet s s'.settleList := by
  obtain ⟨frames, hframes, hstack, hjournal, hnext⟩ := settleList_frames s'
  exact (h.push hframes).congr hstack hjournal hnext

theorem store (h : Quiet s s') (name : String) (release : Release ρ) :
    Quiet s (s'.store name release) := by
  have hnew : Quiet s { s' with
      nextSubscription := s'.nextSubscription + 1
      shelf := (name, ⟨s'.nextSubscription, some release⟩) :: s'.shelf.filter (·.1 ≠ name) } :=
    h.congr rfl rfl rfl
  refine hnew.push ?_
  cases s'.shelf.lookup name <;> simp [Frame.dispatch?]

theorem removeEntry (h : Quiet s s') (id : Nat) : Quiet s (s'.removeEntry id) := by
  unfold Session.removeEntry
  split
  · exact h
  split
  · exact h.congr rfl rfl rfl
  split
  · have hremoved : Quiet s { s' with registry := s'.registry.remove id } := h.congr rfl rfl rfl
    exact hremoved.push (by simp [Frame.dispatch?])
  · exact h

theorem endObject (h : Quiet s s') (object : Nat) : Quiet s (s'.endObject object) := by
  have hgone : Quiet s (s'.push
      ((s'.owned.filter (·.1 = object)).map fun o => Frame.finish o.2)) := by
    refine h.push fun f hf => ?_
    obtain ⟨o, -, rfl⟩ := List.mem_map.1 hf
    rfl
  exact hgone.congr rfl rfl rfl

end Quiet

/-- What an input does to the dispatches. -/
inductive Turnover (s s' : Session β ρ α) : Prop
  /-- Nothing. -/
  | quiet (h : Quiet s s')
  /-- A dispatch begins. -/
  | begin (value : α)
    (hstack : s'.stack =
      .deliver s.nextDispatch value s.registry.entries :: .answer .called :: s.stack)
    (hjournal : s'.journal = .began s.nextDispatch (s.registry.entries.map Entry.id) :: s.journal)
    (hnext : s'.nextDispatch = s.nextDispatch + 1)
  /-- A callback is called. -/
  | next {dispatch : Nat} {value : α} {entry : Entry (Callback β)}
    {rest : List (Entry (Callback β))} {below : List (Frame β ρ α)}
    (hstack : s.stack = .deliver dispatch value (entry :: rest) :: below)
    (hstack' : s'.stack = .call dispatch value entry rest :: below)
    (hjournal : s'.journal = .called dispatch entry value :: s.journal)
    (hnext : s'.nextDispatch = s.nextDispatch)
  /-- A callback returns. -/
  | back {dispatch : Nat} {value : α} {entry : Entry (Callback β)}
    {rest : List (Entry (Callback β))} {below : List (Frame β ρ α)}
    (hstack : s.stack = .call dispatch value entry rest :: below)
    (hstack' : s'.stack = .sweep entry.callback.object :: .deliver dispatch value rest :: below)
    (hjournal : s'.journal = s.journal) (hnext : s'.nextDispatch = s.nextDispatch)
  /-- A dispatch ends. -/
  | finish {dispatch : Nat} {value : α} {below frames : List (Frame β ρ α)}
    (hstack : s.stack = .deliver dispatch value [] :: below) (hstack' : s'.stack = frames ++ below)
    (hframes : ∀ f ∈ frames, f.dispatch? = none)
    (hjournal : s'.journal = .ended dispatch :: s.journal)
    (hnext : s'.nextDispatch = s.nextDispatch)

namespace Turnover

variable (s : Session β ρ α)

theorem answer (a : Answer) : Turnover s (s.push [.answer a]) :=
  .quiet ((Quiet.refl s).push (by simp [Frame.dispatch?]))

theorem withList {t : Session β ρ α} (h : Turnover s t) : Turnover s (s.withList t) := by
  unfold Session.withList
  split
  · exact answer s .noList
  split
  · exact .quiet ⟨(Quiet.refl s).stack, (Quiet.refl s).journal, rfl⟩
  · exact h

theorem withSubscription {name : String} {f : Subscription ρ → Session β ρ α}
    (h : ∀ subscription, Turnover s (f subscription)) :
    Turnover s (s.withSubscription name f) := by
  unfold Session.withSubscription
  split
  · exact h _
  · exact answer s .unknown

theorem act (a : Action β ρ α) : Turnover s (s.act a) := by
  have hrefl := Quiet.refl s
  cases a with
  | register name callback =>
    apply withList
    have hnew : Quiet s { s with registry := s.registry.register callback } :=
      hrefl.congr rfl rfl rfl
    exact .quiet ((hnew.note rfl).store _ _)
  | own name label => exact .quiet (hrefl.store _ _)
  | release name =>
    refine withSubscription s fun subscription => .quiet (Quiet.push ?_ (by simp [Frame.dispatch?]))
    exact hrefl.congr rfl rfl rfl
  | drop name =>
    refine withSubscription s fun subscription => .quiet (Quiet.push ?_ (by simp [Frame.dispatch?]))
    exact hrefl.congr rfl rfl rfl
  | inspect name => exact withSubscription s fun subscription => answer s _
  | give name object =>
    simp only [Session.act]
    split
    · refine withSubscription s fun subscription =>
        .quiet (Quiet.push ?_ (by simp [Frame.dispatch?]))
      exact hrefl.congr rfl rfl rfl
    · exact answer s .unknown
  | keep object =>
    simp only [Session.act]
    split
    · have hkept : Quiet s { s with kept := object :: s.kept } := hrefl.congr rfl rfl rfl
      exact .quiet (hkept.push (by simp [Frame.dispatch?]))
    · exact answer s .unknown
  | forget object =>
    have hkept : Quiet s { s with kept := s.kept.filter (· ≠ object) } := hrefl.congr rfl rfl rfl
    exact .quiet (hkept.push (by simp [Frame.dispatch?]))
  | each value =>
    apply withList
    exact .begin value rfl rfl rfl
  | count =>
    apply withList
    exact answer s _
  | dropList =>
    have hheld : Quiet s { s with isHeld := false } := hrefl.congr rfl rfl rfl
    exact .quiet (hheld.push (by simp [Frame.dispatch?])).settleList

theorem returned : Turnover s s.returned := by
  unfold Session.returned
  split
  · next dispatch value current rest below hstack => exact .back hstack rfl rfl rfl
  · next number label below hstack => exact .quiet (.pop hstack rfl)
  · exact .quiet (.refl s)

theorem tick : Turnover s s.tick := by
  unfold Session.tick
  split
  · next dispatch value entry rest below hstack => exact .next hstack rfl rfl rfl
  · next dispatch value below hstack =>
    obtain ⟨frames, hframes, hstack', hjournal, hnext⟩ :=
      settleList_frames (({ s with stack := below }).note (.ended dispatch))
    exact .finish hstack hstack' hframes hjournal hnext
  · next subscription below hstack =>
    have hpop : Quiet s { s with stack := below } := .pop hstack rfl
    simp only
    split
    · exact .quiet hpop
    · exact .quiet (Quiet.removeEntry (hpop.note rfl) _)
    · exact .quiet (Quiet.push (hpop.note rfl) (by simp [Frame.dispatch?]))
  · next object below hstack =>
    have hpop : Quiet s { s with stack := below } := .pop hstack rfl
    simp only
    split
    · exact .quiet hpop
    · exact .quiet (hpop.endObject object)
  · next below hstack => exact .quiet (Quiet.settleList (.pop hstack rfl))
  · next a below hstack => exact .quiet ((Quiet.pop hstack rfl).note rfl)
  · exact .quiet (.refl s)

/-- Every input is of one of these kinds. -/
theorem feed (i : Input β ρ α) : Turnover s (s.feed i) :=
  Session.feed_of (.quiet (.refl s)) (fun _ => tick s) (fun a _ _ => act s a)
    (fun _ => returned s) i

end Turnover

/-! ## Frames of other dispatches -/

/-- The frame does not belong to a dispatch. -/
def Frame.Avoids (dispatch : Nat) (f : Frame β ρ α) : Prop :=
  ∀ left, f.dispatch? ≠ some (dispatch, left)

theorem Frame.avoids_of_none {f : Frame β ρ α} (h : f.dispatch? = none) (dispatch : Nat) :
    f.Avoids dispatch := by
  intro left
  rw [h]
  simp

theorem Frame.avoids_of_ne {f : Frame β ρ α} {other dispatch : Nat}
    {left : List (Entry (Callback β) × α)} (h : f.dispatch? = some (other, left))
    (hne : other ≠ dispatch) : f.Avoids dispatch := by
  intro left' heq
  rw [h] at heq
  exact hne (congrArg Prod.fst (Option.some.inj heq))

theorem Frame.Avoids.ne {f : Frame β ρ α} {other dispatch : Nat}
    {left : List (Entry (Callback β) × α)} (h : f.Avoids dispatch)
    (hf : f.dispatch? = some (other, left)) : other ≠ dispatch := by
  rintro rfl
  exact h left hf

/-- What happens in `s'` after `s` does not belong to a dispatch. -/
def Bypasses (dispatch : Nat) (s s' : Session β ρ α) : Prop :=
  ∃ notes, s'.journal = notes ++ s.journal ∧ ∀ o ∈ notes, o.dispatch? ≠ some dispatch

theorem bypasses_nil {dispatch : Nat} {s s' : Session β ρ α} (h : s'.journal = s.journal) :
    Bypasses dispatch s s' :=
  ⟨[], by simp [h]⟩

theorem bypasses_cons {dispatch : Nat} {s s' : Session β ρ α} {o : Occurrence β ρ α}
    (h : s'.journal = o :: s.journal) (ho : o.dispatch? ≠ some dispatch) :
    Bypasses dispatch s s' :=
  ⟨[o], by simp [h], by simpa using ho⟩

theorem Quiet.bypasses {s s' : Session β ρ α} (h : Quiet s s') (dispatch : Nat) :
    Bypasses dispatch s s' := by
  obtain ⟨notes, hjournal, hnotes⟩ := h.journal
  refine ⟨notes, hjournal, fun o ho => ?_⟩
  rw [hnotes o ho]
  simp

theorem Bypasses.calls {dispatch : Nat} {s s' : Session β ρ α} (h : Bypasses dispatch s s') :
    s'.calls dispatch = s.calls dispatch := by
  obtain ⟨notes, hjournal, hnotes⟩ := h
  have hnone : notes.filterMap (·.callOf? dispatch) = [] := by
    rw [List.filterMap_eq_nil_iff]
    intro o ho
    have hne := hnotes o ho
    cases o <;> simp_all [Occurrence.callOf?, Occurrence.dispatch?]
  rw [Session.calls, hjournal, List.filterMap_append, hnone, List.nil_append, Session.calls]

theorem Bypasses.hasEnded {dispatch : Nat} {s s' : Session β ρ α} (h : Bypasses dispatch s s') :
    s'.hasEnded dispatch = s.hasEnded dispatch := by
  obtain ⟨notes, hjournal, hnotes⟩ := h
  have hnone : notes.any (·.isEndOf dispatch) = false := by
    rw [List.any_eq_false]
    intro o ho
    have hne := hnotes o ho
    cases o <;> simp_all [Occurrence.isEndOf, Occurrence.dispatch?]
  rw [Session.hasEnded, hjournal, List.any_append, hnone, Bool.false_or, Session.hasEnded]

/-- A dispatch without a frame gets none, and nothing happens in it, unless it begins now. -/
theorem Turnover.avoids {s s' : Session β ρ α} (h : Turnover s s') {dispatch : Nat}
    (hold : dispatch < s.nextDispatch ∨ s'.nextDispatch ≤ dispatch)
    (hs : ∀ f ∈ s.stack, f.Avoids dispatch) :
    (∀ f ∈ s'.stack, f.Avoids dispatch) ∧ Bypasses dispatch s s' := by
  cases h with
  | quiet hquiet =>
    obtain ⟨top, below, frames, -, hstack, hstack', hnone⟩ := hquiet.stack
    refine ⟨?_, hquiet.bypasses dispatch⟩
    rw [hstack] at hs
    rw [hstack']
    intro f hf
    rcases List.mem_append.1 hf with hf | hf
    · exact Frame.avoids_of_none (hnone f (List.mem_append_right _ hf)) dispatch
    · exact hs f (List.mem_append_right _ hf)
  | begin value hstack' hjournal hnext =>
    have hne : s.nextDispatch ≠ dispatch := by omega
    refine ⟨?_, bypasses_cons hjournal (by simp [Occurrence.dispatch?])⟩
    rw [hstack', List.forall_mem_cons, List.forall_mem_cons]
    exact ⟨Frame.avoids_of_ne rfl hne, Frame.avoids_of_none rfl dispatch, hs⟩
  | next hstack hstack' hjournal hnext =>
    rw [hstack, List.forall_mem_cons] at hs
    have hne := hs.1.ne rfl
    refine ⟨?_, bypasses_cons hjournal (by simpa [Occurrence.dispatch?] using hne)⟩
    rw [hstack', List.forall_mem_cons]
    exact ⟨Frame.avoids_of_ne rfl hne, hs.2⟩
  | back hstack hstack' hjournal hnext =>
    rw [hstack, List.forall_mem_cons] at hs
    refine ⟨?_, bypasses_nil hjournal⟩
    rw [hstack', List.forall_mem_cons, List.forall_mem_cons]
    exact ⟨Frame.avoids_of_none rfl dispatch, Frame.avoids_of_ne rfl (hs.1.ne rfl), hs.2⟩
  | finish hstack hstack' hframes hjournal hnext =>
    rw [hstack, List.forall_mem_cons] at hs
    have hne := hs.1.ne rfl
    refine ⟨?_, bypasses_cons hjournal (by simpa [Occurrence.dispatch?] using hne)⟩
    rw [hstack', List.forall_mem_append]
    exact ⟨fun f hf => Frame.avoids_of_none (hframes f hf) dispatch, hs.2⟩

/-- What is below the top of the stack does not matter. -/
theorem Turnover.above {s s' : Session β ρ α} (h : Turnover s s') {f : Frame β ρ α}
    {above base : List (Frame β ρ α)} (hs : s.stack = f :: (above ++ base)) :
    ∃ above', s'.stack = above' ++ base ∧
      Turnover { s with stack := f :: above } { s' with stack := above' } := by
  cases h with
  | quiet hquiet =>
    obtain ⟨top, below, frames, hlength, hstack, hstack', hnone⟩ := hquiet.stack
    obtain ⟨rest, hrest, hbelow⟩ : ∃ rest, f :: above = top ++ rest ∧ below = rest ++ base := by
      rw [hs] at hstack
      match top, hlength with
      | [], _ => exact ⟨f :: above, rfl, hstack.symm⟩
      | [g], _ =>
        obtain ⟨hg, hbelow⟩ := List.cons.inj hstack
        exact ⟨above, by rw [hg]; rfl, hbelow.symm⟩
    refine ⟨frames ++ rest, by rw [hstack', hbelow, List.append_assoc], .quiet ?_⟩
    exact ⟨⟨top, rest, frames, hlength, hrest, rfl, hnone⟩, hquiet.journal, hquiet.nextDispatch⟩
  | begin value hstack' hjournal hnext =>
    exact ⟨_, by rw [hstack', hs]; rfl, .begin value rfl hjournal hnext⟩
  | next hstack hstack' hjournal hnext =>
    obtain ⟨rfl, rfl⟩ := List.cons.inj (hs.symm.trans hstack)
    exact ⟨_, hstack', .next rfl rfl hjournal hnext⟩
  | back hstack hstack' hjournal hnext =>
    obtain ⟨rfl, rfl⟩ := List.cons.inj (hs.symm.trans hstack)
    exact ⟨_, hstack', .back rfl rfl hjournal hnext⟩
  | finish hstack hstack' hframes hjournal hnext =>
    obtain ⟨rfl, rfl⟩ := List.cons.inj (hs.symm.trans hstack)
    exact ⟨_, by rw [hstack', List.append_assoc], .finish rfl rfl hframes hjournal hnext⟩

theorem Turnover.nextDispatch_le {s s' : Session β ρ α} (h : Turnover s s') :
    s.nextDispatch ≤ s'.nextDispatch := by
  cases h with
  | quiet hquiet => exact Nat.le_of_eq hquiet.nextDispatch.symm
  | begin value hstack' hjournal hnext => omega
  | next hstack hstack' hjournal hnext => omega
  | back hstack hstack' hjournal hnext => omega
  | finish hstack hstack' hframes hjournal hnext => omega

/-- The numbers of dispatches to come are not in use. -/
structure Numbered (s : Session β ρ α) : Prop where
  /-- No frame belongs to such a dispatch. -/
  stack : ∀ dispatch, s.nextDispatch ≤ dispatch → ∀ f ∈ s.stack, f.Avoids dispatch
  /-- Nothing has happened in one. -/
  journal : ∀ dispatch, s.nextDispatch ≤ dispatch → ∀ o ∈ s.journal, o.dispatch? ≠ some dispatch

theorem Numbered.feed {s : Session β ρ α} (h : Numbered s) (i : Input β ρ α) :
    Numbered (s.feed i) := by
  have hturnover := Turnover.feed s i
  have hle := hturnover.nextDispatch_le
  constructor
  · intro dispatch hdispatch
    exact (hturnover.avoids (.inr hdispatch) (h.stack dispatch (Nat.le_trans hle hdispatch))).1
  · intro dispatch hdispatch
    obtain ⟨notes, hjournal, hnotes⟩ :=
      (hturnover.avoids (.inr hdispatch) (h.stack dispatch (Nat.le_trans hle hdispatch))).2
    rw [hjournal, List.forall_mem_append]
    exact ⟨hnotes, h.journal dispatch (Nat.le_trans hle hdispatch)⟩

/-- A session that has only just a list. -/
theorem numbered_over (r : Registry (Callback β)) :
    Numbered ({ registry := r } : Session β ρ α) :=
  ⟨by simp, by simp⟩

/-! ## One dispatch -/

/-- How far a dispatch with a plan has come that began when the stack was `base`. -/
inductive Serving (dispatch : Nat) (plan : List (Entry (Callback β) × α))
    (base : List (Frame β ρ α)) (s : Session β ρ α) : Prop
  /-- Some calls are still to be made, or the last one has not returned. -/
  | running {above : List (Frame β ρ α)} {f : Frame β ρ α}
    {left : List (Entry (Callback β) × α)} (hstack : s.stack = above ++ f :: base)
    (hframe : f.dispatch? = some (dispatch, left)) (hplan : s.calls dispatch ++ left = plan)
    (hended : s.hasEnded dispatch = false) (hothers : ∀ g ∈ above ++ base, g.Avoids dispatch)
  /-- All calls have been made. -/
  | served (hplan : s.calls dispatch = plan) (hended : s.hasEnded dispatch = true)
    (hothers : ∀ g ∈ s.stack, g.Avoids dispatch)

namespace Serving

variable {dispatch : Nat} {plan left : List (Entry (Callback β) × α)}
  {base : List (Frame β ρ α)} {s s' : Session β ρ α} {f : Frame β ρ α}

/-- The frame of the dispatch is on top of the stack. -/
theorem on_top (hstack : s.stack = f :: base) (hframe : f.dispatch? = some (dispatch, left))
    (hplan : s.calls dispatch ++ left = plan) (hended : s.hasEnded dispatch = false)
    (hbase : ∀ g ∈ base, g.Avoids dispatch) : Serving dispatch plan base s :=
  .running (hstack.trans (List.nil_append _).symm) hframe hplan hended (by simpa using hbase)

/-- The dispatch goes on as it was where something happens above its frame. -/
theorem stay {above : List (Frame β ρ α)} (hframe : f.dispatch? = some (dispatch, left))
    (hplan : s.calls dispatch ++ left = plan) (hended : s.hasEnded dispatch = false)
    (hbase : ∀ g ∈ base, g.Avoids dispatch) (hstack : s'.stack = above ++ f :: base)
    (habove : ∀ g ∈ above, g.Avoids dispatch) (hbypasses : Bypasses dispatch s s') :
    Serving dispatch plan base s' := by
  refine .running hstack hframe ?_ ?_ (List.forall_mem_append.2 ⟨habove, hbase⟩)
  · rw [hbypasses.calls, hplan]
  · rw [hbypasses.hasEnded, hended]

/-- Something happens to the frame of the dispatch, or right above it. -/
theorem turnover_top (hframe : f.dispatch? = some (dispatch, left))
    (hplan : s.calls dispatch ++ left = plan) (hended : s.hasEnded dispatch = false)
    (hbase : ∀ g ∈ base, g.Avoids dispatch) (hs : s.stack = f :: base)
    (hturnover : Turnover s s') (hold : dispatch < s.nextDispatch) :
    Serving dispatch plan base s' := by
  cases hturnover with
  | quiet hquiet =>
    obtain ⟨top, below, frames, hlength, hstack, hstack', hnone⟩ := hquiet.stack
    have hbelow : below = f :: base := by
      rw [hs] at hstack
      match top, hlength with
      | [], _ => exact hstack.symm
      | [g], _ =>
        have hnot := hnone g (by simp)
        rw [← (List.cons.inj hstack).1, hframe] at hnot
        exact absurd hnot (by simp)
    refine stay hframe hplan hended hbase (hbelow ▸ hstack') ?_ (hquiet.bypasses dispatch)
    exact fun g hg => Frame.avoids_of_none (hnone g (List.mem_append_right _ hg)) dispatch
  | begin value hstack' hjournal hnext =>
    have habove : s'.stack =
        [.deliver s.nextDispatch value s.registry.entries, .answer .called] ++ f :: base := by
      rw [hstack', hs]
      rfl
    refine stay hframe hplan hended hbase habove ?_
      (bypasses_cons hjournal (by simp [Occurrence.dispatch?]))
    rw [List.forall_mem_cons, List.forall_mem_singleton]
    exact ⟨Frame.avoids_of_ne rfl (by omega), Frame.avoids_of_none rfl dispatch⟩
  | @next d value entry rest below hstack hstack' hjournal hnext =>
    obtain ⟨rfl, rfl⟩ := List.cons.inj (hs.symm.trans hstack)
    obtain ⟨rfl, rfl⟩ : d = dispatch ∧ (entry :: rest).map (·, value) = left := by
      simpa [Frame.dispatch?] using hframe
    refine on_top hstack' rfl ?_ ?_ hbase
    · rw [← hplan, Session.calls, hjournal, Session.calls]
      simp [Occurrence.callOf?]
    · simpa [Session.hasEnded, hjournal, Occurrence.isEndOf] using hended
  | @back d value entry rest below hstack hstack' hjournal hnext =>
    obtain ⟨rfl, rfl⟩ := List.cons.inj (hs.symm.trans hstack)
    have hframe' : (Frame.deliver d value rest : Frame β ρ α).dispatch? = some (dispatch, left) :=
      hframe
    have habove : s'.stack =
        [.sweep entry.callback.object] ++ .deliver d value rest :: base := hstack'
    refine stay hframe' hplan hended hbase habove ?_ (bypasses_nil hjournal)
    rw [List.forall_mem_singleton]
    exact Frame.avoids_of_none rfl dispatch
  | @finish d value below frames hstack hstack' hframes hjournal hnext =>
    obtain ⟨rfl, rfl⟩ := List.cons.inj (hs.symm.trans hstack)
    obtain ⟨rfl, rfl⟩ : d = dispatch ∧ [] = left := by
      simpa [Frame.dispatch?] using hframe
    refine .served ?_ ?_ ?_
    · rw [← hplan, Session.calls, hjournal, Session.calls]
      simp [Occurrence.callOf?]
    · simp [Session.hasEnded, hjournal, Occurrence.isEndOf]
    · rw [hstack', List.forall_mem_append]
      exact ⟨fun g hg => Frame.avoids_of_none (hframes g hg) d, hbase⟩

theorem turnover (h : Serving dispatch plan base s) (hturnover : Turnover s s')
    (hold : dispatch < s.nextDispatch) : Serving dispatch plan base s' := by
  cases h with
  | served hplan hended hothers =>
    obtain ⟨hothers', hbypasses⟩ := hturnover.avoids (.inl hold) hothers
    exact .served (hbypasses.calls.trans hplan) (hbypasses.hasEnded.trans hended) hothers'
  | @running above f left hstack hframe hplan hended hothers =>
    obtain ⟨habove, hbase⟩ := List.forall_mem_append.1 hothers
    cases above with
    | nil => exact turnover_top hframe hplan hended hbase hstack hturnover hold
    | cons g above =>
      obtain ⟨above', hstack', habove'⟩ := hturnover.above hstack
      obtain ⟨hothers', hbypasses⟩ := habove'.avoids (.inl hold) habove
      exact stay hframe hplan hended hbase hstack' hothers' hbypasses

theorem run (h : Serving dispatch plan base s) (hold : dispatch < s.nextDispatch)
    (inputs : List (Input β ρ α)) : Serving dispatch plan base (s.run inputs) := by
  refine (Session.run_of (P := fun s => Serving dispatch plan base s ∧ dispatch < s.nextDispatch)
    ?_ ⟨h, hold⟩ inputs).1
  rintro s i ⟨h, hold⟩
  have hturnover := Turnover.feed s i
  exact ⟨h.turnover hturnover hold, Nat.lt_of_lt_of_le hold hturnover.nextDispatch_le⟩

/-- The calls made are the first of the plan. -/
theorem calls_isPrefix (h : Serving dispatch plan base s) : s.calls dispatch <+: plan := by
  cases h with
  | served hplan hended hothers => exact hplan ▸ List.prefix_refl _
  | running hstack hframe hplan hended hothers => exact ⟨_, hplan⟩

theorem calls_eq (h : Serving dispatch plan base s) (hover : s.hasEnded dispatch = true) :
    s.calls dispatch = plan := by
  cases h with
  | served hplan hended hothers => exact hplan
  | running hstack hframe hplan hended hothers =>
    rw [hended] at hover
    exact absurd hover (by simp)

/-- While the dispatch has not ended, someone above its base is to act. -/
theorem hasEnded_of_depth_le (h : Serving dispatch plan base s) (hturn : s.isTurn = true)
    (hdepth : s.depth ≤ base.countP Frame.isTurn) : s.hasEnded dispatch = true := by
  cases h with
  | served hplan hended hothers => exact hended
  | @running above f left hstack hframe hplan hended hothers =>
    have hmore : base.countP Frame.isTurn < s.depth := by
      have hle : base.countP Frame.isTurn ≤ (f :: base).countP Frame.isTurn :=
        (List.sublist_cons_self f base).countP_le
      rw [Session.depth, hstack]
      unfold Session.isTurn at hturn
      rw [hstack] at hturn
      cases above with
      | nil =>
        have hf : f.isTurn = true := hturn
        simp [hf]
      | cons g above =>
        have hg : g.isTurn = true := hturn
        rw [List.cons_append, List.countP_cons_of_pos hg, List.countP_append]
        omega
    omega

end Serving

/-! ## All dispatches -/

/-- A dispatch begins with the registrations that there are. -/
theorem feed_each {s : Session β ρ α} (h : s.mayUseList = true) (value : α) :
    s.feed (.act (.each value)) =
      (({ s with nextDispatch := s.nextDispatch + 1 } : Session β ρ α).note
        (.began s.nextDispatch (s.registry.entries.map Entry.id))).push
          [.deliver s.nextDispatch value s.registry.entries, .answer .called] := by
  obtain ⟨⟨⟨hturn, hheld⟩, hchanging⟩, hfailed⟩ :
      ((s.isTurn = true ∧ s.isHeld = true) ∧ s.isChanging = false) ∧ s.hasFailed = false := by
    simpa [Session.mayUseList] using h
  simp [Session.feed, Session.act, Session.withList, hturn, hheld, hchanging, hfailed]

theorem serving_each {s : Session β ρ α} (hs : Numbered s) (huse : s.mayUseList = true)
    (value : α) :
    Serving s.nextDispatch (s.registry.entries.map (·, value)) (.answer .called :: s.stack)
        (s.feed (.act (.each value))) ∧
      s.nextDispatch < (s.feed (.act (.each value))).nextDispatch := by
  have hfresh : Bypasses s.nextDispatch ({} : Session β ρ α) (s.feed (.act (.each value))) := by
    rw [feed_each huse]
    refine ⟨_ :: s.journal, (List.append_nil _).symm, ?_⟩
    exact List.forall_mem_cons.2 ⟨by simp [Occurrence.dispatch?], hs.journal _ (Nat.le_refl _)⟩
  have hcalls : (s.feed (.act (.each value))).calls s.nextDispatch = [] := hfresh.calls
  have hended : (s.feed (.act (.each value))).hasEnded s.nextDispatch = false := hfresh.hasEnded
  rw [feed_each huse] at hcalls hended ⊢
  refine ⟨.on_top rfl rfl ?_ hended ?_, Nat.lt_succ_self _⟩
  · rw [hcalls, List.nil_append]
  · rw [List.forall_mem_cons]
    exact ⟨Frame.avoids_of_none rfl _, hs.stack _ (Nat.le_refl _)⟩

/-- A dispatch calls the callbacks that are registered when it begins, each as often as it is
registered and in the order of registration, whatever the callbacks do meanwhile: those that it has
called are the first of these, and when it has ended they are all. It has ended when nobody but
those who waited for it is to act, and the next one to act is always found, unless a change of the
list was attempted during another one.

The session may be in the middle of other dispatches when this one begins, and others may begin
before it has ended. -/
theorem each_calls_registered (r : Registry (Callback β)) (before during : List (Input β ρ α))
    (value : α) :
    let s := ({ registry := r } : Session β ρ α).run before
    s.mayUseList = true →
    let t := (s.feed (.act (.each value))).run during
    t.calls s.nextDispatch <+: s.registry.entries.map (·, value) ∧
      (t.hasEnded s.nextDispatch = true →
        t.calls s.nextDispatch = s.registry.entries.map (·, value)) ∧
      (t.isTurn = true → t.depth ≤ s.depth → t.hasEnded s.nextDispatch = true) ∧
      ∃ n, (t.run (.replicate n .tick)).isTurn = true ∨
        (t.run (.replicate n .tick)).hasFailed = true := by
  intro s huse t
  have hnumbered : Numbered s :=
    Session.run_of (fun _ i h => h.feed i) (numbered_over r) before
  obtain ⟨hbegin, hold⟩ := serving_each hnumbered huse value
  have hserving : Serving _ _ _ t := hbegin.run hold during
  refine ⟨hserving.calls_isPrefix, hserving.calls_eq, fun hturn hdepth => ?_, t.exists_turn⟩
  exact hserving.hasEnded_of_depth_le hturn (by simpa [Session.depth, Frame.isTurn] using hdepth)

/-- Two callbacks are registered, and the first one is being called. -/
def firstOfTwo : List (Input Unit Empty Nat) :=
  [.act (.register "a" ⟨0, ()⟩), .tick, .act (.register "b" ⟨0, ()⟩), .tick, .act (.each 1), .tick]

/-- The first callback ends the registration of the second and makes a third one, and both that were
registered before return. -/
def replacesSecond : List (Input Unit Empty Nat) :=
  [.tick, .act (.release "b"), .tick, .tick, .tick, .tick, .tick, .act (.register "c" ⟨1, ()⟩),
    .tick, .done, .tick, .tick, .done, .tick, .tick, .tick]

/-- A dispatch inside another one still calls a registration that ends meanwhile, and not one that
is made meanwhile. -/
theorem each_calls_registered_nested :
    let s := ({ registry := {} } : Session Unit Empty Nat).run firstOfTwo
    let t := (s.feed (.act (.each 2))).run replacesSecond
    s.mayUseList = true ∧ t.hasEnded s.nextDispatch = true ∧
      t.registry.entries.map Entry.id = [0, 2] ∧
      t.calls s.nextDispatch = [(⟨0, ⟨0, ()⟩⟩, 2), (⟨1, ⟨0, ()⟩⟩, 2)] := by
  intro s t
  have huse : s.mayUseList = true := by decide
  have hended : t.hasEnded s.nextDispatch = true := by decide
  refine ⟨huse, hended, by decide, ?_⟩
  rw [(each_calls_registered {} firstOfTwo replacesSecond 2 huse).2.1 hended]
  decide

end DeviceStatus.Callbacks
