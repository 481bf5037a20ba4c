import DeviceStatus.Lockscreen.Screen
import DeviceStatus.Proofs.Device.Steps
import DeviceStatus.Proofs.Lockscreen.Ensures

/-!
# The work of the view

At every moment the view is idle, goes on with a program or waits for an answer (`System.work`).
`Work.Move` lists how an input changes this and what it adds to the journal; whatever the programs
of the view ensure is therefore true along every run (`Work.Move.meets`). Where this is about the
screen alone, `holds_between_operations` is all that is needed.
-/

namespace DeviceStatus.Device

open Lockscreen

variable {ℓ : Type} {s s' : System ℓ} {begun : Option Operation}

/-! ## What the view does at a moment -/

/-- What the view does. -/
inductive Work where
  /-- It does nothing. -/
  | idle (slot : ViewSlot)
  /-- It goes on with a program. -/
  | running (p : Program View)
  /-- It waits for an answer. -/
  | waiting (r : Request) (next : r.Answer → Program View)

/-- The work of the view that something on the stack is. -/
def Frame.work? : Frame ℓ → Option Work
  | program p => some (.running p)
  | asked r next => some (.waiting r next)
  | notify .. | listening .. | replay | batch _ | handle _ | free => none

/-- The work of the view. -/
def System.work (s : System ℓ) : Work := (s.stack.findSome? Frame.work?).getD (.idle s.view)

/-- The request of an occurrence. -/
def Occurrence.request? : Occurrence ℓ → Option Request
  | requested r => some r
  | announced _ | heard .. | arrived _ | handled _ => none

/-- The requests that the view has made, latest first. -/
def System.requests (s : System ℓ) : List Request := s.journal.filterMap Occurrence.request?

/-- What the widgets show. -/
def System.screen (s : System ℓ) : Screen := .ofRequests s.requests

theorem Idle.work? {stack : List (Frame ℓ)} (h : Idle stack) :
    stack.findSome? Frame.work? = none := by
  rw [List.findSome?_eq_none_iff]
  intro f hf
  have htelling := h f hf
  cases f <;> simp_all [Frame.isTelling, Frame.work?]

theorem Closing.work? {stack : List (Frame ℓ)} (h : Closing stack) :
    stack.findSome? Frame.work? = none := by
  cases h with
  | free h => simpa [Frame.work?] using h.work?
  | waiting hd h => simpa [Frame.work?] using h.work?

theorem Resting.work? {stack : List (Frame ℓ)} (h : Resting stack) :
    stack.findSome? Frame.work? = none := by
  cases h with
  | free h => simpa [Frame.work?] using h.work?
  | replay h => simpa [Frame.work?] using h.work?
  | batch _ h => simpa [Frame.work?] using h.work?

/-- While the view is free it does nothing. -/
theorem Shaped.work_of_free (h : Shaped s) (hfree : s.isBusy = false) : s.work = .idle s.view := by
  rw [System.work, (h.idle hfree).work?, Option.getD_none]

theorem Shaped.work_of_freeView? (h : Shaped s) {v : View} (hview : s.freeView? = some v) :
    s.work = .idle (.present v) := by
  obtain ⟨hfree, hpresent⟩ := view_of_freeView? hview
  rw [h.work_of_free hfree, hpresent]

theorem work_of_stack {stack : List (Frame ℓ)} (hstack : s.stack = stack)
    (hwork : stack.findSome? Frame.work? = none) : s.work = .idle s.view := by
  rw [System.work, hstack, hwork, Option.getD_none]

theorem work_of_frame {f : Frame ℓ} {below : List (Frame ℓ)} {work : Work}
    (hstack : s.stack = f :: below) (hf : f.work? = some work) : s.work = work := by
  rw [System.work, hstack, List.findSome?_cons, hf, Option.getD_some]

/-- What is no work of the view does not matter to it. -/
theorem work_cons {f : Frame ℓ} {below : List (Frame ℓ)} (hstack : s.stack = f :: below)
    (hf : f.work? = none) : s.work = ({ s with stack := below } : System ℓ).work := by
  simp [System.work, hstack, hf]

/-! ## How the work goes on -/

/-- Whether an occurrence is something that the view does. -/
def Occurrence.isOfView : Occurrence ℓ → Bool
  | handled _ | requested _ => true
  | announced _ | heard .. | arrived _ => false

/-- How the work of the view goes on at an input: the operation that is begun and what is added to
the journal. Each case is the step of that name; at all other steps the work stays. -/
inductive Work.Move (s : System ℓ) : Work → Option Operation → List (Occurrence ℓ) → Work → Prop
  | stay (work : Work) {new : List (Occurrence ℓ)} (hnew : ∀ o ∈ new, o.isOfView = false) :
    Move s work none new work
  | create (locale : String) : Move s (.idle .empty) none [] (.running (View.create locale))
  | perform (o : Operation) (v : View) :
    Move s (.idle (.present v)) (some o) [] (.running (o.handler.after v))
  | handle (d : Delivery) (v : View) :
    Move s (.idle (.present v)) none [.handled d] (.running ((View.handle d.event).after v))
  | drop (v : View) : Move s (.idle (.present v)) none [] (.idle .gone)
  | done (v : View) : Move s (.running (.done v)) none [] (.idle (.present v))
  | fact (f : Fact) (next : f.Answer → Program View) :
    Move s (.running (.ask (.fact f) next)) none [] (.running (next (s.answerFact f)))
  | log (n : Notice) (next : Unit → Program View) :
    Move s (.running (.ask (.log n) next)) none [.requested (.log n)] (.running (next ()))
  | ask {r : Request} (hr : r.isInternal = false) (next : r.Answer → Program View) :
    Move s (.running (.ask r next)) none [.requested r] (.waiting r next)
  | answer {r : Request} (next : r.Answer → Program View) (answer : r.Answer) :
    Move s (.waiting r next) none [] (.running (next answer))

/-- Only what is no work of the view leaves a device without a view. -/
theorem Work.Move.fresh {work : Work} {new : List (Occurrence ℓ)}
    (hmove : Move s work begun new (.idle .empty)) :
    work = .idle .empty ∧ begun = none ∧ ∀ o ∈ new, o.isOfView = false := by
  cases hmove with
  | stay work hnew => exact ⟨rfl, rfl, hnew⟩

/-- A view that is gone does nothing more. -/
theorem Work.Move.gone {work' : Work} {new : List (Occurrence ℓ)}
    (hmove : Work.Move s (.idle .gone) begun new work') : work' = .idle .gone := by
  cases hmove with
  | stay => rfl

/-- The system has come to another one, with something added to the journal. -/
def Moved (s s' : System ℓ) (begun : Option Operation) : Prop :=
  ∃ new, s'.journal = new ++ s.journal ∧ Work.Move s s.work begun new s'.work

/-- Nothing has changed for the view, but something may have been noted. -/
theorem Moved.of_work (new : List (Occurrence ℓ)) (hjournal : s'.journal = new ++ s.journal)
    (hnew : ∀ o ∈ new, o.isOfView = false) (hwork : s'.work = s.work) : Moved s s' none := by
  refine ⟨new, hjournal, ?_⟩
  rw [hwork]
  exact .stay s.work hnew

theorem work_announce (event : Event) : (s.announce event).work = s.work :=
  work_cons (s := s.announce event) rfl rfl

theorem work_deliver (event : Event) : (s.deliver event).work = s.work := by
  cases hview : s.view with
  | empty | gone => simp [System.deliver, hview]
  | present v =>
    by_cases hbusy : s.isBusy = true
    · rw [deliver_of_isBusy hview hbusy]
      rfl
    · rw [deliver_of_free hview (by simpa using hbusy)]
      rfl

theorem journal_deliver (event : Event) :
    ∃ new, (s.deliver event).journal = new ++ s.journal ∧
      ∀ o ∈ new, o.isOfView = false := by
  cases hview : s.view with
  | empty | gone => exact ⟨[], by simp [System.deliver, hview], by simp⟩
  | present v =>
    by_cases hbusy : s.isBusy = true
    · rw [deliver_of_isBusy hview hbusy]
      exact ⟨[_], rfl, by simp [Occurrence.isOfView]⟩
    · rw [deliver_of_free hview (by simpa using hbusy)]
      exact ⟨[_], rfl, by simp [Occurrence.isOfView]⟩

theorem Shaped.work?_of_handle (h : Shaped s) {d : Delivery} {below : List (Frame ℓ)}
    (hstack : s.stack = .handle d :: below) :
    (Frame.handle d :: below).findSome? Frame.work? = none := by
  have hbelow : below.findSome? Frame.work? = none := by
    cases h.busy_cons hstack rfl with
    | resting h => cases h
    | interrupted h =>
      cases h with
      | telling hf => simp [Frame.isTelling] at hf
    | next _ h => exact h.work?
    | last _ _ hidle => simpa [Frame.work?] using hidle.work?
  simpa [Frame.work?] using hbelow

/-- A view that is let go does nothing as soon as it would be free. -/
theorem Shaped.work_of_leave (h : Shaped s) {below : List (Frame ℓ)}
    (hstack : s.stack = .free :: below) :
    s.work = .idle s.view ∧
      ({ s with isBusy := false, stack := below, view := .gone } : System ℓ).work =
        .idle .gone := by
  have hresting := (h.busy_cons hstack rfl).resting_of_isRest rfl
  refine ⟨work_of_stack hstack hresting.work?, ?_⟩
  cases hresting with
  | free hidle =>
    exact work_of_stack (s := { s with isBusy := false, stack := below, view := .gone }) rfl
      hidle.work?

/-- Every step moves the work of the view. -/
theorem Shaped.moved (h : Shaped s) (hstep : Step s begun s') : Moved s s' begun := by
  cases hstep with
  | stay => exact .of_work [] rfl (by simp) rfl
  | change c hevent hturn =>
    exact .of_work [_] rfl (by simp [Occurrence.isOfView]) rfl
  | register a ha =>
    have hsame := sameWork_register (s := s) ha
    refine .of_work [] hsame.journal (by simp) ?_
    rw [System.work, System.work, hsame.stack, hsame.view]
  | create locale hview hfree =>
    refine ⟨[], rfl, ?_⟩
    rw [h.work_of_free hfree, hview]
    exact .create locale
  | @perform o v hview hfree =>
    refine ⟨[], rfl, ?_⟩
    rw [h.work_of_free hfree, hview]
    exact .perform o v
  | @dropView v hview hfree =>
    have hdropped : ({ s with view := .gone } : System ℓ).work = .idle .gone :=
      work_of_stack (s := { s with view := .gone }) rfl (h.idle hfree).work?
    refine ⟨[], rfl, ?_⟩
    rw [h.work_of_free hfree, hview, hdropped]
    exact .drop v
  | letGo => exact .of_work [] rfl (by simp) rfl
  | @told f below hstack hf =>
    have hwork : f.work? = none := by cases f <;> simp_all [Frame.isTelling, Frame.work?]
    exact .of_work [] rfl (by simp) (work_cons hstack hwork).symm
  | hear hstack =>
    exact .of_work [_] rfl (by simp [Occurrence.isOfView]) (work_cons hstack rfl).symm
  | @reach event id rest below hstack =>
    obtain ⟨new, hjournal, hnew⟩ :=
      journal_deliver (s := ({ s with stack := .notify event rest :: below } : System ℓ)) event
    refine .of_work new hjournal hnew ?_
    rw [work_deliver, work_cons hstack rfl]
    rfl
  | replayed hstack => exact .of_work [] rfl (by simp) (work_cons hstack rfl).symm
  | take hstack => exact .of_work [] rfl (by simp) rfl
  | batched hstack => exact .of_work [] rfl (by simp) (work_cons hstack rfl).symm
  | next hstack => exact .of_work [] rfl (by simp) (work_cons hstack rfl).symm
  | @handle d v below hstack hview =>
    refine ⟨[.handled d], rfl, ?_⟩
    rw [work_of_stack hstack (h.work?_of_handle hstack), hview]
    exact .handle d v
  | @done v below hstack =>
    have hbelow := ((h.busy_cons hstack rfl).resting_of_program).work?
    have hended : ({ s with stack := below, view := .present v } : System ℓ).work =
        .idle (.present v) :=
      work_of_stack (s := { s with stack := below, view := .present v }) rfl hbelow
    refine ⟨[], rfl, ?_⟩
    rw [work_of_frame hstack rfl, hended]
    exact .done v
  | @fact f next below hstack =>
    refine ⟨[], rfl, ?_⟩
    rw [work_of_frame hstack rfl]
    exact .fact f next
  | @log n next below hstack =>
    refine ⟨[.requested (.log n)], rfl, ?_⟩
    rw [work_of_frame hstack rfl]
    exact .log n next
  | @ask r next below hr hstack =>
    refine ⟨[.requested r], rfl, ?_⟩
    rw [work_of_frame hstack rfl]
    exact .ask hr next
  | @answer r next below answer hstack =>
    refine ⟨[], rfl, ?_⟩
    rw [work_of_frame hstack rfl]
    exact .answer next answer
  | free hstack => exact .of_work [] rfl (by simp) (work_cons hstack rfl).symm
  | @leave v below hstack hview =>
    obtain ⟨hwork, hgone⟩ := h.work_of_leave hstack
    refine ⟨[], rfl, ?_⟩
    rw [hwork, hview, hgone]
    exact .drop v

theorem view_deliver (event : Event) : (s.deliver event).view = s.view := by
  unfold System.deliver
  split
  · dsimp only
    split <;> rfl
  · rfl

/-- An event that reaches the view does not let go of it, and a view at work stays so. -/
theorem deliver_keeps (event : Event) :
    (s.deliver event).isLetGo = s.isLetGo ∧ (s.deliver event).view = s.view ∧
      (s.isBusy = true → (s.deliver event).isBusy = true) := by
  refine ⟨?_, view_deliver event, ?_⟩
  · unfold System.deliver
    split
    · dsimp only
      split <;> rfl
    · rfl
  · intro hbusy
    unfold System.deliver
    split
    · simp [hbusy, System.note]
    · exact hbusy

/-- A view that is let go does nothing more, and otherwise views only come. -/
theorem Shaped.view_cases (h : Shaped s) (hstep : Step s begun s') :
    s'.view = s.view ∨ (∃ v, s'.view = .present v) ∨ s'.work = .idle .gone ∧ s'.view = .gone := by
  cases hstep with
  | register a ha => exact .inl (sameWork_register ha).view
  | @dropView v hview hfree =>
    exact .inr (.inr ⟨work_of_stack (s := { s with view := .gone }) rfl (h.idle hfree).work?, rfl⟩)
  | leave hstack => exact .inr (.inr ⟨(h.work_of_leave hstack).2, rfl⟩)
  | done => exact .inr (.inl ⟨_, rfl⟩)
  | reach => exact .inl (view_deliver _)
  | stay | letGo | change | create | perform | told | hear | replayed | take | batched | next
  | handle | fact | log | ask | answer | free => exact .inl rfl

/-- A view that has been let go is gone, or still at work. -/
theorem view_of_isLetGo (locale : String) (inputs : List (Input ℓ)) :
    let s := (System.start (ℓ := ℓ) locale).run inputs
    s.isLetGo = true → s.view = .gone ∨ s.isBusy = true ∧ ∃ v, s.view = .present v := by
  refine (shaped_start locale).run_induction
    (P := fun s => s.isLetGo = true → s.view = .gone ∨ s.isBusy = true ∧ ∃ v, s.view = .present v)
    ?_ (by simp [System.start]) inputs
  intro s hshaped h input
  have hstep := hshaped.step_feed input
  generalize s.feed input = s' at hstep ⊢
  generalize s.begun? input = begun at hstep
  cases hstep with
  | register a ha =>
    have hsame := sameWork_register (s := s) ha
    rw [hsame.isLetGo, hsame.view, hsame.isBusy]
    exact h
  | create locale hview => exact fun hgo => absurd (h hgo) (by simp [hview])
  | perform o hview => exact fun _ => .inr ⟨rfl, _, hview⟩
  | dropView => exact fun _ => .inl rfl
  | letGo hview hbusy => exact fun _ => .inr ⟨hbusy, _, hview⟩
  | @reach event id rest below hstack =>
    obtain ⟨hgo, hview, hbusy⟩ := deliver_keeps
      (s := ({ s with stack := .notify event rest :: below } : System ℓ)) event
    rw [hgo, hview]
    exact fun hgo => (h hgo).imp_right fun hthere => ⟨hbusy hthere.1, hthere.2⟩
  | done hstack => exact fun _ => .inr ⟨hshaped.isBusy hstack rfl, _, rfl⟩
  | free hstack hstays =>
    exact fun hgo => (h hgo).imp_right fun hthere => absurd hthere.2.choose_spec (hstays hgo _)
  | leave => exact fun _ => .inl rfl
  | stay | change | told | hear | replayed | take | batched | next | handle | fact | log | ask
  | answer => exact h

/-! ## What is ensured along a run -/

variable {σ : Type} {w : Watch σ} {property : View → σ → Prop} {x : σ}

/-- What is watched after an occurrence. -/
def Occurrence.follow (w : Watch σ) : Occurrence ℓ → σ → σ
  | requested r, x => w.after x r
  | announced _, x | heard .., x | arrived _, x | handled _, x => x

/-- The view has a property whenever it is idle, and will have it when it has ended its work. -/
def Work.Meets (w : Watch σ) (property : View → σ → Prop) (x : σ) : Work → Prop
  | idle slot => ∀ v, slot = .present v → property v x
  | running p => p.Ensures w property x
  | waiting _ next => ∀ answer, (next answer).Ensures w property x

/-- What is watched is in keeping with a system: the expected answers are those of the device, and
any others from the surroundings. -/
structure Fits (w : Watch σ) (s : System ℓ) : Prop where
  fact : ∀ f, w.admits (.fact f) (s.answerFact f)
  log : ∀ n, w.admits (.log n) ()
  other : ∀ r, r.isInternal = false → ∀ answer, w.admits r answer
  silent : ∀ x f, w.after x (.fact f) = x

variable {work work' : Work} {new : List (Occurrence ℓ)}

theorem foldr_follow (hnew : ∀ o ∈ new, o.isOfView = false) :
    new.foldr (Occurrence.follow w) x = x := by
  induction new with
  | nil => rfl
  | cons o new ih =>
    obtain ⟨ho, hnew⟩ := List.forall_mem_cons.1 hnew
    rw [List.foldr_cons, ih hnew]
    cases o <;> simp_all [Occurrence.isOfView, Occurrence.follow]

/-- Only requests that are permitted are made. -/
theorem Work.Move.permits (hmove : Work.Move s work begun new work') (h : work.Meets w property x)
    {r : Request} (hr : .requested r ∈ new) : w.permits x r := by
  cases hmove with
  | stay work hnew => exact absurd (hnew _ hr) (by simp [Occurrence.isOfView])
  | log n next =>
    obtain rfl : r = .log n := by simpa using hr
    exact h.1
  | @ask r' hr' next =>
    obtain rfl : r = r' := by simpa using hr
    exact h.1
  | create | perform | handle | drop | done | fact | answer => simp at hr

/-- The work goes on to meet what its programs ensure. -/
theorem Work.Move.meets_handled (hmove : Work.Move s work begun new work') (hfits : Fits w s)
    (h : begun = none → work.Meets w property x)
    (hcreate : begun = none → work = .idle .empty →
      ∀ locale, (View.create locale).Ensures w property x)
    (hperform : ∀ o v, begun = some o → work = .idle (.present v) →
      (o.handler.after v).Ensures w property x)
    (hhandle : ∀ d v, new = [.handled d] → property v x →
      ((View.handle d.event).after v).Ensures w property x) :
    work'.Meets w property (new.foldr (Occurrence.follow w) x) := by
  cases hmove with
  | stay work hnew =>
    rw [foldr_follow hnew]
    exact h rfl
  | create => exact hcreate rfl rfl _
  | perform o v => exact hperform o v rfl rfl
  | handle d v => exact hhandle d v rfl (h rfl v rfl)
  | drop v => simp [Work.Meets]
  | done v =>
    intro v' hv'
    obtain rfl := ViewSlot.present.inj hv'
    exact h rfl
  | fact f next =>
    have hnext := (h rfl).2 (s.answerFact f) (hfits.fact f)
    rw [hfits.silent] at hnext
    exact hnext
  | log n next => exact (h rfl).2 () (hfits.log n)
  | ask hr next => exact fun answer => (h rfl).2 answer (hfits.other _ hr answer)
  | answer next answer => exact h rfl answer

theorem Work.Move.meets (hmove : Work.Move s work begun new work') (hfits : Fits w s)
    (h : begun = none → work.Meets w property x)
    (hcreate : begun = none → work = .idle .empty →
      ∀ locale, (View.create locale).Ensures w property x)
    (hperform : ∀ o v, begun = some o → work = .idle (.present v) →
      (o.handler.after v).Ensures w property x)
    (hhandle : ∀ e v, property v x → ((View.handle e).after v).Ensures w property x) :
    work'.Meets w property (new.foldr (Occurrence.follow w) x) :=
  hmove.meets_handled hfits h hcreate hperform fun d v _ => hhandle d.event v

/-! ## The screen -/

theorem fits_screen {known : (f : Fact) → f.Answer → Prop} (h : ∀ f, known f (s.answerFact f)) :
    Fits (.screen (knownFacts known)) s where
  fact := h
  log := fun _ => trivial
  other := by
    intro r hr answer
    cases r with
    | fact | log => simp [Request.isInternal] at hr
    | query | command | user => trivial
  silent := fun _ _ => rfl

theorem fits_any (s : System ℓ) : Fits (.screen fun _ _ => True) s where
  fact := fun _ => trivial
  log := fun _ => trivial
  other := fun _ _ _ => trivial
  silent := fun _ _ => rfl

/-- The screen follows the requests. -/
theorem screen_eq (known : (r : Request) → r.Answer → Prop)
    (hjournal : s'.journal = new ++ s.journal) :
    s'.screen = new.foldr (Occurrence.follow (.screen known)) s.screen := by
  rw [System.screen, System.requests, hjournal, System.screen, System.requests]
  clear hjournal
  induction new with
  | nil => rfl
  | cons o new ih =>
    rw [List.foldr_cons, ← ih, List.cons_append]
    cases o <;> rfl

section Screen

variable {known : (r : Request) → r.Answer → Prop} {property : View → Screen → Prop}
  (hcreate : ∀ locale screen, (View.create locale).Ensures (.screen known) property screen)
  (hkeeps : ∀ o : Operation, Handler.Keeps (.screen known) property o.handler)

include hcreate hkeeps

theorem Shaped.meets_feed (h : Shaped s) (hfits : Fits (.screen known) s)
    (hmeets : s.work.Meets (.screen known) property s.screen) (input : Input ℓ) :
    (s.feed input).work.Meets (.screen known) property (s.feed input).screen := by
  obtain ⟨new, hjournal, hmove⟩ := h.moved (h.step_feed input)
  rw [screen_eq known hjournal]
  have hensures : ∀ (o : Operation) v, property v s.screen →
      (o.handler.after v).Ensures (.screen known) property s.screen := by
    intro o v hproperty
    exact (Handler.ensures_after ..).2 (hkeeps o v _ hproperty)
  refine hmove.meets hfits (fun _ => hmeets) ?_ ?_ ?_
  · exact fun _ _ locale => hcreate locale _
  · intro o v _ hwork
    rw [hwork] at hmeets
    exact hensures o v (hmeets v rfl)
  · exact fun e v hproperty => hensures (.event e) v hproperty

end Screen

/-- What is true of a view that has just been made, and is kept by every operation, is true whenever
the view is idle, also between two events that are handled one after the other. -/
theorem holds_between_operations {property : View → Screen → Prop}
    (hcreate : ∀ locale screen,
      (View.create locale).Ensures (.screen fun _ _ => True) property screen)
    (hkeeps : ∀ o : Operation, Handler.Keeps (.screen fun _ _ => True) property o.handler)
    (locale : String) (inputs : List (Input ℓ)) {v : View} :
    let s := (System.start (ℓ := ℓ) locale).run inputs
    s.work = .idle (.present v) → property v s.screen := by
  intro s hidle
  have hmeets : s.work.Meets (.screen fun _ _ => True) property s.screen := by
    refine (shaped_start locale).run_induction
      (P := fun s => s.work.Meets (.screen fun _ _ => True) property s.screen) ?_ ?_ inputs
    · exact fun s hshaped hmeets input =>
        hshaped.meets_feed hcreate hkeeps (fits_any s) hmeets input
    · intro v hv
      simp [System.start] at hv
  rw [hidle] at hmeets
  exact hmeets v rfl

end DeviceStatus.Device
