import DeviceStatus.Proofs.Lockscreen.Areas

/-!
# Programs and their exchanges

What a program does in one run is known by its exchanges: its requests in their order, each with the
answer that it was given. `Program.Reaches` says to which program a program comes by exchanges, and
`Handler.Runs` by which exchanges a handler comes to an end. The exchanges of a sequence are those
of its first part and then those of its second, so the exchanges of an operation can be read off its
text.

What a program ensures, whatever it is answered, is true of each of its runs (`Ensures.reaches`).
-/

namespace DeviceStatus.Lockscreen

/-- A request and the answer to it. -/
structure Exchange where
  /-- The request. -/
  request : Request
  /-- The answer. -/
  answer : request.Answer

/-- The answer to a question, if this is what was asked. -/
def Exchange.answerTo? (q : Query) : Exchange → Option q.Answer
  | ⟨.query asked, answer⟩ => if h : asked = q then some (h ▸ answer) else none
  | ⟨.fact _, _⟩ | ⟨.command _, _⟩ | ⟨.user _, _⟩ | ⟨.log _, _⟩ => none

/-- The answers to a question, in their order. -/
def answersTo (q : Query) (exchanges : List Exchange) : List q.Answer :=
  exchanges.filterMap (·.answerTo? q)

@[simp] theorem Exchange.answerTo?_query (q : Query) (answer : q.Answer) :
    Exchange.answerTo? q ⟨.query q, answer⟩ = some answer := by
  simp [Exchange.answerTo?]

theorem Exchange.answerTo?_of_ne {q : Query} {e : Exchange} (h : e.request ≠ .query q) :
    e.answerTo? q = none := by
  obtain ⟨r, answer⟩ := e
  cases r with
  | query asked =>
    have hne : asked ≠ q := fun heq => h (congrArg Request.query heq)
    simp [Exchange.answerTo?, hne]
  | fact | command | user | log => rfl

theorem answersTo_append (q : Query) (first second : List Exchange) :
    answersTo q (first ++ second) = answersTo q first ++ answersTo q second :=
  List.filterMap_append

theorem answersTo_eq_nil {q : Query} {exchanges : List Exchange}
    (h : ∀ e ∈ exchanges, e.request ≠ .query q) : answersTo q exchanges = [] :=
  List.filterMap_eq_nil_iff.2 fun e he => Exchange.answerTo?_of_ne (h e he)

/-- Exchanges of other kinds do not matter to the answers to a question. -/
theorem answersTo_filter {q : Query} {kind : Request → Bool} (hq : kind (.query q) = true)
    (exchanges : List Exchange) :
    answersTo q (exchanges.filter fun e => kind e.request) = answersTo q exchanges := by
  rw [answersTo, List.filterMap_filter, answersTo]
  congr 1
  funext e
  split
  · rfl
  · next hkind =>
    have hne : e.request ≠ .query q := fun heq => hkind (heq ▸ hq)
    exact (Exchange.answerTo?_of_ne hne).symm

variable {σ α β : Type}

/-- What is watched after exchanges. -/
def Watch.follow (w : Watch σ) (x : σ) (exchanges : List Exchange) : σ :=
  exchanges.foldl (fun x e => w.after x e.request) x

/-- The screen after exchanges. -/
def Screen.afterExchanges (x : Screen) (exchanges : List Exchange) : Screen :=
  exchanges.foldl (fun x e => x.afterRequest e.request) x

@[simp] theorem Screen.afterExchanges_cons (x : Screen) (e : Exchange) (later : List Exchange) :
    x.afterExchanges (e :: later) = (x.afterRequest e.request).afterExchanges later := rfl

@[simp] theorem Screen.afterExchanges_append (x : Screen) (first second : List Exchange) :
    x.afterExchanges (first ++ second) = (x.afterExchanges first).afterExchanges second :=
  List.foldl_append

namespace Program

/-- By these exchanges a program comes to another one. -/
inductive Reaches : Program α → List Exchange → Program α → Prop
  /-- Nothing has been asked. -/
  | refl (p : Program α) : Reaches p [] p
  /-- The first request is answered. -/
  | ask {r : Request} {next : r.Answer → Program α} (answer : r.Answer) {later : List Exchange}
    {q : Program α} (h : Reaches (next answer) later q) :
    Reaches (.ask r next) (⟨r, answer⟩ :: later) q

variable {p q : Program α} {first second : List Exchange}

theorem Reaches.trans {r : Program α} (h : p.Reaches first q) (h' : q.Reaches second r) :
    p.Reaches (first ++ second) r := by
  induction h with
  | refl p => exact h'
  | ask answer h ih => exact .ask answer (ih h')

/-- The next request is answered. -/
theorem Reaches.answered {r : Request} {next : r.Answer → Program α}
    (h : p.Reaches first (.ask r next)) (answer : r.Answer) :
    p.Reaches (first ++ [⟨r, answer⟩]) (next answer) :=
  h.trans (.ask answer (.refl _))

theorem reaches_done {value : α} : (done value).Reaches first q ↔ first = [] ∧ q = done value := by
  constructor
  · intro h
    cases h with
    | refl => exact ⟨rfl, rfl⟩
  · rintro ⟨rfl, rfl⟩
    exact .refl _

theorem ask_reaches_done {r : Request} {next : r.Answer → Program α} {value : α} :
    (ask r next).Reaches first (done value) ↔
      ∃ answer later, first = ⟨r, answer⟩ :: later ∧ (next answer).Reaches later (done value) := by
  constructor
  · intro h
    cases h with
    | ask answer h => exact ⟨answer, _, rfl, h⟩
  · rintro ⟨answer, later, rfl, h⟩
    exact .ask answer h

/-- A sequence ends when its first part has ended and then its second. -/
theorem bind_reaches_done {f : α → Program β} {value : β} {exchanges : List Exchange} :
    (p >>= f).Reaches exchanges (done value) ↔ ∃ first second middle,
      exchanges = first ++ second ∧ p.Reaches first (done middle) ∧
        (f middle).Reaches second (done value) := by
  constructor
  · intro h
    induction p generalizing exchanges with
    | done middle => exact ⟨[], exchanges, middle, rfl, .refl _, h⟩
    | ask r next ih =>
      obtain ⟨answer, later, rfl, hlater⟩ := ask_reaches_done.1 h
      obtain ⟨first, second, middle, rfl, hfirst, hsecond⟩ := ih answer hlater
      exact ⟨_ :: first, second, middle, rfl, .ask answer hfirst, hsecond⟩
  · rintro ⟨first, second, middle, rfl, hfirst, hsecond⟩
    induction p generalizing first with
    | done middle' =>
      obtain ⟨rfl, heq⟩ := reaches_done.1 hfirst
      cases heq
      exact hsecond
    | ask r next ih =>
      obtain ⟨answer, later, rfl, hlater⟩ := ask_reaches_done.1 hfirst
      exact .ask answer (ih answer later hlater)

/-- A program that has ended makes no further requests. -/
theorem Reaches.eq_nil {value value' : α} (h : p.Reaches first (done value))
    (h' : p.Reaches (first ++ second) (done value')) : second = [] ∧ value' = value := by
  induction first generalizing p with
  | nil =>
    cases h with
    | refl =>
      obtain ⟨hnil, hvalue⟩ := reaches_done.1 h'
      exact ⟨hnil, done.inj hvalue⟩
  | cons e first ih =>
    cases h with
    | ask answer h =>
      cases h' with
      | ask _ h' => exact ih h h'

/-- Every program can come to its end. -/
theorem exists_reaches_done (p : Program α) :
    ∃ exchanges value, p.Reaches exchanges (done value) := by
  induction p with
  | done value => exact ⟨[], value, .refl _⟩
  | ask r next ih =>
    obtain ⟨answer⟩ := r.nonempty_answer
    obtain ⟨exchanges, value, h⟩ := ih answer
    exact ⟨_, value, .ask answer h⟩

/-- Under fixed answers a program comes to its value. -/
theorem reaches_under (answers : Answers) (p : Program α) :
    p.Reaches ((p.under answers).2.map fun r => ⟨r, answers r⟩) (done (p.under answers).1) := by
  induction p with
  | done value => exact .refl _
  | ask r next ih => exact .ask (answers r) (ih (answers r))

variable {w : Watch σ} {post : α → σ → Prop} {x : σ}

/-- What a program ensures, it still ensures after exchanges with expected answers. -/
theorem Ensures.reaches (h : p.Ensures w post x) (hreaches : p.Reaches first q)
    (hadmits : ∀ e ∈ first, w.admits e.request e.answer) :
    q.Ensures w post (w.follow x first) := by
  induction hreaches generalizing x with
  | refl p => exact h
  | ask answer hreaches ih =>
    obtain ⟨hanswer, hlater⟩ := List.forall_mem_cons.1 hadmits
    exact ih (h.2 answer hanswer) hlater

/-- What is true of all runs of a program to which all is permitted is ensured by it. -/
theorem ensures_of_reaches (hpermits : ∀ x r, w.permits x r)
    (h : ∀ exchanges value, p.Reaches exchanges (done value) →
      (∀ e ∈ exchanges, w.admits e.request e.answer) → post value (w.follow x exchanges)) :
    p.Ensures w post x := by
  induction p generalizing x with
  | done value => exact h [] value (.refl _) (by simp)
  | ask r next ih =>
    refine ⟨hpermits x r, fun answer hanswer => ih answer ?_⟩
    intro exchanges value hreaches hadmits
    exact h (⟨r, answer⟩ :: exchanges) value (.ask answer hreaches)
      (List.forall_mem_cons.2 ⟨hanswer, hadmits⟩)

end Program

/-! ## Handlers -/

namespace Handler

/-- By these exchanges a handler comes to its end, with a value and with other fields. -/
def Runs (h : Handler α) (v : View) (exchanges : List Exchange) (value : α) (v' : View) : Prop :=
  (h.run v).Reaches exchanges (.done (value, v'))

variable {h : Handler α} {v v' : View} {exchanges : List Exchange}

theorem runs_pure {value value' : α} :
    (pure value : Handler α).Runs v exchanges value' v' ↔
      exchanges = [] ∧ value' = value ∧ v' = v := by
  unfold Runs
  rw [StateT.run_pure]
  refine Program.reaches_done.trans ?_
  simp

theorem runs_get {value : View} :
    (get : Handler View).Runs v exchanges value v' ↔ exchanges = [] ∧ value = v ∧ v' = v := by
  unfold Runs
  rw [StateT.run_get]
  refine Program.reaches_done.trans ?_
  simp

theorem runs_modify {change : View → View} {value : Unit} :
    (modify change : Handler Unit).Runs v exchanges value v' ↔ exchanges = [] ∧ v' = change v := by
  unfold Runs
  rw [StateT.run_modify]
  refine Program.reaches_done.trans ?_
  simp

theorem runs_request {r : Request} {answer : r.Answer} :
    (View.request r).Runs v exchanges answer v' ↔ exchanges = [⟨r, answer⟩] ∧ v' = v := by
  constructor
  · intro h
    obtain ⟨answer', later, rfl, hlater⟩ := Program.ask_reaches_done.1 h
    obtain ⟨rfl, heq⟩ := Program.reaches_done.1 hlater
    cases heq
    exact ⟨rfl, rfl⟩
  · rintro ⟨rfl, rfl⟩
    exact .ask answer (.refl _)

theorem runs_bind {f : α → Handler β} {value : β} :
    (h >>= f).Runs v exchanges value v' ↔ ∃ first second middle v₁,
      exchanges = first ++ second ∧ h.Runs v first middle v₁ ∧
        (f middle).Runs v₁ second value v' := by
  unfold Runs
  rw [StateT.run_bind]
  refine Program.bind_reaches_done.trans ?_
  constructor
  · rintro ⟨first, second, ⟨middle, v₁⟩, rfl, hfirst, hsecond⟩
    exact ⟨first, second, middle, v₁, rfl, hfirst, hsecond⟩
  · rintro ⟨first, second, middle, v₁, rfl, hfirst, hsecond⟩
    exact ⟨first, second, (middle, v₁), rfl, hfirst, hsecond⟩

theorem after_reaches_done :
    (h.after v).Reaches exchanges (.done v') ↔ ∃ value, h.Runs v exchanges value v' := by
  constructor
  · intro hafter
    obtain ⟨first, second, ⟨value, v₁⟩, rfl, hfirst, hsecond⟩ := Program.bind_reaches_done.1 hafter
    obtain ⟨rfl, heq⟩ := Program.reaches_done.1 hsecond
    cases heq
    rw [List.append_nil]
    exact ⟨value, hfirst⟩
  · rintro ⟨value, hruns⟩
    refine Program.bind_reaches_done.2 ⟨exchanges, [], (value, v'), ?_, hruns, .refl _⟩
    rw [List.append_nil]

/-- What a handler keeps is true at its end, if its requests are answered as expected. -/
theorem Keeps.runs {w : Watch σ} {property : View → σ → Prop} {x : σ} {value : α}
    (hh : Keeps w property h) (hruns : h.Runs v exchanges value v')
    (hadmits : ∀ e ∈ exchanges, w.admits e.request e.answer) (hproperty : property v x) :
    property v' (w.follow x exchanges) :=
  (hh v x hproperty).reaches hruns hadmits

/-- What a handler establishes is true at its end, if its requests are answered as expected. -/
theorem Establishes.runs {w : Watch σ} {property : View → σ → Prop} {x : σ} {value : α}
    (hh : Establishes w property h) (hruns : h.Runs v exchanges value v')
    (hadmits : ∀ e ∈ exchanges, w.admits e.request e.answer) :
    property v' (w.follow x exchanges) :=
  (hh v x).reaches hruns hadmits

/-- A handler that touches some areas leaves the fields of the others as they are. -/
theorem Touches.runs {areas : List Area} (hh : Touches areas h) {value : α}
    (hruns : h.Runs v exchanges value v') {a : Area} (ha : a ∉ areas) : v.SameIn v' a :=
  (hh v).reaches hruns (fun _ _ => trivial) a ha

end Handler

end DeviceStatus.Lockscreen
