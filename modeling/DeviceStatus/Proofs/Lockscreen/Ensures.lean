import DeviceStatus.Lockscreen.Events
import DeviceStatus.Lockscreen.Screen

/-!
# What programs of the view ensure

A `Watch` follows the requests of a program: it has a state that every request drives on, it says
which requests are permitted in a state, and which answers are to be expected. `Program.Ensures` is
the judgement that, whatever the answers are, only permitted requests are made and the program ends
as it should; `Handler.Keeps` says that a property of the fields and of the state watched is kept.
-/

namespace DeviceStatus.Lockscreen

/-- There is an answer to every request. -/
theorem Request.nonempty_answer (r : Request) : Nonempty r.Answer := by
  cases r with
  | fact f => cases f <;> exact ⟨default⟩
  | query q => cases q <;> exact ⟨default⟩
  | command | log => exact ⟨()⟩
  | user => exact ⟨.ok ()⟩

variable {σ α β : Type}

/-- Something that follows the requests of a program. -/
structure Watch (σ : Type) where
  /-- The state after a request. -/
  after : σ → Request → σ
  /-- Whether a request may be made in a state. -/
  permits : σ → Request → Prop := fun _ _ => True
  /-- Whether an answer is to be expected. -/
  admits : (r : Request) → r.Answer → Prop := fun _ _ => True

/-- The screen is watched, and something is known of the answers. -/
def Watch.screen (known : (r : Request) → r.Answer → Prop) : Watch Screen where
  after := Screen.afterRequest
  admits := known

/-- What is known of the answers, if something is known of the device and nothing of the
surroundings. -/
def knownFacts (known : (f : Fact) → f.Answer → Prop) : (r : Request) → r.Answer → Prop
  | .fact f => known f
  | .query _ | .command _ | .user _ | .log _ => fun _ => True

namespace Program

/-- Whatever the expected answers are, a program makes only permitted requests, and its value and
the state watched have a property at its end. -/
def Ensures (w : Watch σ) (post : α → σ → Prop) : Program α → σ → Prop
  | done value, x => post value x
  | ask r next, x =>
    w.permits x r ∧ ∀ answer, w.admits r answer → (next answer).Ensures w post (w.after x r)

variable {w : Watch σ}

@[simp] theorem ensures_pure (post : α → σ → Prop) (value : α) (x : σ) :
    (pure value : Program α).Ensures w post x ↔ post value x := Iff.rfl

@[simp] theorem ensures_done (post : α → σ → Prop) (value : α) (x : σ) :
    (done value).Ensures w post x ↔ post value x := Iff.rfl

@[simp] theorem ensures_ask (r : Request) (next : r.Answer → Program α) (post : α → σ → Prop)
    (x : σ) :
    (ask r next).Ensures w post x ↔
      w.permits x r ∧ ∀ answer, w.admits r answer → (next answer).Ensures w post (w.after x r) :=
  Iff.rfl

/-- A sequence ensures what its first part ensures that its second part ensures. -/
@[simp] theorem ensures_bind (p : Program α) (f : α → Program β) (post : β → σ → Prop) (x : σ) :
    (p >>= f).Ensures w post x ↔ p.Ensures w (fun value x => (f value).Ensures w post x) x := by
  show (p.bind f).Ensures w post x ↔ _
  induction p generalizing x with
  | done value => rfl
  | ask r next ih => simp only [ask_bind, Ensures, ih]

@[simp] theorem ensures_map (f : α → β) (p : Program α) (post : β → σ → Prop) (x : σ) :
    (f <$> p).Ensures w post x ↔ p.Ensures w (fun value x => post (f value) x) x := by
  rw [map_eq_pure_bind, ensures_bind]
  rfl

theorem Ensures.imp {post post' : α → σ → Prop} (himp : ∀ value x, post value x → post' value x)
    {p : Program α} {x : σ} (h : p.Ensures w post x) : p.Ensures w post' x := by
  induction p generalizing x with
  | done value => exact himp value x h
  | ask r next ih => exact ⟨h.1, fun answer hanswer => ih answer (h.2 answer hanswer)⟩

theorem Ensures.and {post post' : α → σ → Prop} {p : Program α} {x : σ} (h : p.Ensures w post x)
    (h' : p.Ensures w post' x) : p.Ensures w (fun value x => post value x ∧ post' value x) x := by
  induction p generalizing x with
  | done value => exact ⟨h, h'⟩
  | ask r next ih =>
    exact ⟨h.1, fun answer hanswer => ih answer (h.2 answer hanswer) (h'.2 answer hanswer)⟩

/-- What is always true is ensured by any program to which all is permitted. -/
theorem ensures_of_forall (hpermits : ∀ x r, w.permits x r) {post : α → σ → Prop}
    (hpost : ∀ value x, post value x) (p : Program α) (x : σ) : p.Ensures w post x := by
  induction p generalizing x with
  | done value => exact hpost value x
  | ask r next ih => exact ⟨hpermits x r, fun answer _ => ih answer _⟩

/-- What a program ensures is true after it has been run under expected answers. -/
theorem Ensures.under {answers : Answers} (hanswers : ∀ r, w.admits r (answers r))
    {post : α → σ → Prop} {p : Program α} {x : σ} (h : p.Ensures w post x) :
    post (p.under answers).1 ((p.under answers).2.foldl w.after x) := by
  induction p generalizing x with
  | done value => exact h
  | ask r next ih => exact ih _ (h.2 (answers r) (hanswers r))

end Program

namespace Handler

/-- A handler keeps a property of the fields and of the state watched. -/
def Keeps (w : Watch σ) (property : View → σ → Prop) (h : Handler α) : Prop :=
  ∀ v x, property v x → (h.run v).Ensures w (fun result x => property result.2 x) x

/-- A handler ends with a property of the fields and of the state watched, whatever was before. -/
def Establishes (w : Watch σ) (property : View → σ → Prop) (h : Handler α) : Prop :=
  ∀ v x, (h.run v).Ensures w (fun result x => property result.2 x) x

variable {w : Watch σ} {property property' : View → σ → Prop}

theorem ensures_after (h : Handler α) (v : View) (post : View → σ → Prop) (x : σ) :
    (h.after v).Ensures w post x ↔
      (h.run v).Ensures w (fun result x => post result.2 x) x := by
  unfold after
  exact Program.ensures_bind ..

theorem Keeps.pure (value : α) : Keeps w property (pure value) := fun _ _ h => h

theorem Keeps.bind {h : Handler α} {f : α → Handler β} (hh : Keeps w property h)
    (hf : ∀ value, Keeps w property (f value)) : Keeps w property (h >>= f) := by
  intro v x hproperty
  rw [StateT.run_bind, Program.ensures_bind]
  refine (hh v x hproperty).imp ?_
  intro result x hresult
  exact hf result.1 result.2 x hresult

theorem Establishes.keeps {h : Handler α} (hh : Establishes w property h) : Keeps w property h :=
  fun v x _ => hh v x

/-- What comes last decides. -/
theorem Establishes.of_last {h : Handler α} {f : α → Handler β} (hpermits : ∀ x r, w.permits x r)
    (hf : ∀ value, Establishes w property (f value)) : Establishes w property (h >>= f) := by
  intro v x
  rw [StateT.run_bind, Program.ensures_bind]
  refine Program.ensures_of_forall hpermits ?_ _ x
  intro result x
  exact hf result.1 result.2 x

theorem Establishes.bind {h : Handler α} {f : α → Handler β} (hh : Establishes w property h)
    (hf : ∀ value, Keeps w property (f value)) : Establishes w property (h >>= f) := by
  intro v x
  rw [StateT.run_bind, Program.ensures_bind]
  refine (hh v x).imp ?_
  intro result x hresult
  exact hf result.1 result.2 x hresult

theorem Establishes.and {h : Handler α} (hh : Establishes w property h)
    (hh' : Establishes w property' h) :
    Establishes w (fun v x => property v x ∧ property' v x) h :=
  fun v x => (hh v x).and (hh' v x)

/-- One thing is established after the other, which it keeps. -/
theorem Establishes.bind_and {h : Handler α} {f : α → Handler β} (hpermits : ∀ x r, w.permits x r)
    (hh : Establishes w property h) (hkeeps : ∀ value, Keeps w property (f value))
    (hf : ∀ value, Establishes w property' (f value)) :
    Establishes w (fun v x => property v x ∧ property' v x) (h >>= f) :=
  (hh.bind hkeeps).and (.of_last hpermits hf)

end Handler

/-- Taking the meaning of a setting only writes to the log. -/
theorem View.ensures_choose {known : (r : Request) → r.Answer → Prop} (choice : Choice α) (v : View)
    (x : Screen) :
    ((View.choose choice).run v).Ensures (.screen known)
      (fun result x' => result = (choice.value, v) ∧ x' = x) x := by
  obtain ⟨value, notice⟩ := choice
  cases notice with
  | none => exact ⟨rfl, rfl⟩
  | some notice => exact ⟨trivial, fun _ _ => ⟨rfl, rfl⟩⟩

end DeviceStatus.Lockscreen
