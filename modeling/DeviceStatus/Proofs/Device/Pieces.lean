import DeviceStatus.Proofs.Device.Work
import DeviceStatus.Proofs.Lockscreen.Transcripts

/-!
# Pieces of work

The view is made once, and then does one operation after another, be it that its owner wants so or
that it handles an event. Each of these is a piece of work, which begins where the one before ended
and goes on by its exchanges. `System.pieces` lists them along a run, and `Diary` is what there is
to know about the list. So what is to be shown of the exchanges of the view along all runs is shown
of the programs of the single operations, and by induction on the list.
-/

namespace DeviceStatus.Device

open Lockscreen

variable {ℓ : Type}

/-- What the view does in one go. -/
inductive Task where
  /-- It is made. -/
  | create (locale : String)
  /-- It goes through an operation, with the fields that it has. -/
  | operation (o : Operation) (v : View)

/-- The program of a task. -/
def Task.program : Task → Program View
  | create locale => View.create locale
  | operation o v => o.handler.after v

/-- A task with the exchanges made for it so far. -/
structure Piece where
  /-- The task. -/
  task : Task
  /-- The exchanges. -/
  exchanges : List Exchange

namespace Piece

/-- The exchanges have brought the task to an end. -/
def HasEnded (p : Piece) (v : View) : Prop := p.task.program.Reaches p.exchanges (.done v)

/-- After the exchanges made so far, the task may still come to this end. -/
def MayEnd (p : Piece) (v : View) : Prop :=
  ∃ rest, p.task.program.Reaches (p.exchanges ++ rest) (.done v)

variable {p : Piece} {v v' : View}

theorem HasEnded.mayEnd (h : p.HasEnded v) : p.MayEnd v :=
  ⟨[], by rw [List.append_nil]; exact h⟩

theorem HasEnded.eq (h : p.HasEnded v) (h' : p.MayEnd v') : v' = v := by
  obtain ⟨rest, hreaches⟩ := h'
  exact (Program.Reaches.eq_nil h hreaches).2

/-- What has been begun may come to an end. -/
theorem exists_mayEnd {q : Program View} (h : p.task.program.Reaches p.exchanges q) :
    ∃ v, p.MayEnd v := by
  obtain ⟨rest, v, hrest⟩ := q.exists_reaches_done
  exact ⟨v, rest, h.trans hrest⟩

end Piece

/-- What the view does at one moment. -/
inductive Doing where
  /-- It begins with a task. -/
  | begun (task : Task)
  /-- A request of it is answered. -/
  | exchanged (e : Exchange)

/-- The pieces of work after what the view does, latest first. -/
def record (pieces : List Piece) : Doing → List Piece
  | .begun task => ⟨task, []⟩ :: pieces
  | .exchanged e =>
    match pieces with
    | p :: earlier => { p with exchanges := p.exchanges ++ [e] } :: earlier
    | [] => []

namespace System

/-- What the view does at an input. -/
def doing? (s : System ℓ) : Input ℓ → Option Doing
  | .tick =>
    match s.stack with
    | .handle d :: _ => s.view.view?.map fun v => .begun (.operation (.event d.event) v)
    | .program (.ask (.fact f) _) :: _ => some (.exchanged ⟨.fact f, s.answerFact f⟩)
    | .program (.ask (.log n) _) :: _ => some (.exchanged ⟨.log n, ()⟩)
    | _ => none
  | .act (.create locale) =>
    match s.isTurn, s.view, s.isBusy with
    | true, .empty, false => some (.begun (.create (locale.getD s.status.locale)))
    | _, _, _ => none
  | .act (.perform o) =>
    if s.isTurn then s.freeView?.map fun v => .begun (.operation o v) else none
  | .reply answers =>
    match s.stack with
    | .asked r _ :: _ => some (.exchanged ⟨r, answers r⟩)
    | _ => none
  | .act _ | .done => none

/-- What the view does along a run. -/
def doings (s : System ℓ) : List (Input ℓ) → List Doing
  | [] => []
  | input :: inputs => (s.doing? input).toList ++ (s.feed input).doings inputs

/-- The pieces of work along a run, latest first. -/
def pieces (s : System ℓ) (inputs : List (Input ℓ)) : List Piece :=
  (s.doings inputs).foldl record []

end System

variable {s : System ℓ}

theorem System.doings_append (s : System ℓ) (inputs more : List (Input ℓ)) :
    s.doings (inputs ++ more) = s.doings inputs ++ (s.run inputs).doings more := by
  induction inputs generalizing s with
  | nil => rfl
  | cons input inputs ih =>
    have hrest := ih (s.feed input)
    show (s.doing? input).toList ++ (s.feed input).doings (inputs ++ more) = _
    rw [hrest, ← List.append_assoc]
    rfl

/-! ## How the work goes on -/

/-- How the work of the view goes on, with what the view does. -/
inductive Work.Goes : Work → Option Doing → Work → Prop
  | stay (work : Work) : Goes work none work
  | create (locale : String) :
    Goes (.idle .empty) (some (.begun (.create locale))) (.running (View.create locale))
  | perform (o : Operation) (v : View) :
    Goes (.idle (.present v)) (some (.begun (.operation o v))) (.running (o.handler.after v))
  | drop (v : View) : Goes (.idle (.present v)) none (.idle .gone)
  | done (v : View) : Goes (.running (.done v)) none (.idle (.present v))
  | known {r : Request} (next : r.Answer → Program View) (answer : r.Answer) :
    Goes (.running (.ask r next)) (some (.exchanged ⟨r, answer⟩)) (.running (next answer))
  | ask {r : Request} (next : r.Answer → Program View) :
    Goes (.running (.ask r next)) none (.waiting r next)
  | answer {r : Request} (next : r.Answer → Program View) (answer : r.Answer) :
    Goes (.waiting r next) (some (.exchanged ⟨r, answer⟩)) (.running (next answer))

theorem Work.Goes.of_same {doing? : Option Doing} {work work' : Work} (hdoing : doing? = none)
    (hwork : work' = work) : Goes work doing? work' := by
  rw [hdoing, hwork]
  exact .stay work

theorem Shaped.goes_tick (h : Shaped s) : Work.Goes s.work (s.doing? .tick) s.tick.work := by
  cases hstack : s.stack with
  | nil => exact .of_same (by simp [System.doing?, hstack]) (by simp [System.tick, hstack])
  | cons f below =>
    -- what is no work of the view goes from the stack, or comes on it
    have hpop : f.work? = none → ({ s with stack := below } : System ℓ).work = s.work :=
      fun hf => (work_cons hstack hf).symm
    cases f with
    | listening | asked =>
      exact .of_same (by simp [System.doing?, hstack]) (by simp [System.tick, hstack])
    | notify event rest =>
      refine .of_same (by simp [System.doing?, hstack]) ?_
      rw [← hpop rfl]
      cases rest with
      | nil => simp [System.tick, hstack]
      | cons entry rest =>
        have htold : ({ s with stack := .notify event rest :: below } : System ℓ).work =
            ({ s with stack := below } : System ℓ).work := work_cons rfl rfl
        simp only [System.tick, hstack, System.tell]
        split
        · rw [work_deliver, htold]
        · rw [← htold]
          exact work_cons rfl rfl
    | replay =>
      refine .of_same (by simp [System.doing?, hstack]) ?_
      cases hdeferred : s.deferred with
      | nil =>
        rw [← hpop rfl]
        simp [System.tick, hstack, hdeferred]
      | cons d rest =>
        have htick : s.tick = { s with deferred := [], stack := .batch s.deferred :: s.stack } := by
          simp [System.tick, hstack, hdeferred]
        rw [htick]
        rfl
    | batch rest =>
      refine .of_same (by simp [System.doing?, hstack]) ?_
      rw [← hpop rfl]
      cases rest with
      | nil => simp [System.tick, hstack]
      | cons d rest =>
        have htick : s.tick = { s with stack := .handle d :: .batch rest :: below } := by
          simp [System.tick, hstack]
        rw [htick]
        rfl
    | free =>
      have hdoing : s.doing? .tick = none := by simp [System.doing?, hstack]
      have htick : s.tick = ({ s with stack := below } : System ℓ).setFree := by
        simp [System.tick, hstack]
      rw [htick]
      rcases setFree_cases ({ s with stack := below } : System ℓ) with
        ⟨-, hfree⟩ | ⟨-, ⟨v, hview⟩, hfree⟩
      · refine .of_same hdoing ?_
        rw [hfree]
        exact hpop rfl
      · obtain ⟨hwork, hgone⟩ := h.work_of_leave hstack
        have hpresent : s.view = .present v := hview
        rw [hdoing, hfree, hwork, hgone, hpresent]
        exact .drop v
    | handle d =>
      obtain ⟨v, hview⟩ := h.view (.handle d) (by simp [hstack]) rfl
      have hdoing : s.doing? .tick = some (.begun (.operation (.event d.event) v)) := by
        simp [System.doing?, hstack, hview, ViewSlot.view?]
      have hwork' : s.tick.work = .running ((View.handle d.event).after v) := by
        simp only [System.tick, hstack, hview]
        exact work_of_frame rfl rfl
      rw [hdoing, hwork', work_of_stack hstack (h.work?_of_handle hstack), hview]
      exact .perform (.event d.event) v
    | program p =>
      rw [work_of_frame hstack rfl]
      have htick : s.tick = ({ s with stack := below } : System ℓ).goOn p := by
        simp [System.tick, hstack]
      rw [htick]
      cases p with
      | done v =>
        have hended : (({ s with stack := below } : System ℓ).goOn (.done v)).work =
            .idle (.present v) :=
          work_of_stack rfl ((h.busy_cons hstack rfl).resting_of_program).work?
        rw [hended]
        simp only [System.doing?, hstack]
        exact .done v
      | ask r next =>
        cases r with
        | fact f =>
          simp only [System.doing?, hstack]
          exact .known next (s.answerFact f)
        | log n =>
          simp only [System.doing?, hstack]
          exact .known next ()
        | query | command | user =>
          simp only [System.doing?, hstack]
          exact .ask next

theorem Shaped.goes_act (h : Shaped s) (a : Action ℓ) :
    Work.Goes s.work (s.doing? (.act a)) (s.feed (.act a)).work := by
  by_cases hturn : s.isTurn = true
  · have hfeed : s.feed (.act a) = s.act a := by simp [System.feed, hturn]
    rw [hfeed]
    have hregister : ∀ {a : Action ℓ}, a.isRegistration = true → (s.act a).work = s.work := by
      intro a ha
      have hsame := sameWork_register (s := s) ha
      rw [System.work, System.work, hsame.stack, hsame.view]
    cases a with
    | listen | unlisten | attach | detach => exact .of_same rfl (hregister rfl)
    | change c =>
      refine .of_same rfl ?_
      simp only [System.act]
      split
      · rw [work_announce]
        rfl
      · rfl
    | create locale =>
      have hother : (s.view = .empty → s.isBusy = true) →
          s.doing? (.act (.create locale)) = none ∧ s.act (.create locale) = s := by
        intro hother
        cases hview : s.view <;> cases hbusy : s.isBusy <;>
          simp_all [System.doing?, System.act]
      by_cases hfresh : s.view = .empty ∧ s.isBusy = false
      · obtain ⟨hview, hfree⟩ := hfresh
        rw [h.work_of_free hfree]
        simp only [System.act, System.doing?, hturn, hview, hfree]
        exact .create _
      · have hnone := hother (by simpa using hfresh)
        exact .of_same hnone.1 (by rw [hnone.2])
    | perform o =>
      simp only [System.act, System.doing?, hturn, if_true]
      split
      · next v hview =>
        rw [h.work_of_freeView? hview, hview]
        exact .perform o v
      · next hnone => exact .of_same (by rw [hnone]; rfl) rfl
    | dropView =>
      simp only [System.act]
      split
      · next v hpresent hfree =>
        have hdropped : ({ s with view := .gone } : System ℓ).work = .idle .gone :=
          work_of_stack (s := { s with view := .gone }) rfl (h.idle hfree).work?
        rw [h.work_of_free hfree, hpresent, hdropped]
        exact .drop v
      · exact .of_same rfl rfl
      · exact .of_same rfl rfl
  · have hfeed : s.feed (.act a) = s := by simp [System.feed, hturn]
    rw [hfeed]
    refine .of_same ?_ rfl
    cases a <;> simp [System.doing?, hturn]

/-- Every input lets the work of the view go on by what the view does. -/
theorem Shaped.goes (h : Shaped s) (input : Input ℓ) :
    Work.Goes s.work (s.doing? input) (s.feed input).work := by
  cases input with
  | tick => exact h.goes_tick
  | act a => exact h.goes_act a
  | done =>
    refine .of_same rfl ?_
    simp only [System.feed, System.returned]
    split
    · next hstack => exact (work_cons hstack rfl).symm
    · rfl
  | reply answers =>
    by_cases hasked : ∃ r next below, s.stack = .asked r next :: below
    · obtain ⟨r, next, below, hstack⟩ := hasked
      simp only [System.feed, System.replied, System.doing?, hstack]
      rw [work_of_frame hstack rfl]
      exact .answer next (answers r)
    · refine .of_same ?_ ?_
      · simp only [System.doing?]
        split
        · next r next below hstack => exact absurd ⟨r, next, below, hstack⟩ hasked
        · rfl
      · simp only [System.feed, System.replied]
        split
        · next r next below hstack => exact absurd ⟨r, next, below, hstack⟩ hasked
        · rfl

/-! ## The diary of the view -/

/-- The view is made first, and every later piece of work begins with the fields that the one before
has left. -/
inductive Worked : List Piece → Prop
  | made (locale : String) (exchanges : List Exchange) : Worked [⟨.create locale, exchanges⟩]
  | next (o : Operation) {v : View} (exchanges : List Exchange) {p : Piece} {earlier : List Piece}
    (h : Worked (p :: earlier)) (hended : p.HasEnded v) :
    Worked (⟨.operation o v, exchanges⟩ :: p :: earlier)

/-- The exchanges of the latest piece of work do not matter to those before it. -/
theorem Worked.exchanges {p : Piece} {earlier : List Piece} (h : Worked (p :: earlier))
    (exchanges : List Exchange) : Worked ({ p with exchanges } :: earlier) := by
  cases h with
  | made locale => exact .made locale exchanges
  | next o _ h hended => exact .next o exchanges h hended

/-- The pieces of work of a view, latest first, with what it does now. -/
inductive Diary : List Piece → Work → Prop
  | fresh : Diary [] (.idle .empty)
  | idle {p : Piece} {earlier : List Piece} {v : View} (h : Worked (p :: earlier))
    (hended : p.HasEnded v) : Diary (p :: earlier) (.idle (.present v))
  | gone {p : Piece} {earlier : List Piece} {v : View} (h : Worked (p :: earlier))
    (hended : p.HasEnded v) : Diary (p :: earlier) (.idle .gone)
  | running {p : Piece} {earlier : List Piece} {q : Program View} (h : Worked (p :: earlier))
    (hreaches : p.task.program.Reaches p.exchanges q) : Diary (p :: earlier) (.running q)
  | waiting {p : Piece} {earlier : List Piece} {r : Request} {next : r.Answer → Program View}
    (h : Worked (p :: earlier)) (hreaches : p.task.program.Reaches p.exchanges (.ask r next)) :
    Diary (p :: earlier) (.waiting r next)

theorem Diary.goes {pieces : List Piece} {work work' : Work} {doing? : Option Doing}
    (h : Diary pieces work) (hgoes : Work.Goes work doing? work') :
    Diary (doing?.toList.foldl record pieces) work' := by
  cases hgoes with
  | stay => exact h
  | create locale =>
    cases h with
    | fresh => exact .running (.made locale []) (.refl _)
  | perform o v =>
    cases h with
    | idle h hended => exact .running (.next o [] h hended) (.refl _)
  | drop v =>
    cases h with
    | idle h hended => exact .gone h hended
  | done v =>
    cases h with
    | running h hreaches => exact .idle h hreaches
  | known next answer =>
    cases h with
    | running h hreaches => exact .running (h.exchanges _) (hreaches.answered answer)
  | ask next =>
    cases h with
    | running h hreaches => exact .waiting h hreaches
  | answer next answer =>
    cases h with
    | waiting h hreaches => exact .running (h.exchanges _) (hreaches.answered answer)

/-- The pieces of work along a run are the diary of the view. -/
theorem diary_run (locale : String) (inputs : List (Input ℓ)) :
    Diary ((System.start (ℓ := ℓ) locale).pieces inputs)
      ((System.start (ℓ := ℓ) locale).run inputs).work := by
  have hrun : ∀ (s : System ℓ) (past : List Piece), Shaped s → Diary past s.work →
      Diary ((s.doings inputs).foldl record past) (s.run inputs).work := by
    induction inputs with
    | nil => exact fun s past _ h => h
    | cons input inputs ih =>
      intro s past hshaped h
      have hlater := ih (s.feed input) _ (hshaped.feed input).1 (h.goes (hshaped.goes input))
      rwa [← List.foldl_append] at hlater
  exact hrun _ [] (shaped_start locale) .fresh

/-- What was worked before a piece is worked as well. -/
theorem Worked.of_append (later : List Piece) {p : Piece} {earlier : List Piece}
    (h : Worked (later ++ p :: earlier)) : Worked (p :: earlier) := by
  induction later with
  | nil => exact h
  | cons first later ih =>
    rw [List.cons_append] at h
    generalize hbefore : later ++ p :: earlier = before at h
    cases h with
    | made => simp at hbefore
    | next _ _ h => exact ih (hbefore ▸ h)

/-- Every piece of work but the latest has come to an end. -/
theorem Worked.hasEnded {p first : Piece} {earlier later : List Piece}
    (h : Worked (first :: later ++ p :: earlier)) : ∃ v, p.HasEnded v := by
  induction later generalizing first with
  | nil =>
    cases h with
    | next _ _ _ hended => exact ⟨_, hended⟩
  | cons second later ih =>
    have hrest : Worked (second :: later ++ p :: earlier) := Worked.of_append [first] h
    exact ih hrest

theorem Diary.worked {p : Piece} {earlier : List Piece} {work : Work}
    (h : Diary (p :: earlier) work) : Worked (p :: earlier) := by
  cases h <;> assumption

/-- The latest piece of work comes to an end or may do so. -/
theorem Diary.exists_mayEnd {p : Piece} {earlier : List Piece} {work : Work}
    (h : Diary (p :: earlier) work) : ∃ v, p.MayEnd v := by
  cases h with
  | idle _ hended | gone _ hended => exact ⟨_, hended.mayEnd⟩
  | running _ hreaches | waiting _ hreaches => exact Piece.exists_mayEnd hreaches

/-- Every piece of work follows those before it, and comes to an end or may do so. -/
theorem Diary.split {later : List Piece} {p : Piece} {earlier : List Piece} {work : Work}
    (h : Diary (later ++ p :: earlier) work) : Worked (p :: earlier) ∧ ∃ v, p.MayEnd v := by
  cases later with
  | nil => exact ⟨h.worked, h.exists_mayEnd⟩
  | cons first later =>
    have hworked := Diary.worked (p := first) h
    obtain ⟨v, hended⟩ := Worked.hasEnded hworked
    exact ⟨Worked.of_append (first :: later) hworked, v, hended.mayEnd⟩

/-! ## Who has answered -/

/-- What has been exchanged is in the piece of work that it was exchanged for. -/
theorem mem_doings_of_mem_record {doings : List Doing} {pieces : List Piece} {p : Piece}
    {e : Exchange} (hp : p ∈ doings.foldl record pieces) (he : e ∈ p.exchanges)
    (hold : ∀ p ∈ pieces, e ∉ p.exchanges) : .exchanged e ∈ doings := by
  induction doings generalizing pieces with
  | nil => exact absurd he (hold p hp)
  | cons d doings ih =>
    by_cases hd : d = .exchanged e
    · rw [hd]
      exact List.mem_cons_self
    · refine List.mem_cons_of_mem _ (ih hp ?_)
      cases d with
      | begun task => exact List.forall_mem_cons.2 ⟨List.not_mem_nil, hold⟩
      | exchanged e' =>
        cases pieces with
        | nil => exact hold
        | cons p' earlier =>
          obtain ⟨hlast, hearlier⟩ := List.forall_mem_cons.1 hold
          refine List.forall_mem_cons.2 ⟨?_, hearlier⟩
          intro hmem
          rcases List.mem_append.1 hmem with hmem | hmem
          · exact hlast hmem
          · exact hd (congrArg Doing.exchanged (List.mem_singleton.1 hmem).symm)

/-- A request that the device does not answer itself has the answer of a reply. -/
theorem System.exists_reply {inputs : List (Input ℓ)} {e : Exchange}
    (he : .exchanged e ∈ s.doings inputs) (hrequest : e.request.isInternal = false) :
    ∃ answers, .reply answers ∈ inputs ∧ e = ⟨e.request, answers e.request⟩ := by
  induction inputs generalizing s with
  | nil => simp [System.doings] at he
  | cons input inputs ih =>
    rcases List.mem_append.1 he with hnow | hlater
    · rw [Option.mem_toList] at hnow
      cases input with
      | reply answers =>
        simp only [System.doing?] at hnow
        split at hnow
        · next r next below hstack =>
          obtain rfl : (⟨r, answers r⟩ : Exchange) = e := by simpa using hnow
          exact ⟨answers, List.mem_cons_self, rfl⟩
        · simp at hnow
      | tick =>
        -- what goes on without anyone answering are questions to the device and the log
        simp only [System.doing?] at hnow
        split at hnow
        · simp at hnow
        · next f next below hstack =>
          obtain rfl : (⟨.fact f, s.answerFact f⟩ : Exchange) = e := by simpa using hnow
          simp [Request.isInternal] at hrequest
        · next n next below hstack =>
          obtain rfl : (⟨.log n, ()⟩ : Exchange) = e := by simpa using hnow
          simp [Request.isInternal] at hrequest
        · simp at hnow
      | act a =>
        cases a with
        | create =>
          simp only [System.doing?] at hnow
          split at hnow <;> simp at hnow
        | perform o =>
          simp only [System.doing?] at hnow
          split at hnow <;> simp at hnow
        | change | listen | unlisten | attach | detach | dropView => simp [System.doing?] at hnow
      | done => simp [System.doing?] at hnow
    · obtain ⟨answers, hmem, heq⟩ := ih hlater
      exact ⟨answers, List.mem_cons_of_mem _ hmem, heq⟩

/-- In all pieces of work, what the device does not answer itself has the answer of a reply. -/
theorem System.exists_reply_of_piece {inputs : List (Input ℓ)} {p : Piece} {e : Exchange}
    (hp : p ∈ s.pieces inputs) (he : e ∈ p.exchanges) (hrequest : e.request.isInternal = false) :
    ∃ answers, .reply answers ∈ inputs ∧ e = ⟨e.request, answers e.request⟩ :=
  exists_reply (mem_doings_of_mem_record hp he (by simp)) hrequest

end DeviceStatus.Device
