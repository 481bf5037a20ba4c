import DeviceStatus.Proofs.Device.Dealings

/-!
# A logout

A click on the logout button switches to the system user and then stops the user of the moment of
the click. What happens while the user manager carries out an order, and whether it succeeds, is up
to it; even the switch that it was told to make may be complete before it answers. All that reaches
the view in the meantime is put off and handled after both orders.
-/

namespace DeviceStatus.Device

open Lockscreen

variable {ℓ : Type} {s s' : System ℓ}

/-- The dealings of a logout up to its last order: the user is stopped only if the switch to the
system user has succeeded, and the first order that fails is logged. -/
def logoutDealings (user : Int32) (switched stopped : Except String Unit) : List Dealing :=
  .ordered (.switchUser systemUser) :: .answered switched ::
    match switched with
    | .error cause =>
      [.failed (.logoutFailed ⟨"Failed to switch to the system user", [cause]⟩)]
    | .ok _ =>
      .ordered (.stopUser user true) :: .answered stopped ::
        match stopped with
        | .error cause => [.failed (.logoutFailed ⟨s!"Failed to stop user {user.toInt}", [cause]⟩)]
        | .ok _ => []

/-- A user has been logged out, and then events may have been handled. -/
def LogsOut (user : Int32) (past : List Dealing) : Prop :=
  ∃ switched stopped, ∃ events : List Delivery,
    past = logoutDealings user switched stopped ++ events.map .handled

theorem LogsOut.handled {user : Int32} {past : List Dealing} (h : LogsOut user past)
    (d : Delivery) : LogsOut user (past ++ [.handled d]) := by
  obtain ⟨switched, stopped, events, rfl⟩ := h
  exact ⟨switched, stopped, events ++ [d], by simp⟩

/-- A logout asks for the user, then logs that user out. -/
theorem logOut_logsOut (v : View) :
    ∃ next, Operation.logOut.handler.after v = .ask (.fact .currentUser) next ∧
      ∀ user, (next user).Deals (LogsOut user) [] := by
  refine ⟨_, rfl, fun user switched => ?_⟩
  cases switched with
  | error cause => exact fun _ => ⟨.error cause, .ok (), [], rfl⟩
  | ok =>
    intro stopped
    cases stopped with
    | error cause => exact fun _ => ⟨.ok (), .error cause, [], rfl⟩
    | ok => exact ⟨.ok (), .ok (), [], rfl⟩

/-! ## The beginning of a logout -/

/-- What a click on the logout button begins. -/
structure Clicked (s s' : System ℓ) : Prop where
  status : s'.status = s.status
  journal : s'.journal = s.journal
  queue : s'.mailbox.queue = s.deferred
  /-- The view asks for the current user, then logs that user out. -/
  asking : ∃ next below, s'.stack = .program (.ask (.fact .currentUser) next) :: below ∧
    ∀ user, (next user).Deals (LogsOut user) []

theorem Shaped.clicked (h : Shaped s) (hstep : Step s (some .logOut) s') : Clicked s s' := by
  cases hstep with
  | @perform o v hview hfree =>
    obtain ⟨next, hprogram, hnext⟩ := logOut_logsOut v
    have hidle := h.idle hfree
    constructor
    · rfl
    · rfl
    · simp [System.mailbox, System.begin, System.push, Mailbox.queue, Operation.replays,
        Frame.taken, hidle.taken]
    · exact ⟨next, _, by rw [← hprogram]; rfl, hnext⟩

theorem feed_program {p : Program View} {below : List (Frame ℓ)}
    (hstack : s.stack = .program p :: below) {input : Input ℓ} (hinput : input ≠ .tick) :
    s.feed input = s := by
  cases input with
  | tick => exact absurd rfl hinput
  | act a => simp [System.feed, System.isTurn, hstack, Frame.isTurn]
  | done => simp [System.feed, System.returned, hstack]
  | reply answers => simp [System.feed, System.replied, hstack]

theorem dealing_of_journal {input : Input ℓ} (hjournal : (s.feed input).journal = s.journal)
    (hasked : ∀ r next below, s.stack ≠ .asked r next :: below) : s.dealing input = [] := by
  rw [dealing_eq (show (s.feed input).journal = [] ++ s.journal from hjournal),
    answered?_eq_none hasked]
  rfl

/-- The user who is logged out is the one at the moment of the click: nothing happens before the
view has asked for the user. -/
theorem Shaped.deals_of_asking (h : Shaped s) {next : Int32 → Program View}
    {below : List (Frame ℓ)}
    (hstack : s.stack = .program (.ask (.fact .currentUser) next) :: below)
    (hnext : ∀ user, (next user).Deals (LogsOut user) []) {inputs : List (Input ℓ)}
    (hbusy : s.BusyThrough inputs) :
    s.dealings inputs = [] ∧ (s.run inputs).isBusy = true ∨
      (s.run inputs).work.Deals (LogsOut s.status.currentUser) (s.dealings inputs) := by
  have hasked : ∀ r next below, s.stack ≠ .asked r next :: below := by simp [hstack]
  -- the first tick asks for the user; inputs before it change nothing
  induction inputs with
  | nil => exact .inl ⟨rfl, h.isBusy hstack rfl⟩
  | cons input inputs ih =>
    obtain ⟨-, hlater⟩ := hbusy
    by_cases htick : input = .tick
    · right
      subst htick
      have hfeed :
          s.feed .tick = { s with stack := .program (next s.status.currentUser) :: below } := by
        simp [System.feed, System.tick, hstack, System.goOn, System.push, System.answerFact]
      have hdeals : (s.feed .tick).work.Deals (LogsOut s.status.currentUser) [] := by
        rw [hfeed, work_of_frame rfl rfl]
        exact hnext _
      have hrun := (h.feed .tick).1.deals_run hlater hdeals fun _ d hpast => hpast.handled d
      rw [System.dealings, dealing_of_journal (by rw [hfeed]) hasked]
      exact hrun
    · have hfeed := feed_program hstack htick
      rw [hfeed] at hlater
      have hrun := ih hlater
      rw [System.dealings, dealing_of_journal (by rw [hfeed]) hasked]
      show _ ∧ ((s.feed input).run inputs).isBusy = true ∨
        ((s.feed input).run inputs).work.Deals _ _
      rw [hfeed]
      exact hrun

theorem Clicked.dealings {click : Input ℓ} (h : Clicked s (s.feed click))
    (hbegun : s.begun? click = some .logOut) (inputs : List (Input ℓ)) :
    s.dealings (click :: inputs) = (s.feed click).dealings inputs := by
  have hanswered : s.answered? click = none := by
    cases click with
    | act a => rfl
    | tick | done | reply => simp [System.begun?] at hbegun
  have hclick : s.dealing click = [] := by
    rw [dealing_eq (show (s.feed click).journal = [] ++ s.journal from h.journal), hanswered]
    rfl
  rw [System.dealings, hclick, List.nil_append]

/-- What is done after a click logs out the user of the moment of the click. -/
theorem Shaped.logsOut (h : Shaped s) {click : Input ℓ} {inputs : List (Input ℓ)}
    (hbegun : s.begun? click = some .logOut) (hbusy : (s.feed click).BusyThrough inputs) :
    (∃ rest, LogsOut s.status.currentUser (s.dealings (click :: inputs) ++ rest)) ∧
      (((s.feed click).run inputs).isBusy = false →
        LogsOut s.status.currentUser (s.dealings (click :: inputs))) := by
  obtain ⟨hshaped, -⟩ := h.feed click
  have hclicked : Clicked s (s.feed click) := h.clicked (hbegun ▸ h.step_feed click)
  obtain ⟨next, below, hstack, hnext⟩ := hclicked.asking
  rw [hclicked.dealings hbegun, ← hclicked.status]
  rcases hshaped.deals_of_asking hstack hnext hbusy with ⟨hnone, hlater⟩ | hdeals
  · rw [hnone]
    refine ⟨⟨_, .ok (), .ok (), [], rfl⟩, ?_⟩
    intro hfree
    simp [hfree] at hlater
  · refine ⟨hdeals.exists_end, ?_⟩
    intro hfree
    rw [(hshaped.run inputs).work_of_free hfree] at hdeals
    exact hdeals.2

theorem filterMap_logoutDealings (user : Int32) (switched stopped : Except String Unit) :
    (logoutDealings user switched stopped).filterMap Dealing.handled? = [] := by
  cases switched <;> cases stopped <;> rfl

theorem filterMap_map_handled (events : List Delivery) :
    (events.map Dealing.handled).filterMap Dealing.handled? = events := by
  simp [List.filterMap_map, Function.comp_def, Dealing.handled?]

theorem LogsOut.eq {user : Int32} {past : List Dealing} (h : LogsOut user past) :
    ∃ switched stopped, past =
      logoutDealings user switched stopped ++ (past.filterMap Dealing.handled?).map .handled := by
  obtain ⟨switched, stopped, events, rfl⟩ := h
  refine ⟨switched, stopped, ?_⟩
  rw [List.filterMap_append, filterMap_logoutDealings, filterMap_map_handled, List.nil_append]

theorem LogsOut.isPrefix {user : Int32} {past rest : List Dealing}
    (h : LogsOut user (past ++ rest)) :
    ∃ switched stopped, past <+:
      logoutDealings user switched stopped ++ (past.filterMap Dealing.handled?).map .handled := by
  obtain ⟨switched, stopped, events, heq⟩ := h
  refine ⟨switched, stopped, ?_⟩
  rcases List.append_eq_append_iff.1 heq with ⟨ahead, horders, -⟩ | ⟨handled, rfl, hevents⟩
  · exact horders ▸ (List.prefix_append _ ahead).trans (List.prefix_append _ _)
  · have hhandled : handled = (handled.filterMap Dealing.handled?).map .handled := by
      obtain ⟨first, last, -, rfl, -⟩ := List.map_eq_append_iff.1 hevents
      rw [filterMap_map_handled]
    refine ⟨[], ?_⟩
    rw [List.append_nil, List.filterMap_append, filterMap_logoutDealings, List.nil_append,
      ← hhandled]

theorem busyUntil_of_busyThrough {inputs : List (Input ℓ)} (hbusy : s.BusyThrough inputs)
    (hfree : (s.run inputs).isBusy = false) : s.BusyUntil inputs := by
  induction inputs generalizing s with
  | nil => exact hfree
  | cons input inputs ih => exact ⟨hbusy.1, ih hbusy.2 hfree⟩

/-- A click on the logout button orders the switch to the system user, once and before anything
else; then, if and only if this has succeeded, it orders once that the user of the moment of the
click be stopped, whoever is the current user by then; and it logs the order that has failed, if one
has. Only after that the events are handled that had been put off or have arrived in the meantime,
in their order, and when the view is free again all of them have been. -/
theorem logout_protocol (locale : String) (earlier : List (Input ℓ)) (click : Input ℓ)
    (inputs : List (Input ℓ)) :
    let s := (System.start locale).run earlier
    let s' := (s.feed click).run inputs
    let dealings := s.dealings (click :: inputs)
    s.begun? click = some .logOut → (s.feed click).BusyThrough inputs →
      ∃ switched stopped during,
        let whole := logoutDealings s.status.currentUser switched stopped ++
          (s.deferred ++ during).map .handled
        s'.mailbox.arrived = s.mailbox.arrived ++ during ∧ dealings <+: whole ∧
          (s'.isBusy = false → dealings = whole ∧ s'.deferred = []) := by
  intro s s' dealings hbegun hbusy
  have hshaped : Shaped s := (shaped_run locale earlier).1
  have hshaped' : Shaped (s.feed click) := (hshaped.feed click).1
  have hstep : Step s (some .logOut) (s.feed click) := hbegun ▸ hshaped.step_feed click
  have hclicked : Clicked s (s.feed click) := hshaped.clicked hstep
  have hdealings : dealings = (s.feed click).dealings inputs := hclicked.dealings hbegun inputs
  obtain ⟨hbusy', hin⟩ := hshaped.step_replays hstep rfl
  obtain ⟨during, harrived, hqueue⟩ := hshaped'.flow hbusy hin.1
  have hbefore : (s.feed click).mailbox.arrived = s.mailbox.arrived := by
    simp only [System.mailbox, Mailbox.arrived, hclicked.journal]
  rw [hbefore] at harrived
  rw [hclicked.queue, ← hdealings] at hqueue
  obtain ⟨⟨rest, hbegins⟩, hends⟩ := hshaped.logsOut hbegun hbusy
  by_cases hfree : s'.isBusy = false
  · -- the view is free again, so that no event is left
    have hnone : s'.deferred = [] :=
      hshaped'.none_left hin hbusy' (busyUntil_of_busyThrough hbusy hfree)
    have hqueue' : s'.mailbox.queue = [] := by
      have hbatch : s'.mailbox.batch = [] := ((hshaped'.run inputs).idle hfree).taken
      rw [Mailbox.queue, hbatch]
      exact hnone
    obtain ⟨switched, stopped, heq⟩ := (hends hfree).eq
    refine ⟨switched, stopped, during, harrived, ?_⟩
    rw [hqueue, show ((s.feed click).run inputs).mailbox.queue = [] from hqueue', List.append_nil]
    exact ⟨heq ▸ List.prefix_rfl, fun _ => ⟨heq, hnone⟩⟩
  · obtain ⟨switched, stopped, hprefix⟩ := hbegins.isPrefix
    refine ⟨switched, stopped, during, harrived, ?_, fun h => absurd h hfree⟩
    rw [hqueue, List.map_append, ← List.append_assoc]
    exact hprefix.trans (List.prefix_append _ _)

/-! ## A switch that is complete before it is answered -/

/-- The user manager cannot stop anyone. -/
def stopFails : Surroundings where
  stopError := some "no such user"
  bestPattern := fun _ skeleton => skeleton

/-- A view is made and attached, and the second user comes. -/
def asSecondUser : List (Input Empty) :=
  .act .create :: stopFails.uneventful 70 ++
    [.act (.attach "a"), .act (.change (.userSwitch 10))] ++ stopFails.uneventful 60

def clickLogout : Input ℓ := .act (.perform .logOut)

theorem begun?_clickLogout (hturn : s.isTurn = true) (hview : s.freeView?.isSome = true) :
    s.begun? clickLogout = some .logOut := by
  obtain ⟨v, hview⟩ := Option.isSome_iff_exists.1 hview
  simp [clickLogout, System.begun?, hturn, hview]

/-- The system user comes before the user manager has answered, up to the moment when the view is
free again. -/
def whileSwitching : List (Input Empty) :=
  [.tick, .tick, .act (.change (.userSwitch 0)), .tick, .tick] ++ stopFails.uneventful 53 ++ [.tick]

/-- The second user is stopped all the same, and the coming of the system user is handled after
that. -/
theorem logout_protocol_while_switching :
    let s := (System.start "en").run asSecondUser
    let s' := (s.feed clickLogout).run whileSwitching
    s'.isBusy = false ∧ s'.status.currentUser = systemUser ∧
      ∃ switched stopped, s.dealings (clickLogout :: whileSwitching) =
        logoutDealings 10 switched stopped ++ [.handled ⟨1, .userSwitch systemUser, true⟩] := by
  intro s s'
  have hfree : s'.isBusy = false := by decide +kernel
  have hbegun : s.begun? clickLogout = some .logOut :=
    begun?_clickLogout (by decide +kernel) (by decide +kernel)
  obtain ⟨switched, stopped, during, harrived, -, hends⟩ :=
    logout_protocol "en" asSecondUser clickLogout whileSwitching hbegun (by decide +kernel)
  obtain ⟨hdealings, -⟩ := hends hfree
  have hduring : during = [⟨1, .userSwitch systemUser, true⟩] := by
    have hboth : s'.mailbox.arrived =
        s.mailbox.arrived ++ [⟨1, .userSwitch systemUser, true⟩] := by
      decide +kernel
    exact List.append_cancel_left (harrived.symm.trans hboth)
  have hdeferred : s.deferred = [] := by decide +kernel
  have huser : s.status.currentUser = 10 := by decide +kernel
  refine ⟨hfree, by decide +kernel, switched, stopped, ?_⟩
  rw [hdealings, hduring]
  simp only [s, hdeferred, huser]
  rfl

end DeviceStatus.Device
