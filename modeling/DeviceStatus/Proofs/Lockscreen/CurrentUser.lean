import DeviceStatus.Proofs.Lockscreen.Footprints

/-!
# What is shown for the current user

`Watch.answered` watches the screen while the surroundings do not change, so that everything asked
is known (`Handler.Finds`). Under these answers the refreshes of the view show what is stored for
the current user: the time in the patterns that are known, the status area aligned under the clock
of the view, and the owner information aligned under the clock that the user has chosen.
-/

namespace DeviceStatus.Lockscreen

open Handler

/-! ## What the answers say -/

namespace Answers

/-- The value of a setting for the current user. -/
def setting (answers : Answers) (s : Settings.Setting) : Int32 :=
  s.orDefault (answers (.query (.setting s (answers (.fact .currentUser)))))

/-- The clock that the current user has chosen. -/
def clock (answers : Answers) : Clock.Style :=
  (Clock.Style.ofSetting (answers.setting .clock)).value

/-- How a text under a clock is aligned for the current user. -/
def alignmentUnder (answers : Answers) (clock : Clock.Style) : AlignmentStyle :=
  DeviceStatus.alignUnder clock
    (TextClockAlignment.ofSetting (answers.setting .textClockAlignment)).value
    (answers (.query (.dimension .textClockStart)))

end Answers

/-- The screen is watched under fixed answers. -/
abbrev Watch.answered (answers : Answers) : Watch Screen :=
  .screen fun r answer => answer = answers r

section Answered

variable {α β : Type} {answers : Answers} {h : Handler α}

/-- A handler only asks, and finds a value. -/
def Handler.Finds (answers : Answers) (h : Handler α) (value : α) : Prop :=
  ∀ v x, (h.run v).Ensures (.answered answers) (fun result x' => result = (value, v) ∧ x' = x) x

/-- What comes next ensures what a sequence ensures. -/
theorem Handler.Finds.ensures {f : α → Handler β} {value : α} {post : β × View → Screen → Prop}
    {v : View} {x : Screen} (hh : Finds answers h value)
    (hf : ((f value).run v).Ensures (.answered answers) post x) :
    ((h >>= f).run v).Ensures (.answered answers) post x := by
  rw [StateT.run_bind, Program.ensures_bind]
  refine (hh v x).imp ?_
  rintro _ x ⟨rfl, rfl⟩
  exact hf

theorem Handler.Finds.bind {f : α → Handler β} {value : α} {value' : β}
    (hh : Finds answers h value) (hf : Finds answers (f value) value') :
    Finds answers (h >>= f) value' := fun v x => hh.ensures (hf v x)

theorem Handler.Finds.establishes {f : α → Handler β} {value : α}
    {property : View → Screen → Prop} (hh : Finds answers h value)
    (hf : Establishes (.answered answers) property (f value)) :
    Establishes (.answered answers) property (h >>= f) := fun v x => hh.ensures (hf v x)

namespace View

theorem finds_fact (f : Fact) : Finds answers (fact f) (answers (.fact f)) :=
  fun _ _ => ⟨trivial, fun _ hanswer => ⟨congrArg (·, _) hanswer, rfl⟩⟩

theorem finds_query (q : Query) : Finds answers (query q) (answers (.query q)) :=
  fun _ _ => ⟨trivial, fun _ hanswer => ⟨congrArg (·, _) hanswer, rfl⟩⟩

theorem finds_choose (choice : Choice α) : Finds answers (choose choice) choice.value :=
  fun v x => ensures_choose choice v x

theorem finds_setting (s : Settings.Setting) : Finds answers (setting s) (answers.setting s) :=
  .bind (finds_fact _) (.bind (finds_query _) fun _ _ => ⟨rfl, rfl⟩)

theorem finds_chosenClock : Finds answers chosenClock answers.clock :=
  .bind (finds_setting _) (finds_choose _)

theorem finds_alignmentUnder (clock : Clock.Style) :
    Finds answers (alignmentUnder clock) (answers.alignmentUnder clock) :=
  .bind (finds_setting _) (.bind (finds_choose _) (.bind (finds_query _) fun _ _ => ⟨rfl, rfl⟩))

/-! ## What is brought up to date -/

/-- The clock was brought up to the present time as the clock of the view. -/
def TimeShown (answers : Answers) (v : View) (x : Screen) : Prop :=
  x.clockRefresh =
    some (v.clock.refresh (v.patternCache.patterns?.getD {}) (answers (.query .accent)))

theorem establishes_refreshTime :
    Establishes (.answered answers) (TimeShown answers) refreshTime := by
  refine .of_last (fun _ _ => trivial) fun _ => (finds_query _).establishes fun v x => ?_
  rw [StateT.run_bind, StateT.run_get, pure_bind]
  dsimp only
  split
  · next format hformat => exact ⟨trivial, fun _ _ => congrArg some hformat.symm⟩
  · next slot hslot => exact ⟨trivial, fun _ _ => congrArg some hslot.symm⟩

theorem establishes_refreshFormat :
    Establishes (.answered answers) (TimeShown answers) refreshFormat := by
  unfold refreshFormat
  iterate 5 refine .of_last (fun _ _ => trivial) fun _ => ?_
  exact establishes_refreshTime

/-- The status area is aligned under the clock of the view. -/
def AreaAligned (answers : Answers) (v : View) (x : Screen) : Prop :=
  x.statusAreaAlignment = some (answers.alignmentUnder v.clock)

theorem establishes_updateClockAlignment :
    Establishes (.answered answers) (AreaAligned answers) updateClockAlignment := by
  intro v x
  show ((alignmentUnder v.clock >>= fun alignment => do
    if v.clock = .customText then
      command (.textClockAlignment alignment)
    command (.statusAreaAlignment alignment)).run v).Ensures _ _ x
  rw [StateT.run_bind, Program.ensures_bind]
  refine (finds_alignmentUnder v.clock v x).imp ?_
  rintro _ x ⟨rfl, rfl⟩
  dsimp only
  split
  · exact ⟨trivial, fun _ _ => ⟨trivial, fun _ _ => rfl⟩⟩
  · exact ⟨trivial, fun _ _ => rfl⟩

theorem establishes_updateDateStyles :
    Establishes (.answered answers) (AreaAligned answers) updateDateStyles := by
  unfold updateDateStyles
  iterate 4 refine .of_last (fun _ _ => trivial) fun _ => ?_
  exact establishes_updateClockAlignment

/-- The owner information is aligned under the clock that the current user has chosen. -/
def OwnerInfoAligned (answers : Answers) (_ : View) (x : Screen) : Prop :=
  x.ownerInfoAlignment = some (answers.alignmentUnder answers.clock)

theorem keeps_ownerInfoAligned {areas : List Area} (hh : Touches areas h)
    (ha : .ownerInfo ∉ areas) : Keeps (.answered answers) (OwnerInfoAligned answers) h := by
  refine hh.keeps_screen [.ownerInfo] (by simpa using ha) ?_
  intro v v' x x' hsame haligned
  obtain ⟨-, -, halignment⟩ := hsame .ownerInfo (List.mem_singleton_self _)
  exact halignment.trans haligned

theorem establishes_findOwnerInfo (hdevice : answers (.query .deviceOwnerInfo) = none)
    (user : Int32) :
    Establishes (.answered answers) (OwnerInfoAligned answers) (findOwnerInfo user) := by
  have hfind : Touches [] (do
      if ← query (.isOwnerInfoEnabled user) then query (.ownerInfo user) else pure none) := by
    refine .bind (.query _) fun isEnabled => ?_
    split
    · exact .query _
    · exact .pure _
  refine (finds_query .deviceOwnerInfo).establishes ?_
  rw [hdevice]
  refine finds_chosenClock.establishes ((finds_alignmentUnder _).establishes ?_)
  exact .bind (fun _ _ => ⟨trivial, fun _ _ => rfl⟩) fun _ => keeps_ownerInfoAligned hfind (by simp)

theorem establishes_updateOwnerInfo (hdevice : answers (.query .deviceOwnerInfo) = none) :
    Establishes (.answered answers) (OwnerInfoAligned answers) updateOwnerInfo := by
  refine (finds_fact _).establishes (.bind (establishes_findOwnerInfo hdevice _) fun text => ?_)
  -- the text of the owner information comes after its alignment and leaves it as it is
  refine .bind (fun _ _ haligned => ⟨trivial, fun _ _ => haligned⟩) fun _ => ?_
  refine .bind (fun _ _ haligned => haligned) fun _ => ?_
  exact keeps_ownerInfoAligned touches_updateDark (by simp)

/-! ## The new user -/

theorem establishes_onUserSwitch_time :
    Establishes (.answered answers) (TimeShown answers) onUserSwitch := by
  have hkeeps : ∀ {areas : List Area} {h : Handler Unit}, Touches areas h → .layout ∉ areas →
      .time ∉ areas → Keeps (.answered answers) (TimeShown answers) h := by
    intro areas h hh hlayout htime
    refine hh.keeps_screen [.layout, .time] (by simp [hlayout, htime]) ?_
    intro v v' x x' hsame hshown
    obtain ⟨hclock, -⟩ := hsame .layout (by simp)
    obtain ⟨⟨-, hcache⟩, -, hrefresh⟩ := hsame .time (by simp)
    unfold TimeShown
    rw [hclock, hcache, hrefresh]
    exact hshown
  exact .bind establishes_refreshFormat fun _ =>
    .bind (hkeeps touches_updateOwnerInfo (by simp) (by simp)) fun _ =>
      .bind (hkeeps touches_updateLogoutView (by simp) (by simp)) fun _ =>
        .bind (hkeeps touches_refreshFontsAndSizes (by simp) (by simp)) fun _ =>
          hkeeps touches_updateDateStyles (by simp) (by simp)

theorem establishes_onUserSwitch_area :
    Establishes (.answered answers) (AreaAligned answers) onUserSwitch := by
  unfold onUserSwitch
  iterate 4 refine .of_last (fun _ _ => trivial) fun _ => ?_
  exact establishes_updateDateStyles

theorem establishes_onUserSwitch_ownerInfo (hdevice : answers (.query .deviceOwnerInfo) = none) :
    Establishes (.answered answers) (OwnerInfoAligned answers) onUserSwitch := by
  refine .of_last (fun _ _ => trivial) fun _ => ?_
  exact .bind (establishes_updateOwnerInfo hdevice) fun _ =>
    .bind (keeps_ownerInfoAligned touches_updateLogoutView (by simp)) fun _ =>
      .bind (keeps_ownerInfoAligned touches_refreshFontsAndSizes (by simp)) fun _ =>
        keeps_ownerInfoAligned touches_updateDateStyles (by simp)

theorem keeps_onUserSwitch_clock (clock : Clock.Style) :
    Keeps (.answered answers) (fun v _ => v.clock = clock) onUserSwitch := by
  have htouches : Touches Area.ofUser onUserSwitch := touches_handle (.userSwitch systemUser)
  refine htouches.keeps_screen [.layout] (by simp [Area.ofUser]) ?_
  intro v v' x x' hsame hclock
  exact Eq.trans (hsame .layout (List.mem_singleton_self _)).1 hclock

end View

end Answered

end DeviceStatus.Lockscreen
