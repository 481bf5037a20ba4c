import DeviceStatus.Proofs.Device.Telling

/-!
# The locale that a listener is left with

A listener that changes the locale while it is being told of a change has the new locale told to all
others at once, before those after it have been told of the first one. So what a listener is still
to be told (`System.ahead`) is a stack: a change puts the new locale in front of what is there, and
the listener is left with what is at the bottom.
-/

namespace DeviceStatus.Device

open Callbacks (Entry)
open Lockscreen

variable {ℓ : Type}

/-- The locale that an event tells, if it tells one. -/
def Event.locale? : Event → Option String
  | locale l => some l
  | time | timeZone _ | visibility _ | wake | sleep _ | userSwitch _ | logoutEnabled | density =>
    none

/-- The locale that a callback is told by a call. -/
def Call.locale? (call : Call ℓ) : Option String := call.2.locale?

namespace System

/-- The locales that are still to be told to the listener that is registered with the configuration
by a number, in the order in which they will be told. -/
def ahead (s : System ℓ) (id : Nat) : List String :=
  (s.untold (.configuration, id)).filterMap Call.locale?

/-- The locale that an input tells the listener with a number, if it does. -/
def localeTold? (s : System ℓ) (id : Nat) (input : Input ℓ) : Option String :=
  (s.told? (.configuration, id) input).bind Call.locale?

/-- The locales that are told along a run to the listener with a number. -/
def localesTold (s : System ℓ) (id : Nat) : List (Input ℓ) → List String
  | [] => []
  | input :: inputs => (s.localeTold? id input).toList ++ (s.feed input).localesTold id inputs

/-- Something is registered with the configuration by a number. -/
def isListening (s : System ℓ) (id : Nat) : Bool := s.configuration.entries.any (·.id = id)

/-- The locale to which an input changes, if it does. -/
def newLocale? (s : System ℓ) : Input ℓ → Option String
  | .act (.change (.setLocale l)) => if s.isTurn ∧ l ≠ s.status.locale then some l else none
  | _ => none

/-- The locales to which a run changes. -/
def newLocales (s : System ℓ) : List (Input ℓ) → List String
  | [] => []
  | input :: inputs => (s.newLocale? input).toList ++ (s.feed input).newLocales inputs

end System

variable {s : System ℓ} {id : Nat}

/-! ## What is ahead of a listener -/

/-- Locales are told by the configuration. -/
theorem Event.locale?_eq_none {event : Event} (h : event.source ≠ .configuration) :
    event.locale? = none := by
  cases event with
  | locale => exact absurd rfl h
  | time | timeZone | visibility | wake | sleep | userSwitch | logoutEnabled | density => rfl

/-- The locale changes with the changes that are told, if they tell one. -/
theorem newLocale?_eq (input : Input ℓ) :
    s.newLocale? input = (s.change? input).bind fun c =>
      if s.status.counts c then c.told.locale? else none := by
  cases input with
  | act a =>
    cases a with
    | change c =>
      by_cases hturn : s.isTurn = true
      · cases c with
        | setLocale l =>
          by_cases hsame : l = s.status.locale
          · simp [System.newLocale?, System.change?, Status.counts, hturn, hsame]
          · simp [System.newLocale?, System.change?, Status.counts, Change.told, Event.locale?,
              hturn, hsame]
        | time | timeZone | visibility | wake | sleep | userSwitch | setLogoutEnabled | density =>
          simp [System.newLocale?, System.change?, Change.told, Event.locale?, hturn]
      · cases c <;> simp [System.newLocale?, System.change?, hturn]
    | listen | unlisten | create | attach | detach | perform | dropView => rfl
  | tick | done | reply => rfl

/-- A locale is to be told once to a listener that is registered. -/
theorem callbacks_locales (h : Numbered s) (id : Nat) (locale? : Option String) :
    (s.callbacks (.configuration, id)).filterMap (fun _ => locale?) =
      if s.isListening id then locale?.toList else [] := by
  by_cases hlistens : s.isListening id = true
  · obtain ⟨e, he, rfl⟩ : ∃ e ∈ s.configuration.entries, e.id = id := by
      simpa [System.isListening] using hlistens
    have hcallbacks : s.callbacks (.configuration, e.id) = [e.callback] := callbacks_of_mem h he
    rw [hcallbacks, if_pos hlistens]
    cases locale? <;> rfl
  · have hnone : s.callbacks (.configuration, id) = [] := by
      unfold System.callbacks
      rw [List.map_eq_nil_iff, List.filter_eq_nil_iff]
      exact List.any_eq_false.1 (Bool.eq_false_iff.2 hlistens)
    rw [hnone, if_neg hlistens]
    rfl

/-- What a listener is told, and what is ahead of it then, is what was ahead of it, behind the
locale to which the input changes. -/
theorem ahead_feed (h : Numbered s) (id : Nat) (input : Input ℓ) :
    (s.localeTold? id input).toList ++ (s.feed input).ahead id =
      (if s.isListening id then (s.newLocale? input).toList else []) ++ s.ahead id := by
  have hlocales := callbacks_locales h id
  rw [newLocale?_eq]
  unfold System.localeTold? System.ahead
  cases hchange : s.change? input with
  | none =>
    have huntold := (tells_feed (r := (.configuration, id)) hchange).untold
    rw [← huntold, List.filterMap_append]
    cases s.told? (.configuration, id) input with
    | none => simp
    | some call => cases hlocale : call.locale? <;> simp [hlocale]
  | some c =>
    rw [told?_of_change? hchange, feed_of_change? hchange]
    by_cases hcounts : s.status.counts c = true
    · rw [if_pos hcounts, untold_announce, List.filterMap_append]
      refine congrArg (· ++ (s.untold (.configuration, id)).filterMap _) ?_
      show List.filterMap _ (if _ then (s.callbacks (.configuration, id)).map _ else []) = _
      by_cases hsource : c.told.source = .configuration
      · have hcalls : List.filterMap (Call.locale? ∘ fun callback => (callback, c.told))
            (s.callbacks (.configuration, id)) = _ := hlocales c.told.locale?
        simpa [hcounts, hsource] using hcalls
      · simp [hcounts, hsource, Event.locale?_eq_none hsource]
    · simp [hcounts]

theorem locale_feed (input : Input ℓ) :
    (s.feed input).status.locale = (s.newLocale? input).getD s.status.locale := by
  rw [newLocale?_eq]
  cases hchange : s.change? input with
  | none =>
    rw [status_of_change?_eq_none hchange]
    rfl
  | some c =>
    rw [status_of_change? hchange]
    cases c with
    | setLocale l =>
      by_cases hsame : l = s.status.locale
      · simp [Status.after, Status.counts, hsame]
      · simp [Status.after, Status.counts, Change.told, Event.locale?, hsame]
    | time | timeZone | visibility | wake | sleep | userSwitch | setLogoutEnabled | density =>
      simp [Status.after, Change.told, Event.locale?]

/-! ## Runs -/

/-- As long as the locale stays, a listener is told what is ahead of it and nothing else. -/
theorem localesTold_append_ahead (hshaped : Shaped s) (h : Numbered s) (id : Nat)
    {inputs : List (Input ℓ)} (hsame : s.newLocales inputs = []) :
    s.localesTold id inputs ++ (s.run inputs).ahead id = s.ahead id ∧
      (s.run inputs).status.locale = s.status.locale := by
  induction inputs generalizing s with
  | nil => exact ⟨rfl, rfl⟩
  | cons input inputs ih =>
    obtain ⟨hnow, hlater⟩ := List.append_eq_nil_iff.1 hsame
    have hnone : s.newLocale? input = none := by simpa using hnow
    obtain ⟨htold, hlocale⟩ :=
      ih (hshaped.feed input).1 (h.step (hshaped.step_feed input)) hlater
    have hahead := ahead_feed h id input
    have hstatus := locale_feed (s := s) input
    simp only [hnone, Option.toList_none, ite_self, List.nil_append] at hahead
    rw [hnone, Option.getD_none] at hstatus
    refine ⟨?_, hlocale.trans hstatus⟩
    rw [System.localesTold, List.append_assoc, System.run, List.foldl_cons, ← hahead, ← htold]
    rfl

theorem localesTold_append (id : Nat) (before after : List (Input ℓ)) :
    s.localesTold id (before ++ after) =
      s.localesTold id before ++ (s.run before).localesTold id after := by
  induction before generalizing s with
  | nil => rfl
  | cons input before ih =>
    rw [List.cons_append, System.localesTold, ih, System.localesTold, List.append_assoc]
    rfl

/-- A listener is left with the locale that was at the bottom when the locale changed last. Let the
locale change to another one, wherever in a run this may be, and not change again, and let all that
is ahead of a registered listener be told, as it is when the outermost change of the locale is over.
Then the listener has last been told not the locale that the device is in, but the last one that was
ahead of it when this change was made, if any was. So it is left with the locale of the device
exactly if the change was not made while an earlier one, to another locale, had still to reach
it. -/
theorem last_locale_told (locale : String) (before after : List (Input ℓ)) (l : String) (id : Nat) :
    let start := System.start (ℓ := ℓ) locale
    let s := start.run before
    let set := Input.act (.change (.setLocale l))
    let t := start.run (before ++ set :: after)
    let told := start.localesTold id (before ++ set :: after)
    s.newLocale? set = some l → (s.feed set).newLocales after = [] → s.isListening id = true →
    t.ahead id = [] →
      t.status.locale = l ∧ told.getLast? = some ((s.ahead id).getLast?.getD l) ∧
        (told.getLast? = some t.status.locale ↔
          ∀ first, (s.ahead id).getLast? = some first → first = l) := by
  intro start s set t told hnew hsame hlistens hnothing
  have hshaped : Shaped s := (shaped_run locale before).1
  have hnumbered : Numbered s := numbered_run locale before
  have hnext : Shaped (s.feed set) ∧ Numbered (s.feed set) :=
    ⟨(hshaped.feed set).1, hnumbered.step (hshaped.step_feed set)⟩
  have hrun : t = (s.feed set).run after := by
    simp [t, s, System.run, List.foldl_append]
  obtain ⟨htold, hlocale⟩ := localesTold_append_ahead hnext.1 hnext.2 id hsame
  have hahead : (s.feed set).ahead id = l :: s.ahead id := by
    have hfeed := ahead_feed hnumbered id set
    rw [hnew, hlistens] at hfeed
    exact hfeed
  have hcurrent : t.status.locale = l := by
    rw [hrun, hlocale, locale_feed, hnew]
    rfl
  have hlast : told.getLast? = some ((s.ahead id).getLast?.getD l) := by
    rw [← hrun, hnothing, List.append_nil, hahead] at htold
    have hsplit : told = start.localesTold id before ++ (l :: s.ahead id) := by
      rw [← htold]
      exact localesTold_append id before (set :: after)
    rw [hsplit, List.getLast?_append_of_ne_nil _ (by simp), List.getLast?_cons]
  refine ⟨hcurrent, hlast, ?_⟩
  rw [hlast, hcurrent]
  cases hbottom : (s.ahead id).getLast? with
  | none => simp
  | some first => simp

/-! ## A change within a change -/

/-- Two listeners are registered. -/
def twoListeners : List (Input Unit) :=
  [.act (.listen "a" .configuration ()), .act (.listen "b" .configuration ())]

/-- The locale changes, and the first listener is told. -/
def firstTold : List (Input Unit) := [.act (.change (.setLocale "First")), .tick]

/-- While it was being told, it has changed the locale again: both listeners are told of that, and
then the second listener of the first change. -/
def bothOver : List (Input Unit) :=
  [.tick, .done, .tick, .done, .tick, .done, .tick, .done, .tick]

/-- The second listener is left with the first locale, which was ahead of it when the second one
came. -/
theorem last_locale_told_nested :
    let start := System.start "en"
    let inputs := twoListeners ++ firstTold ++ .act (.change (.setLocale "Second")) :: bothOver
    start.localesTold 1 inputs = ["Second", "First"] ∧
      (start.localesTold 1 inputs).getLast? ≠ some (start.run inputs).status.locale := by
  intro start inputs
  have hahead : (start.run (twoListeners ++ firstTold)).ahead 1 = ["First"] := by decide
  obtain ⟨-, -, hleft⟩ := last_locale_told "en" (twoListeners ++ firstTold) bothOver "Second" 1
    (by decide) (by decide) (by decide) (by decide)
  refine ⟨by decide, fun hlast => ?_⟩
  have hsame := hleft.1 hlast "First" (by rw [hahead]; rfl)
  exact absurd hsame (by decide)

/-- That listeners are left with the locale that the device is in is wrong: a listener that was
registered all the time hears of the second locale first. -/
theorem not_left_with_locale :
    ¬∀ (before after : List (Input Unit)) (l : String) (id : Nat),
      let s := (System.start "en").run before
      let during := Input.act (.change (.setLocale l)) :: after
      s.isAtRest = true → (s.run during).isAtRest = true →
      (∀ n ≤ during.length, (s.run (during.take n)).isListening id = true) →
      s.localesTold id during ≠ [] →
      (s.localesTold id during).getLast? = some (s.run during).status.locale := by
  intro hclaim
  have hlast := hclaim twoListeners (.tick :: .act (.change (.setLocale "Second")) :: bothOver)
    "First" 1 (by decide) (by decide) (by decide) (by decide)
  exact absurd hlast (by decide)

end DeviceStatus.Device
