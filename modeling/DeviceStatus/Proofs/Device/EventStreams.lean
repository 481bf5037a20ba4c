import DeviceStatus.Proofs.Device.Handles
import DeviceStatus.Proofs.Device.LogoutRule

/-!
# What a callback is told

While a callback is registered, it is told every event of its source, and nothing else. What has not
reached it yet is on the stack (`System.untold`), and with that added, what it has been told is what
has been announced (`HeldBy.tellings`). Where nothing is announced from inside a callback, nothing
is on the stack when an event begins to be told; so every event is told in the status that it tells
of.
-/

namespace DeviceStatus.Device

open Callbacks (Entry)
open Lockscreen

variable {ℓ : Type}

/-! ## What is announced -/

/-- An event, with what is known of the device when it is told. -/
structure Announcement where
  /-- The event. -/
  event : Event
  /-- What is known of the device. -/
  status : Status
deriving DecidableEq, Repr

/-- What is announced of a change: the event, in the status after it. -/
def Status.announcement? (status : Status) (c : Change) : Option Announcement :=
  if status.counts c then some ⟨c.told, status.after c⟩ else none

/-- What is announced of changes one after another. -/
def Status.announcements (status : Status) : List Change → List Announcement
  | [] => []
  | c :: cs => (status.announcement? c).toList ++ (status.after c).announcements cs

namespace System

/-- The changes that a run makes. -/
def changes (s : System ℓ) : List (Input ℓ) → List Change
  | [] => []
  | input :: inputs => (s.change? input).toList ++ (s.feed input).changes inputs

/-- A call, with what is known of the device. -/
def witnessed (s : System ℓ) (call : Call ℓ) : Subscriber ℓ × Announcement :=
  (call.1, ⟨call.2, s.status⟩)

/-- The calls that a run makes under a registration, each with what is known of the device when it
is made. -/
def tellings (s : System ℓ) (r : Registration) :
    List (Input ℓ) → List (Subscriber ℓ × Announcement)
  | [] => []
  | input :: inputs =>
    (s.told? r input).toList.map s.witnessed ++ (s.feed input).tellings r inputs

/-- The calls that are still to be made under a registration, if nothing changes the device. -/
def upcoming (s : System ℓ) (r : Registration) : List (Subscriber ℓ × Announcement) :=
  (s.untold r).map s.witnessed

/-- Whether an input keeps to the rule that while callbacks are told an event, no other one is
announced and nothing is registered or taken out. -/
def isOrderly (s : System ℓ) (input : Input ℓ) : Bool :=
  !s.isTelling ||
    (((s.change? input).bind s.status.announcement?).isNone && (s.assigns? input).isNone)

end System

variable {s s' : System ℓ} {r : Registration}

/-- What is announced at an input to what is registered under a number. -/
def System.announced (s : System ℓ) (r : Registration) (input : Input ℓ) : List Announcement :=
  ((s.change? input).bind s.status.announcement?).toList.filter (·.event.source = r.1)

/-- The calls that an input makes and those still to be made then are those still to be made before,
and behind them what the input announces. -/
theorem upcoming_feed {input : Input ℓ} (horderly : s.isOrderly input = true) :
    (s.told? r input).toList.map s.witnessed ++ (s.feed input).upcoming r =
      s.upcoming r ++ (s.announced r input).flatMap fun a => (s.callbacks r).map (·, a) := by
  unfold System.upcoming System.announced
  cases hchange : s.change? input with
  | none =>
    have huntold := congrArg (List.map s.witnessed) (tells_feed (r := r) hchange).untold
    have hwitnessed : (s.feed input).witnessed = s.witnessed := by
      funext call
      simp only [System.witnessed, status_of_change?_eq_none hchange]
    rw [List.map_append] at huntold
    rw [hwitnessed, huntold]
    simp
  | some c =>
    rw [told?_of_change? hchange, feed_of_change? hchange, Option.bind_some, Status.announcement?]
    by_cases hcounts : s.status.counts c = true
    · -- nothing is being told, so the event comes first although it is put on top of the stack
      have hquiet : s.isTelling = false := by
        simpa [System.isOrderly, hchange, Status.announcement?, hcounts] using horderly
      let changed : System ℓ := { s with status := s.status.after c }
      have hnew : (changed.announce c.told).untold r =
          (if c.told.source = r.1 then (s.callbacks r).map (·, c.told) else []) ++ s.untold r :=
        untold_announce (s := changed) c.told
      rw [if_pos hcounts, if_pos hcounts, hnew, untold_eq_nil hquiet]
      by_cases hsource : c.told.source = r.1
      · simp [hsource, System.witnessed, System.announce, System.note, System.push]
      · simp [hsource]
    · simp [hcounts]

theorem callbacks_eq_nil (hr : s.isRegistered r = false) : s.callbacks r = [] := by
  unfold System.callbacks
  rw [List.map_eq_nil_iff, List.filter_eq_nil_iff]
  exact List.any_eq_false.1 hr

/-! ## Runs -/

theorem throughout_append {ok : System ℓ → Input ℓ → Bool} {inputs later : List (Input ℓ)} :
    s.throughout ok (inputs ++ later) =
      (s.throughout ok inputs && (s.run inputs).throughout ok later) := by
  induction inputs generalizing s with
  | nil => rfl
  | cons input inputs ih =>
    rw [List.cons_append, System.throughout, ih, System.throughout, Bool.and_assoc]
    rfl

theorem tellings_append (inputs later : List (Input ℓ)) :
    s.tellings r (inputs ++ later) = s.tellings r inputs ++ (s.run inputs).tellings r later := by
  induction inputs generalizing s with
  | nil => rfl
  | cons input inputs ih =>
    rw [List.cons_append, System.tellings, ih, System.tellings, List.append_assoc]
    rfl

theorem heard_run (inputs : List (Input ℓ)) :
    (s.run inputs).heard r =
      s.heard r ++ (s.tellings r inputs).filterMap fun t => Call.heard? (t.1, t.2.event) := by
  induction inputs generalizing s with
  | nil => simp [System.run, System.tellings]
  | cons input inputs ih =>
    have hlater := ih (s := s.feed input)
    rw [heard_feed] at hlater
    have hwitnessed : ∀ calls : List (Call ℓ), (calls.map s.witnessed).filterMap
        (fun t => Call.heard? (t.1, t.2.event)) = calls.filterMap Call.heard? := by
      intro calls
      rw [List.filterMap_map]
      rfl
    rw [System.tellings, List.filterMap_append, hwitnessed, ← List.append_assoc]
    exact hlater

theorem status_run (inputs : List (Input ℓ)) :
    (s.run inputs).status = (s.changes inputs).foldl Status.after s.status := by
  induction inputs generalizing s with
  | nil => rfl
  | cons input inputs ih =>
    have hlater := ih (s := s.feed input)
    show ((s.feed input).run inputs).status = _
    rw [hlater, System.changes]
    cases hchange : s.change? input with
    | none => simp [status_of_change?_eq_none hchange]
    | some c => simp [status_of_change? hchange]

theorem announcements_changes_cons (input : Input ℓ) (inputs : List (Input ℓ)) :
    s.status.announcements (s.changes (input :: inputs)) =
      ((s.change? input).bind s.status.announcement?).toList ++
        (s.feed input).status.announcements ((s.feed input).changes inputs) := by
  rw [System.changes]
  cases hchange : s.change? input with
  | none => simp [status_of_change?_eq_none hchange]
  | some c => simp [status_of_change? hchange, Status.announcements]

theorem nextId_le_run (inputs : List (Input ℓ)) (source : Source) :
    (s.registry source).nextId ≤ ((s.run inputs).registry source).nextId := by
  induction inputs generalizing s with
  | nil => exact Nat.le_refl _
  | cons input inputs ih =>
    have hnow := nextId_le_feed (s := s) input source
    have hlater := ih (s := s.feed input)
    exact Nat.le_trans hnow hlater

/-- Nothing is told where nothing is registered, but what is still to be told. -/
theorem tellings_of_unregistered {inputs : List (Input ℓ)}
    (horderly : s.throughout System.isOrderly inputs = true)
    (hnone : ∀ n < inputs.length, (s.run (inputs.take n)).isRegistered r = false) :
    s.tellings r inputs ++ (s.run inputs).upcoming r = s.upcoming r := by
  induction inputs generalizing s with
  | nil => rfl
  | cons input inputs ih =>
    obtain ⟨hnow, hlater⟩ := (Bool.and_eq_true _ _).mp horderly
    have hfirst : s.isRegistered r = false := hnone 0 (by simp)
    have hnothing : (s.announced r input).flatMap (fun a => (s.callbacks r).map (·, a)) = [] := by
      rw [callbacks_eq_nil hfirst]
      exact List.flatMap_eq_nil_iff.2 fun _ _ => rfl
    have htold := upcoming_feed (r := r) hnow
    rw [hnothing, List.append_nil] at htold
    have hothers := ih hlater fun n hn => hnone (n + 1) (by simpa using hn)
    rw [System.tellings, List.append_assoc, ← htold, ← hothers]
    rfl

/-- A callback is told what is still to be told to it and what is announced while it is registered,
in this order. -/
theorem HeldBy.tellings {h : Handle} {r : Registrant ℓ} (hheld : HeldBy s h r)
    (hshaped : Shaped s) (hkept : Kept s) {inputs : List (Input ℓ)}
    (horderly : s.throughout System.isOrderly inputs = true)
    (hkeeps : (s.throughout fun s input => !s.assigns h input) inputs = true) :
    s.tellings r.registration inputs ++ (s.run inputs).upcoming r.registration =
        s.upcoming r.registration ++
          ((s.status.announcements (s.changes inputs)).filter (·.event.source = r.source)).map
            (r.entry.callback, ·) ∧
      HeldBy (s.run inputs) h r := by
  induction inputs generalizing s with
  | nil =>
    exact ⟨by simp [System.tellings, System.changes, Status.announcements, System.run], hheld⟩
  | cons input inputs ih =>
    obtain ⟨hnow, hlater⟩ := (Bool.and_eq_true _ _).mp horderly
    obtain ⟨hkeeps, hothers⟩ := (Bool.and_eq_true _ _).mp hkeeps
    have hnext : HeldBy (s.feed input) h r := hheld.feed hkept (by simpa using hkeeps)
    obtain ⟨htellings, hend⟩ :=
      ih hnext (hshaped.feed input).1 (hkept.feed hshaped input) hlater hothers
    have htold : (s.told? r.registration input).toList.map s.witnessed ++
        (s.feed input).upcoming r.registration = s.upcoming r.registration ++
          (s.announced r.registration input).map (r.entry.callback, ·) := by
      have hfeed := upcoming_feed (r := r.registration) hnow
      have hcallbacks : s.callbacks r.registration = [r.entry.callback] :=
        callbacks_of_mem hkept.numbered hheld.registered
      rw [hcallbacks] at hfeed
      simpa [← List.map_eq_flatMap] using hfeed
    refine ⟨?_, hend⟩
    have hrun : s.run (input :: inputs) = (s.feed input).run inputs := rfl
    rw [System.tellings, List.append_assoc, hrun, htellings, ← List.append_assoc, htold,
      announcements_changes_cons, List.filter_append, List.map_append, List.append_assoc]
    rfl

theorem unregistered_run {inputs : List (Input ℓ)} (hr : s.isRegistered r = false)
    (hlt : r.2 < (s.registry r.1).nextId) : (s.run inputs).isRegistered r = false := by
  induction inputs generalizing s with
  | nil => exact hr
  | cons input inputs ih =>
    have hnext := nextId_le_feed (s := s) input r.1
    exact ih (isRegistered_feed_eq_false hr hlt input) (by omega)

/-- Where registrations change in an orderly way, nothing is being told. -/
theorem upcoming_of_assigns {input : Input ℓ} (horderly : s.isOrderly input = true)
    {assigned : Handle × List (Registrant ℓ)} (hassigns : s.assigns? input = some assigned) :
    s.told? r input = none ∧ s.upcoming r = [] ∧ (s.feed input).upcoming r = [] := by
  have hquiet : s.isTelling = false := by simpa [System.isOrderly, hassigns] using horderly
  obtain ⟨htold, hchange⟩ : s.told? r input = none ∧ s.change? input = none := by
    cases input with
    | tick | done | reply => simp [System.assigns?] at hassigns
    | act a =>
      refine ⟨rfl, ?_⟩
      cases a with
      | change c => simp [System.assigns?, System.actAssigns?] at hassigns
      | listen | unlisten | create | attach | detach | perform | dropView => rfl
  have huntold := (tells_feed (r := r) hchange).untold
  rw [htold, untold_eq_nil hquiet] at huntold
  unfold System.upcoming
  rw [List.map_eq_nil_iff, List.map_eq_nil_iff]
  exact ⟨htold, untold_eq_nil hquiet, huntold⟩

/-- A callback is told nothing more when its handle has been made to keep something else. -/
theorem HeldBy.tellings_released {h : Handle} {r : Registrant ℓ} (hheld : HeldBy s h r)
    (hkept : Kept s) {inputs : List (Input ℓ)}
    (horderly : s.throughout System.isOrderly inputs = true)
    (hlast : ∀ last ∈ inputs.head?, s.assigns h last = true) :
    s.tellings r.registration inputs ++ (s.run inputs).upcoming r.registration =
      s.upcoming r.registration := by
  cases inputs with
  | nil => rfl
  | cons last rest =>
    have hlast : s.assigns h last = true := hlast last rfl
    obtain ⟨hnow, hlater⟩ := (Bool.and_eq_true _ _).mp horderly
    have hgone := hheld.released hlast
    have hlt : r.entry.id < ((s.feed last).registry r.source).nextId := by
      have hbelow := (hkept.numbered.registry r.source).below _ hheld.registered
      have hnext := nextId_le_feed (s := s) last r.source
      omega
    have hrest := tellings_of_unregistered (s := s.feed last) (r := r.registration) hlater
      fun n _ => unregistered_run hgone hlt
    cases hassigns : s.assigns? last with
    | none => simp [System.assigns, hassigns] at hlast
    | some assigned =>
      obtain ⟨htold, hbefore, hafter⟩ := upcoming_of_assigns (r := r.registration) hnow hassigns
      rw [System.tellings, htold, hbefore, ← hafter, ← hrest]
      rfl

/-- Nothing is told under a number that has not been given away yet. -/
theorem tellings_before (locale : String) {before : List (Input ℓ)} {first : Input ℓ}
    (horderly : ((System.start locale).throughout System.isOrderly (before ++ [first])) = true)
    (hnew : r.2 = (((System.start (ℓ := ℓ) locale).run before).registry r.1).nextId) :
    (System.start locale).tellings r (before ++ [first]) ++
      ((System.start locale).run (before ++ [first])).upcoming r = [] := by
  refine tellings_of_unregistered horderly fun n hn => ?_
  have hle : n ≤ before.length := by
    rw [List.length_append, List.length_singleton] at hn
    omega
  rw [List.take_append_of_le_length hle, Bool.eq_false_iff, ne_eq, isRegistered_iff]
  rintro ⟨e, he, hid⟩
  have hbelow := ((numbered_run locale (before.take n)).registry r.1).below e he
  have hlater := nextId_le_run (s := (System.start locale).run (before.take n)) (before.drop n) r.1
  rw [← System.run_append, List.take_append_drop] at hlater
  omega

/-- While callbacks are told an event, let no other one be announced and nothing be registered or
taken out, and look at one callback. It is called for the events of its source that are announced
between the input that registers it and the one that makes its handle keep something else, in their
order, and each time what is known of the device is what is known after the change that the event
tells of. A listener hears what it is called with. -/
theorem told_what_is_announced (locale : String) (before during after : List (Input ℓ))
    (first : Input ℓ) (h : Handle) (opened : List (Registrant ℓ)) (r : Registrant ℓ) :
    let start := System.start (ℓ := ℓ) locale
    let registered := start.run (before ++ [first])
    let inputs := before ++ [first] ++ during ++ after
    let t := start.run inputs
    let told := start.tellings r.registration inputs
    start.throughout System.isOrderly inputs = true →
    (start.run before).assigns? first = some (h, opened) → r ∈ opened →
    (registered.throughout fun s input => !s.assigns h input) during = true →
    (∀ last ∈ after.head?, (registered.run during).assigns h last = true) →
    (told ++ t.upcoming r.registration =
        ((registered.status.announcements (registered.changes during)).filter
          (·.event.source = r.source)).map (r.entry.callback, ·)) ∧
      (t.isTelling = false → t.upcoming r.registration = []) ∧
      registered.status = (start.changes (before ++ [first])).foldl Status.after { locale } ∧
      ∀ l, r.entry.callback = .listener l →
        t.heard r.registration = told.map fun call => (l, call.2.event) := by
  intro start registered inputs t told horderly hfirst hr hkeeps hlast
  rw [throughout_append, throughout_append, Bool.and_eq_true, Bool.and_eq_true] at horderly
  obtain ⟨⟨hbefore, hduring⟩, hafter⟩ := horderly
  rw [System.run_append] at hafter
  have hkept : Kept (start.run before) := kept_run locale before
  have hfeed : registered = (start.run before).feed first := System.run_append start before [first]
  have hheld : HeldBy registered h r := hfeed ▸ hkept.heldBy hfirst hr
  have hshaped : Shaped registered := (shaped_run locale _).1
  have hregistered : Kept registered := kept_run locale _
  -- before the registration
  have hnew : r.entry.id = ((start.run before).registry r.source).nextId :=
    (assigned_feed hfirst).fresh r hr
  have hearly := tellings_before (r := r.registration) locale hbefore hnew
  obtain ⟨htoldBefore, hupcomingBefore⟩ := List.append_eq_nil_iff.1 hearly
  -- until the release
  obtain ⟨htoldDuring, hend⟩ := hheld.tellings hshaped hregistered hduring hkeeps
  have hruns : t = (registered.run during).run after := by
    simp only [t, inputs, registered, System.run_append]
  have htold : told = registered.tellings r.registration during ++
      (registered.run during).tellings r.registration after := by
    show start.tellings r.registration (before ++ [first] ++ during ++ after) = _
    rw [tellings_append, tellings_append, htoldBefore, List.nil_append,
      System.run_append start (before ++ [first])]
  have hrest := hend.tellings_released (hregistered.run hshaped during) hafter hlast
  have hall : told ++ t.upcoming r.registration =
      ((registered.status.announcements (registered.changes during)).filter
        (·.event.source = r.source)).map (r.entry.callback, ·) := by
    rw [htold, hruns, List.append_assoc, hrest, htoldDuring, hupcomingBefore, List.nil_append]
  refine ⟨hall, ?_, status_run (s := start) _, ?_⟩
  · intro hquiet
    rw [System.upcoming, untold_eq_nil hquiet]
    rfl
  · intro l hl
    have hcalled : ∀ call ∈ told, Call.heard? (call.1, call.2.event) = some (l, call.2.event) := by
      intro call hcall
      have hmem := List.mem_append_left (t.upcoming r.registration) hcall
      rw [hall] at hmem
      obtain ⟨a, -, rfl⟩ := List.mem_map.1 hmem
      simp [Call.heard?, hl]
    have hheard : t.heard r.registration =
        start.heard r.registration ++
          told.filterMap fun call => Call.heard? (call.1, call.2.event) :=
      heard_run inputs
    rw [hheard, List.filterMap_congr hcalled, List.filterMap_eq_map']
    rfl

/-! ## A listener among others -/

/-- Another listener is registered, and the device wakes up. -/
def beforeListening : List (Input String) :=
  [.act (.listen "early" .monitor "early"), .act (.change .wake), .tick, .done, .tick]

/-- The policy is settled twice in the same way, the locale changes, and then the user. -/
def whileListening : List (Input String) :=
  [.act (.change (.setLogoutEnabled true)), .tick, .done, .tick, .done, .tick,
    .act (.change (.setLogoutEnabled true)), .act (.change (.setLocale "de")), .tick,
    .act (.change (.userSwitch 10)), .tick, .done, .tick, .done, .tick]

/-- The listener is taken out, and the device goes to sleep. -/
def afterListening : List (Input String) :=
  [.act (.unlisten "late"), .act (.change (.sleep 2)), .tick, .done, .tick]

/-- The listener hears of the policy once and of the user, not of the locale, and not of the wake
before and of the sleep after. -/
theorem told_what_is_announced_late :
    let start := System.start "en"
    let inputs := beforeListening ++ [.act (.listen "late" .monitor "late")] ++ whileListening ++
      afterListening
    start.tellings (.monitor, 1) inputs =
      [(.listener "late", ⟨.logoutEnabled, ⟨true, true, 0, "en"⟩⟩),
        (.listener "late", ⟨.userSwitch 10, ⟨true, true, 10, "de"⟩⟩)] ∧
      (start.run inputs).heard (.monitor, 1) =
        [("late", .logoutEnabled), ("late", .userSwitch 10)] := by
  intro start inputs
  obtain ⟨hall, hnothing, -, hheard⟩ := told_what_is_announced "en" beforeListening whileListening
    afterListening (.act (.listen "late" .monitor "late")) (.listener "late")
    [⟨.monitor, 1, .listener "late"⟩] ⟨.monitor, 1, .listener "late"⟩ (by decide) (by rfl)
    (List.mem_singleton_self _) (by decide) (by decide)
  rw [hnothing (by decide), List.append_nil] at hall
  have htold : start.tellings (.monitor, 1) inputs =
      [(.listener "late", ⟨.logoutEnabled, ⟨true, true, 0, "en"⟩⟩),
        (.listener "late", ⟨.userSwitch 10, ⟨true, true, 10, "de"⟩⟩)] := by
    refine hall.trans ?_
    decide
  refine ⟨htold, ?_⟩
  exact (hheard "late" rfl).trans (congrArg (List.map fun call => ("late", call.2.event)) htold)

end DeviceStatus.Device
