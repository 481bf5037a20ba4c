import DeviceStatus.Proofs.Device.Telling

/-!
# What keeps callbacks registered

A callback stays registered as long as somebody keeps its registration: a listener is kept by its
name, and the two registrations of an attachment by the name of the attachment. Whatever happens,
a registration is taken out exactly when its own handle is given something else to keep
(`HeldBy.feed`, `HeldBy.released`), and its number is never given to another one.
-/

namespace DeviceStatus.Device

open Callbacks (Entry Registry)
open Lockscreen

variable {ℓ : Type}

/-- A callback with its registration. -/
structure Registrant (ℓ : Type) where
  source : Source
  entry : Entry (Subscriber ℓ)

/-- The registration of a callback. -/
def Registrant.registration (r : Registrant ℓ) : Registration := (r.source, r.entry.id)

/-- What registrations are kept by. -/
inductive Handle where
  /-- The name of a listener. -/
  | listener (name : String)
  /-- The name of an attachment of the view. -/
  | attachment (name : String)
deriving DecidableEq, Repr

/-- The two registrations of an attachment. -/
def Attachment.registrations (a : Attachment) : List Registration :=
  [(.monitor, a.monitor), (.configuration, a.configuration)]

namespace System

/-- Whether something is registered under a number. -/
def isRegistered (s : System ℓ) (r : Registration) : Bool :=
  (s.registry r.1).entries.any (·.id = r.2)

/-- The registrations that a handle keeps. -/
def held (s : System ℓ) : Handle → List Registration
  | .listener name => (s.listeners.lookup name).toList
  | .attachment name => (s.attachments.lookup name).toList.flatMap Attachment.registrations

/-- A callback that would be registered with a source next. -/
def registrant (s : System ℓ) (source : Source) (callback : Subscriber ℓ) : Registrant ℓ :=
  ⟨source, (s.registry source).nextId, callback⟩

/-- The handle that an action makes keep something else, if there is one, and what it keeps then. -/
def actAssigns? (s : System ℓ) : Action ℓ → Option (Handle × List (Registrant ℓ))
  | .listen name source l => some (.listener name, [s.registrant source (.listener l)])
  | .unlisten name => some (.listener name, [])
  | .attach name =>
    s.freeView?.map fun _ => (.attachment name,
      [s.registrant .monitor .statusView, s.registrant .configuration .statusView])
  | .detach name => some (.attachment name, [])
  | .change _ | .create _ | .perform _ | .dropView => none

/-- The handle that an input makes keep something else, if there is one, and what it keeps then. -/
def assigns? (s : System ℓ) : Input ℓ → Option (Handle × List (Registrant ℓ))
  | .act a => if s.isTurn then s.actAssigns? a else none
  | .tick | .done | .reply _ => none

/-- Whether an input makes a handle keep something else. -/
def assigns (s : System ℓ) (h : Handle) (input : Input ℓ) : Bool :=
  (s.assigns? input).any (·.1 = h)

end System

variable {s s' : System ℓ}

/-! ## Registries -/

theorem registry_setRegistry (source : Source) (registry : Registry (Subscriber ℓ))
    (source' : Source) :
    (s.setRegistry source registry).registry source' =
      if source' = source then registry else s.registry source' := by
  cases source <;> cases source' <;> rfl

theorem entries_register (source : Source) (callback : Subscriber ℓ) (source' : Source) :
    ((s.register source callback).registry source').entries =
      (s.registry source').entries ++
        ([s.registrant source callback].filter (·.source = source')).map (·.entry) := by
  unfold System.register System.registrant
  rw [registry_setRegistry]
  by_cases hsource : source' = source
  · simp [hsource, Registry.register]
  · simp [hsource, Ne.symm hsource]

theorem entries_unregister (source : Source) (id : Nat) (source' : Source) :
    ((s.unregister source id).registry source').entries =
      (s.registry source').entries.filter fun e => (source', e.id) ≠ (source, id) := by
  unfold System.unregister
  rw [registry_setRegistry]
  by_cases hsource : source' = source
  · simp [hsource, Registry.remove]
  · simp [hsource]

theorem entries_endListener (l : Option Registration) (source : Source) :
    ((s.endListener l).registry source).entries =
      (s.registry source).entries.filter fun e => (source, e.id) ∉ l.toList := by
  cases l with
  | none => simp [System.endListener]
  | some l =>
    obtain ⟨source', id⟩ := l
    have hend : s.endListener (some (source', id)) = s.unregister source' id := rfl
    rw [hend, entries_unregister]
    simp

theorem entries_endAttachment (a : Option Attachment) (source : Source) :
    ((s.endAttachment a).registry source).entries =
      (s.registry source).entries.filter fun e =>
        (source, e.id) ∉ a.toList.flatMap Attachment.registrations := by
  cases a with
  | none => simp [System.endAttachment]
  | some a =>
    have hend : s.endAttachment (some a) =
      (s.unregister .monitor a.monitor).unregister .configuration a.configuration := rfl
    rw [hend, entries_unregister, entries_unregister, List.filter_filter]
    refine List.filter_congr fun e _ => ?_
    simp [Attachment.registrations, Bool.and_comm]

theorem nextId_register (source : Source) (callback : Subscriber ℓ) (source' : Source) :
    ((s.register source callback).registry source').nextId =
      if source' = source then (s.registry source').nextId + 1
      else (s.registry source').nextId := by
  unfold System.register
  rw [registry_setRegistry]
  by_cases hsource : source' = source
  · simp [hsource, Registry.register]
  · simp [hsource]

theorem nextId_unregister (source : Source) (id : Nat) (source' : Source) :
    ((s.unregister source id).registry source').nextId = (s.registry source').nextId := by
  unfold System.unregister
  rw [registry_setRegistry]
  by_cases hsource : source' = source
  · simp [hsource, Registry.remove]
  · simp [hsource]

theorem nextId_endListener (l : Option Registration) (source : Source) :
    ((s.endListener l).registry source).nextId = (s.registry source).nextId := by
  cases l with
  | none => rfl
  | some l => exact nextId_unregister l.1 l.2 source

theorem nextId_endAttachment (a : Option Attachment) (source : Source) :
    ((s.endAttachment a).registry source).nextId = (s.registry source).nextId := by
  cases a with
  | none => rfl
  | some a =>
    exact (nextId_unregister (s := s.unregister .monitor a.monitor) .configuration _ source).trans
      (nextId_unregister .monitor a.monitor source)

theorem lookup_filter {β : Type} (name : String) (l : List (String × β)) (name' : String) :
    (l.filter (·.1 ≠ name)).lookup name' = if name' = name then none else l.lookup name' := by
  induction l with
  | nil => simp
  | cons entry l ih =>
    obtain ⟨key, value⟩ := entry
    by_cases hkey : key = name
    · subst hkey
      by_cases hname : name' = key
      · simpa [hname] using ih
      · have hother : (name' == key) = false := by simpa using hname
        simpa [hname, List.lookup_cons, hother] using ih
    · by_cases hname : name' = key
      · subst hname
        simp [hkey]
      · have hother : (name' == key) = false := by simpa using hname
        simpa [hkey, List.lookup_cons, hother] using ih

theorem held_setRegistry (source : Source) (registry : Registry (Subscriber ℓ)) (h : Handle) :
    (s.setRegistry source registry).held h = s.held h := by
  cases source <;> rfl

theorem held_endListener (l : Option Registration) (h : Handle) :
    (s.endListener l).held h = s.held h := by
  cases l with
  | none => rfl
  | some l => exact held_setRegistry l.1 _ h

theorem held_endAttachment (a : Option Attachment) (h : Handle) :
    (s.endAttachment a).held h = s.held h := by
  cases a with
  | none => rfl
  | some a =>
    exact (held_setRegistry (s := s.unregister .monitor a.monitor) .configuration _ h).trans
      (held_setRegistry .monitor _ h)

/-! ## What an input does to handles -/

/-- A handle has been made to keep something else; what it kept before is gone. -/
structure Assigned (s s' : System ℓ) (h : Handle) (new : List (Registrant ℓ)) : Prop where
  entries : ∀ source, (s'.registry source).entries =
    ((s.registry source).entries ++ (new.filter (·.source = source)).map (·.entry)).filter
      fun e => (source, e.id) ∉ s.held h
  held : ∀ h', s'.held h' = if h' = h then new.map Registrant.registration else s.held h'
  fresh : ∀ r ∈ new, r.entry.id = (s.registry r.source).nextId
  nextId : ∀ source,
    (s'.registry source).nextId = (s.registry source).nextId + new.countP (·.source = source)

/-- Nothing has changed in what is registered. -/
structure SameRegistrations (s s' : System ℓ) : Prop where
  monitor : s'.monitor = s.monitor
  configuration : s'.configuration = s.configuration
  listeners : s'.listeners = s.listeners
  attachments : s'.attachments = s.attachments

namespace SameRegistrations

theorem refl (s : System ℓ) : SameRegistrations s s := ⟨rfl, rfl, rfl, rfl⟩

variable (h : SameRegistrations s s')

include h

theorem registry (source : Source) : s'.registry source = s.registry source := by
  cases source with
  | monitor => exact h.monitor
  | configuration => exact h.configuration

theorem held (handle : Handle) : s'.held handle = s.held handle := by
  cases handle with
  | listener name => exact congrArg (fun l => (List.lookup name l).toList) h.listeners
  | attachment name =>
    exact congrArg (fun l => (List.lookup name l).toList.flatMap Attachment.registrations)
      h.attachments

end SameRegistrations

theorem sameRegistrations_deliver (event : Event) : SameRegistrations s (s.deliver event) := by
  unfold System.deliver
  split
  · dsimp only
    split <;> exact ⟨rfl, rfl, rfl, rfl⟩
  · exact .refl s

theorem sameRegistrations_tick : SameRegistrations s s.tick := by
  unfold System.tick
  split
  · exact ⟨rfl, rfl, rfl, rfl⟩
  · next event entry rest below _ =>
    unfold System.tell
    split
    · have hdelivered := sameRegistrations_deliver
        (s := { s with stack := .notify event rest :: below }) event
      exact ⟨hdelivered.monitor, hdelivered.configuration, hdelivered.listeners,
        hdelivered.attachments⟩
    · exact ⟨rfl, rfl, rfl, rfl⟩
  · split <;> exact ⟨rfl, rfl, rfl, rfl⟩
  · exact ⟨rfl, rfl, rfl, rfl⟩
  · exact ⟨rfl, rfl, rfl, rfl⟩
  · split <;> exact ⟨rfl, rfl, rfl, rfl⟩
  · next p _ _ =>
    cases p with
    | done v => exact ⟨rfl, rfl, rfl, rfl⟩
    | ask r next => cases r <;> exact ⟨rfl, rfl, rfl, rfl⟩
  · next below _ =>
    rcases setFree_cases ({ s with stack := below } : System ℓ) with ⟨-, hfree⟩ | ⟨-, -, hfree⟩
    · rw [hfree]
      exact ⟨rfl, rfl, rfl, rfl⟩
    · rw [hfree]
      exact ⟨rfl, rfl, rfl, rfl⟩
  · exact .refl s

theorem lookup_cons_filter {β : Type} (name : String) (b : β) (l : List (String × β))
    (name' : String) :
    ((name, b) :: l.filter (·.1 ≠ name)).lookup name' =
      if name' = name then some b else l.lookup name' := by
  by_cases hname : name' = name
  · simp [hname]
  · have hother : (name' == name) = false := by simpa using hname
    rw [List.lookup_cons, hother]
    simpa [hname] using lookup_filter name l name'

theorem assigned_listen (name : String) (source : Source) (l : ℓ) :
    Assigned s (s.act (.listen name source l)) (.listener name)
      [s.registrant source (.listener l)] := by
  let registered := s.register source (.listener l)
  let t : System ℓ := { registered with
    listeners := (name, source, (s.registry source).nextId) :: s.listeners.filter (·.1 ≠ name) }
  have hact : s.act (.listen name source l) = t.endListener (s.listeners.lookup name) := rfl
  have hsame : ∀ source', t.registry source' = registered.registry source' := by
    intro source'
    cases source' <;> rfl
  rw [hact]
  constructor
  · intro source'
    rw [entries_endListener, hsame, entries_register]
    rfl
  · intro h
    rw [held_endListener]
    cases h with
    | listener name' =>
      show (List.lookup name' _).toList = _
      rw [lookup_cons_filter]
      by_cases hname : name' = name
      · simp [hname, System.registrant, Registrant.registration]
      · simp [hname, System.held]
    | attachment name' => exact held_setRegistry source _ (.attachment name')
  · intro r hr
    rw [List.mem_singleton.1 hr]
    rfl
  · intro source'
    rw [nextId_endListener, hsame, nextId_register]
    by_cases hsource : source' = source
    · simp [hsource, System.registrant]
    · simp [hsource, Ne.symm hsource, System.registrant]

theorem assigned_unlisten (name : String) :
    Assigned s (s.act (.unlisten name)) (.listener name) [] := by
  let t : System ℓ := { s with listeners := s.listeners.filter (·.1 ≠ name) }
  have hact : s.act (.unlisten name) = t.endListener (s.listeners.lookup name) := rfl
  have hsame : ∀ source, t.registry source = s.registry source := by
    intro source
    cases source <;> rfl
  rw [hact]
  constructor
  · intro source
    rw [entries_endListener, hsame]
    simp [System.held]
  · intro h
    rw [held_endListener]
    cases h with
    | listener name' =>
      show (List.lookup name' (s.listeners.filter (·.1 ≠ name))).toList = _
      rw [lookup_filter]
      by_cases hname : name' = name
      · simp [hname]
      · simp [hname, System.held]
    | attachment name' => rfl
  · simp
  · intro source
    rw [nextId_endListener, hsame]
    simp

theorem assigned_attach (name : String) {v : View} (hv : s.freeView? = some v) :
    Assigned s (s.act (.attach name)) (.attachment name)
      [s.registrant .monitor .statusView, s.registrant .configuration .statusView] := by
  let first := s.register .monitor .statusView
  let second := first.register .configuration .statusView
  let t : System ℓ := { second with
    attachments := (name, ⟨s.monitor.nextId, s.configuration.nextId⟩) ::
      s.attachments.filter (·.1 ≠ name) }
  have hact : s.act (.attach name) = t.endAttachment (s.attachments.lookup name) := by
    simp only [System.act, hv]
    rfl
  have hsame : ∀ source, t.registry source = second.registry source := by
    intro source
    cases source <;> rfl
  rw [hact]
  constructor
  · intro source
    rw [entries_endAttachment, hsame, entries_register, entries_register, List.append_assoc,
      ← List.map_append, ← List.filter_append]
    rfl
  · intro h
    rw [held_endAttachment]
    cases h with
    | listener name' => rfl
    | attachment name' =>
      show (List.lookup name' _).toList.flatMap _ = _
      rw [lookup_cons_filter]
      by_cases hname : name' = name
      · rw [hname, if_pos rfl, if_pos rfl]
        rfl
      · simp [hname, System.held]
  · intro r hr
    obtain rfl | rfl : r = s.registrant .monitor .statusView ∨
      r = s.registrant .configuration .statusView := by simpa using hr
    · rfl
    · rfl
  · intro source
    rw [nextId_endAttachment, hsame, nextId_register, nextId_register]
    cases source <;> rfl

theorem assigned_detach (name : String) :
    Assigned s (s.act (.detach name)) (.attachment name) [] := by
  let t : System ℓ := { s with attachments := s.attachments.filter (·.1 ≠ name) }
  have hact : s.act (.detach name) = t.endAttachment (s.attachments.lookup name) := rfl
  have hsame : ∀ source, t.registry source = s.registry source := by
    intro source
    cases source <;> rfl
  rw [hact]
  constructor
  · intro source
    rw [entries_endAttachment, hsame]
    simp [System.held]
  · intro h
    rw [held_endAttachment]
    cases h with
    | listener name' => rfl
    | attachment name' =>
      show (List.lookup name' (s.attachments.filter (·.1 ≠ name))).toList.flatMap _ = _
      rw [lookup_filter]
      by_cases hname : name' = name
      · simp [hname]
      · simp [hname, System.held]
  · simp
  · intro source
    rw [nextId_endAttachment, hsame]
    simp

theorem assigned_act {a : Action ℓ} {h : Handle} {new : List (Registrant ℓ)}
    (ha : s.actAssigns? a = some (h, new)) : Assigned s (s.act a) h new := by
  cases a with
  | listen name source l =>
    obtain ⟨rfl, rfl⟩ : .listener name = h ∧ [s.registrant source (.listener l)] = new := by
      simpa [System.actAssigns?] using ha
    exact assigned_listen name source l
  | unlisten name =>
    obtain ⟨rfl, rfl⟩ : .listener name = h ∧ [] = new := by simpa [System.actAssigns?] using ha
    exact assigned_unlisten name
  | attach name =>
    obtain ⟨v, hv, hassigned⟩ := Option.map_eq_some_iff.1 ha
    obtain ⟨rfl, rfl⟩ := Prod.mk.inj hassigned
    exact assigned_attach name hv
  | detach name =>
    obtain ⟨rfl, rfl⟩ : .attachment name = h ∧ [] = new := by simpa [System.actAssigns?] using ha
    exact assigned_detach name
  | change | create | perform | dropView => simp [System.actAssigns?] at ha

theorem sameRegistrations_act {a : Action ℓ} (ha : s.actAssigns? a = none) :
    SameRegistrations s (s.act a) := by
  cases a with
  | listen | unlisten | detach => simp [System.actAssigns?] at ha
  | attach name =>
    have hnone : s.freeView? = none := Option.map_eq_none_iff.1 ha
    have hact : s.act (.attach name) = s := by simp only [System.act, hnone]
    rw [hact]
    exact .refl s
  | change c =>
    simp only [System.act]
    split <;> exact ⟨rfl, rfl, rfl, rfl⟩
  | create | perform | dropView =>
    simp only [System.act]
    split <;> exact ⟨rfl, rfl, rfl, rfl⟩

theorem exists_act_of_assigns? {input : Input ℓ} {assigned : Handle × List (Registrant ℓ)}
    (hinput : s.assigns? input = some assigned) :
    ∃ a, input = .act a ∧ s.isTurn = true ∧ s.actAssigns? a = some assigned := by
  cases input with
  | tick | done | reply => simp [System.assigns?] at hinput
  | act a =>
    simp only [System.assigns?] at hinput
    split at hinput
    · next hturn => exact ⟨a, rfl, hturn, hinput⟩
    · simp at hinput

theorem assigned_feed {input : Input ℓ} {h : Handle} {new : List (Registrant ℓ)}
    (hinput : s.assigns? input = some (h, new)) : Assigned s (s.feed input) h new := by
  obtain ⟨a, rfl, hturn, hassigns⟩ := exists_act_of_assigns? hinput
  have hfeed : s.feed (.act a) = s.act a := by simp [System.feed, hturn]
  rw [hfeed]
  exact assigned_act hassigns

theorem sameRegistrations_feed {input : Input ℓ} (hinput : s.assigns? input = none) :
    SameRegistrations s (s.feed input) := by
  cases input with
  | tick => exact sameRegistrations_tick
  | done =>
    simp only [System.feed, System.returned]
    split <;> exact ⟨rfl, rfl, rfl, rfl⟩
  | reply answers =>
    simp only [System.feed, System.replied]
    split <;> exact ⟨rfl, rfl, rfl, rfl⟩
  | act a =>
    by_cases hturn : s.isTurn = true
    · have hfeed : s.feed (.act a) = s.act a := by simp [System.feed, hturn]
      have hnone : s.actAssigns? a = none := by simpa [System.assigns?, hturn] using hinput
      rw [hfeed]
      exact sameRegistrations_act hnone
    · have hfeed : s.feed (.act a) = s := by simp [System.feed, hturn]
      rw [hfeed]
      exact .refl s

/-! ## How long a registration lasts -/

theorem nextId_le_feed (input : Input ℓ) (source : Source) :
    (s.registry source).nextId ≤ ((s.feed input).registry source).nextId := by
  cases hinput : s.assigns? input with
  | none =>
    have hsame := (sameRegistrations_feed hinput).registry source
    exact Nat.le_of_eq (congrArg (·.nextId) hsame.symm)
  | some assigned =>
    rw [(assigned_feed hinput).nextId]
    exact Nat.le_add_right _ _

theorem isRegistered_iff {r : Registration} :
    s.isRegistered r = true ↔ ∃ e ∈ (s.registry r.1).entries, e.id = r.2 := by
  simp [System.isRegistered]

namespace Assigned

variable {h : Handle} {new : List (Registrant ℓ)} (hassigned : Assigned s s' h new)

include hassigned

theorem lt_nextId {r : Registrant ℓ} (hr : r ∈ new) :
    r.entry.id < (s'.registry r.source).nextId := by
  have hpos : 0 < new.countP (·.source = r.source) := List.countP_pos_iff.2 ⟨r, hr, by simp⟩
  have hfresh := hassigned.fresh r hr
  have hnext := hassigned.nextId r.source
  omega

theorem mem_entries_iff {source : Source} {e : Entry (Subscriber ℓ)} :
    e ∈ (s'.registry source).entries ↔
      (e ∈ (s.registry source).entries ∨ ⟨source, e⟩ ∈ new) ∧ (source, e.id) ∉ s.held h := by
  have hnew : e ∈ (new.filter (·.source = source)).map (·.entry) ↔ ⟨source, e⟩ ∈ new := by
    rw [List.mem_map]
    constructor
    · rintro ⟨⟨source', e'⟩, hr, rfl⟩
      obtain ⟨hnew, hsource⟩ := List.mem_filter.1 hr
      obtain rfl : source' = source := by simpa using hsource
      exact hnew
    · intro hr
      exact ⟨⟨source, e⟩, List.mem_filter.2 ⟨hr, by simp⟩, rfl⟩
  rw [hassigned.entries, List.mem_filter, List.mem_append, hnew, decide_eq_true_eq]

end Assigned

/-- The registrations have numbers below the next ones, also those that handles keep. -/
structure Kept (s : System ℓ) : Prop where
  numbered : Numbered s
  held : ∀ h, ∀ r ∈ s.held h, r.2 < (s.registry r.1).nextId

theorem Kept.feed (h : Kept s) (hshaped : Shaped s) (input : Input ℓ) : Kept (s.feed input) where
  numbered := h.numbered.step (hshaped.step_feed input)
  held := by
    intro handle r hr
    cases hinput : s.assigns? input with
    | none =>
      have hsame := sameRegistrations_feed hinput
      rw [hsame.held] at hr
      rw [hsame.registry]
      exact h.held handle r hr
    | some assigned =>
      have hassigned := assigned_feed hinput
      rw [hassigned.held] at hr
      split at hr
      · obtain ⟨new, hnew, rfl⟩ := List.mem_map.1 hr
        exact hassigned.lt_nextId hnew
      · have hbefore := h.held handle r hr
        have hnext := nextId_le_feed (s := s) input r.1
        omega

theorem kept_start (locale : String) : Kept (System.start (ℓ := ℓ) locale) where
  numbered := ⟨Registry.wellNumbered_empty, Registry.wellNumbered_empty⟩
  held := by
    intro h r hr
    cases h <;> simp [System.held, System.start] at hr

theorem Kept.run (h : Kept s) (hshaped : Shaped s) (inputs : List (Input ℓ)) :
    Kept (s.run inputs) :=
  hshaped.run_induction (fun _ hshaped h input => h.feed hshaped input) h inputs

theorem kept_run (locale : String) (inputs : List (Input ℓ)) :
    Kept ((System.start locale).run inputs) :=
  (kept_start locale).run (shaped_start locale) inputs

/-- A callback is registered; one handle keeps the registration, and no other one. -/
structure HeldBy (s : System ℓ) (h : Handle) (r : Registrant ℓ) : Prop where
  registered : r.entry ∈ (s.registry r.source).entries
  held : r.registration ∈ s.held h
  alone : ∀ h', h' ≠ h → r.registration ∉ s.held h'

/-- What a handle is made to keep is kept by it alone. -/
theorem Kept.heldBy (hkept : Kept s) {input : Input ℓ} {h : Handle} {new : List (Registrant ℓ)}
    (hinput : s.assigns? input = some (h, new)) {r : Registrant ℓ} (hr : r ∈ new) :
    HeldBy (s.feed input) h r := by
  have hassigned := assigned_feed hinput
  -- the number is new, so no handle has kept it yet
  have hfresh : ∀ h', r.registration ∉ s.held h' := by
    intro h' hheld
    have hlt : r.entry.id < (s.registry r.source).nextId := hkept.held h' _ hheld
    have hnew := hassigned.fresh r hr
    omega
  constructor
  · exact hassigned.mem_entries_iff.2 ⟨.inr hr, hfresh h⟩
  · rw [hassigned.held, if_pos rfl]
    exact List.mem_map_of_mem hr
  · intro h' hne
    rw [hassigned.held, if_neg hne]
    exact hfresh h'

namespace HeldBy

variable {h : Handle} {r : Registrant ℓ} (hheld : HeldBy s h r)

include hheld

/-- Nothing that leaves the handle alone takes out what it keeps. -/
theorem feed (hkept : Kept s) {input : Input ℓ} (hinput : s.assigns h input = false) :
    HeldBy (s.feed input) h r := by
  cases hassigns : s.assigns? input with
  | none =>
    have hsame := sameRegistrations_feed hassigns
    constructor
    · rw [hsame.registry]
      exact hheld.registered
    · rw [hsame.held]
      exact hheld.held
    · intro h' hne
      rw [hsame.held]
      exact hheld.alone h' hne
  | some assigned =>
    obtain ⟨h', new⟩ := assigned
    have hne : h' ≠ h := by simpa [System.assigns, hassigns] using hinput
    have hassigned := assigned_feed hassigns
    constructor
    · exact hassigned.mem_entries_iff.2 ⟨.inl hheld.registered, hheld.alone h' hne⟩
    · rw [hassigned.held, if_neg hne.symm]
      exact hheld.held
    · intro h'' hne'
      rw [hassigned.held]
      split
      · intro hnew
        obtain ⟨other, hother, heq⟩ := List.mem_map.1 hnew
        obtain ⟨hsource, hid⟩ := Prod.mk.inj heq
        have hfresh := hassigned.fresh other hother
        have hlt := (hkept.numbered.registry r.source).below _ hheld.registered
        rw [hsource] at hfresh
        omega
      · exact hheld.alone h'' hne'

/-- What a handle keeps is taken out when the handle is made to keep something else. -/
theorem released {input : Input ℓ} (hinput : s.assigns h input = true) :
    (s.feed input).isRegistered r.registration = false := by
  cases hassigns : s.assigns? input with
  | none => simp [System.assigns, hassigns] at hinput
  | some assigned =>
    obtain ⟨h', new⟩ := assigned
    obtain rfl : h' = h := by simpa [System.assigns, hassigns] using hinput
    have hassigned := assigned_feed hassigns
    rw [Bool.eq_false_iff, ne_eq, isRegistered_iff]
    rintro ⟨e, he, hid⟩
    obtain ⟨-, hgone⟩ := hassigned.mem_entries_iff.1 he
    rw [hid] at hgone
    exact hgone hheld.held

end HeldBy

/-- A number that has been given away is not given again. -/
theorem isRegistered_feed_eq_false {r : Registration} (hr : s.isRegistered r = false)
    (hlt : r.2 < (s.registry r.1).nextId) (input : Input ℓ) :
    (s.feed input).isRegistered r = false := by
  rw [Bool.eq_false_iff, ne_eq, isRegistered_iff] at hr ⊢
  rintro ⟨e, he, hid⟩
  cases hinput : s.assigns? input with
  | none =>
    rw [(sameRegistrations_feed hinput).registry] at he
    exact hr ⟨e, he, hid⟩
  | some assigned =>
    have hassigned := assigned_feed hinput
    obtain ⟨hbefore | hnew, -⟩ := hassigned.mem_entries_iff.1 he
    · exact hr ⟨e, hbefore, hid⟩
    · have hfresh := hassigned.fresh _ hnew
      simp only at hfresh
      omega

end DeviceStatus.Device
