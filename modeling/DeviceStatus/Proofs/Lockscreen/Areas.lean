import DeviceStatus.Proofs.Lockscreen.Ensures

/-!
# The areas of the view

What the view shows falls into areas, each with orders and fields of its own. Every operation
touches few of them (`Operation.touches`): it gives no orders in the others and leaves their fields
as they are. So what is said about one area is kept by all operations that do not touch it
(`Handler.Touches.keeps`).
-/

namespace DeviceStatus

namespace Lockscreen

/-- A part of what the view shows. -/
inductive Area where
  /-- The clock that is shown, and what is laid out around it. -/
  | layout
  /-- The time on the clock. -/
  | time
  /-- The time zone. -/
  | zone
  /-- Typefaces and sizes. -/
  | letters
  /-- The alignment of the clock in words and of the status area. -/
  | alignment
  /-- The look of the date. -/
  | date
  /-- The owner information. -/
  | ownerInfo
  /-- What depends on the dark. -/
  | dark
  /-- The logout button. -/
  | logout
  /-- The scrolling of the owner information. -/
  | marquee
  /-- The room for a header. -/
  | header
  /-- The content of the status area. -/
  | content
  /-- Whether a notification is being pulsed. -/
  | pulse
  /-- The users of the device. -/
  | users
deriving DecidableEq

/-- The area of an order. -/
def Command.area : Command → Area
  | slotVisible .. | anchor _ | lineSpacing _ => .layout
  | clockFormat _ | refreshClock | clockTimeChanged _ => .time
  | timeZone _ => .zone
  | refreshClockFont | refreshClockSize | refreshDateSize | dateTypeface _ | ownerInfoTypeface _
  | ownerInfoTextSize _ => .letters
  | textClockAlignment _ | statusAreaAlignment _ => .alignment
  | dateStyle .. => .date
  | ownerInfo _ | ownerInfoAlignment _ => .ownerInfo
  | ownerInfoVisible _ | ownerInfoAlpha _ | logoutAlpha _ | clockTextColor _ | clockDarkAmount _
  | statusAreaDarkAmount _ => .dark
  | logoutVisible _ | logoutText _ => .logout
  | ownerInfoMarquee _ | scheduleMarquee _ | cancelMarquee => .marquee
  | clockShowingHeader _ | iconsTopMargin _ => .header
  | refreshStatusArea => .content

end Lockscreen

/-- The area of a line in the log, if it belongs to one. -/
def Notice.area : Notice → Option Lockscreen.Area
  | idleMarqueeTimer => some .marquee
  | logoutFailed _ => some .users
  | unknownClock _ | unknownDate _ | unknownAlignment _ | unknownFont _ => none

namespace Lockscreen

/-- The area of a request; questions belong to none. -/
def Request.area : Request → Option Area
  | fact _ | query _ => none
  | command c => some c.area
  | user _ => some .users
  | log n => n.area

/-- The fields of an area are the same in two views. -/
def View.SameIn (v v' : View) : Area → Prop
  | .layout => v'.clock = v.clock
  | .time => v'.locale = v.locale ∧ v'.patternCache = v.patternCache
  | .ownerInfo => v'.ownerInfo = v.ownerInfo
  | .dark =>
    v'.darkAmount = v.darkAmount ∧ v'.textColor = v.textColor ∧
      v'.isOwnerInfoVisible = v.isOwnerInfoVisible
  | .logout => v'.isLogoutVisible = v.isLogoutVisible
  | .marquee => v'.isMarqueePending = v.isMarqueePending
  | .header =>
    v'.isShowingHeader = v.isShowingHeader ∧ v'.iconMargin = v.iconMargin ∧
      v'.iconMarginWithHeader = v.iconMarginWithHeader
  | .pulse => v'.isPulsing = v.isPulsing
  | .zone | .letters | .alignment | .date | .content | .users => True

theorem View.SameIn.refl (v : View) (a : Area) : v.SameIn v a := by
  cases a <;> simp [View.SameIn]

theorem View.SameIn.trans {v₁ v₂ v₃ : View} {a : Area} (h : v₁.SameIn v₂ a) (h' : v₂.SameIn v₃ a) :
    v₁.SameIn v₃ a := by
  cases a <;> simp_all [View.SameIn]

/-- What an area shows is the same on two screens. -/
def Screen.SameIn (x x' : Screen) : Area → Prop
  | .layout =>
    x'.slotVisible = x.slotVisible ∧ x'.anchor = x.anchor ∧ x'.lineSpacing = x.lineSpacing
  | .time => x'.clockFormat = x.clockFormat ∧ x'.clockRefresh = x.clockRefresh
  | .zone => x'.timeZone = x.timeZone
  | .letters =>
    x'.dateTypeface = x.dateTypeface ∧ x'.ownerInfoTypeface = x.ownerInfoTypeface ∧
      x'.ownerInfoTextSize = x.ownerInfoTextSize
  | .alignment =>
    x'.textClockAlignment = x.textClockAlignment ∧
      x'.statusAreaAlignment = x.statusAreaAlignment
  | .date => x'.dateStyle = x.dateStyle
  | .ownerInfo => x'.ownerInfo = x.ownerInfo ∧ x'.ownerInfoAlignment = x.ownerInfoAlignment
  | .dark =>
    x'.ownerInfoVisible = x.ownerInfoVisible ∧ x'.ownerInfoAlpha = x.ownerInfoAlpha ∧
      x'.logoutAlpha = x.logoutAlpha ∧ x'.clockTextColor = x.clockTextColor ∧
      x'.clockDarkAmount = x.clockDarkAmount ∧ x'.statusAreaDarkAmount = x.statusAreaDarkAmount
  | .logout => x'.logoutVisible = x.logoutVisible ∧ x'.logoutText = x.logoutText
  | .marquee => x'.ownerInfoMarquee = x.ownerInfoMarquee
  | .header => x'.clockShowingHeader = x.clockShowingHeader ∧ x'.iconsTopMargin = x.iconsTopMargin
  | .content | .pulse | .users => True

theorem Screen.SameIn.refl (x : Screen) (a : Area) : x.SameIn x a := by
  cases a <;> simp [Screen.SameIn]

/-- A request changes what its own area shows, if it changes anything. -/
theorem Screen.sameIn_afterRequest (x : Screen) {r : Request} {a : Area} (hr : r.area ≠ some a) :
    x.SameIn (x.afterRequest r) a := by
  cases r with
  | fact | query | user | log => exact .refl x a
  | command c =>
    cases c <;> cases a <;>
      first
      | exact absurd rfl hr
      | simp [Screen.SameIn, Screen.afterRequest, Screen.after]

variable {σ α β : Type}

/-- Only requests of some areas are permitted. -/
def Watch.within (areas : List Area) : Watch Unit where
  after := fun _ _ => ()
  permits := fun _ r => ∀ a, r.area = some a → a ∈ areas

namespace Handler

/-- A handler makes no requests outside some areas, and keeps the fields outside them. -/
def Touches (areas : List Area) (h : Handler α) : Prop :=
  ∀ v, (h.run v).Ensures (.within areas)
    (fun result _ => ∀ a, a ∉ areas → v.SameIn result.2 a) ()

namespace Touches

variable {areas areas' : List Area} {h : Handler α} {f : α → Handler β}

theorem pure (value : α) : Touches areas (pure value) := fun v a _ => .refl v a

theorem get : Touches areas get := fun v a _ => .refl v a

theorem bind (hh : Touches areas h) (hf : ∀ value, Touches areas (f value)) :
    Touches areas (h >>= f) := by
  intro v
  rw [StateT.run_bind, Program.ensures_bind]
  refine (hh v).imp ?_
  intro result _ hfirst
  refine (hf result.1 result.2).imp ?_
  intro result' _ hsecond a ha
  exact (hfirst a ha).trans (hsecond a ha)

theorem modify {change : View → View}
    (hchange : ∀ (v : View) a, a ∉ areas → v.SameIn (change v) a) :
    Touches areas (modify change) := hchange

theorem request {r : Request} (hr : ∀ a, r.area = some a → a ∈ areas) :
    Touches areas (View.request r) := fun v => ⟨hr, fun _ _ a _ => .refl v a⟩

theorem fact (f : Fact) : Touches areas (View.fact f) := request (by simp [Request.area])

theorem query (q : Query) : Touches areas (View.query q) := request (by simp [Request.area])

theorem command {c : Command} (hc : c.area ∈ areas) : Touches areas (View.command c) :=
  request (by simpa [Request.area] using hc)

theorem mono (hh : Touches areas h) (hsub : areas ⊆ areas') : Touches areas' h := by
  intro v
  have hprogram : ∀ p : Program (α × View),
      p.Ensures (.within areas) (fun result _ => ∀ a, a ∉ areas → v.SameIn result.2 a) () →
      p.Ensures (.within areas') (fun result _ => ∀ a, a ∉ areas' → v.SameIn result.2 a) () := by
    intro p hp
    induction p with
    | done result => exact fun a ha => hp a fun hmem => ha (hsub hmem)
    | ask r next ih =>
      exact ⟨fun a hr => hsub (hp.1 a hr), fun answer _ => ih answer (hp.2 answer trivial)⟩
  exact hprogram _ (hh v)

/-- What touches no area may be part of anything. -/
theorem any (hh : Touches [] h) : Touches areas h := hh.mono (List.nil_subset areas)

/-- A handler keeps what is said about areas that it does not touch, if requests outside them do not
matter to what is watched. -/
theorem keeps (hh : Touches areas h) (own : List Area) (hown : ∀ a ∈ own, a ∉ areas) {w : Watch σ}
    {property : View → σ → Prop}
    (hview : ∀ (v v' : View) x, (∀ a ∈ own, v.SameIn v' a) → property v x → property v' x)
    (hwatch : ∀ r x, (∀ a ∈ own, r.area ≠ some a) →
      w.permits x r ∧ ∀ v, property v x → property v (w.after x r)) :
    Keeps w property h := by
  intro v x hproperty
  have hprogram : ∀ (p : Program (α × View)) (x : σ), property v x →
      p.Ensures (.within areas) (fun result _ => ∀ a, a ∉ areas → v.SameIn result.2 a) () →
      p.Ensures w (fun result x => property result.2 x) x := by
    intro p
    induction p with
    | done result => exact fun x hx hp => hview v result.2 x (fun a ha => hp a (hown a ha)) hx
    | ask r next ih =>
      intro x hx hp
      have hr : ∀ a ∈ own, r.area ≠ some a := fun a ha heq => hown a ha (hp.1 a heq)
      obtain ⟨hpermits, hafter⟩ := hwatch r x hr
      exact ⟨hpermits, fun answer _ => ih answer _ (hafter v hx) (hp.2 answer trivial)⟩
  exact hprogram _ x hproperty (hh v)

/-- A handler keeps what is said about the screen in areas that it does not touch. -/
theorem keeps_screen (hh : Touches areas h) (own : List Area) (hown : ∀ a ∈ own, a ∉ areas)
    {known : (r : Request) → r.Answer → Prop} {property : View → Screen → Prop}
    (hproperty : ∀ v v' x x', (∀ a ∈ own, v.SameIn v' a ∧ x.SameIn x' a) → property v x →
      property v' x') :
    Keeps (.screen known) property h := by
  refine hh.keeps own hown ?_ ?_
  · intro v v' x hsame
    exact hproperty v v' x x fun a ha => ⟨hsame a ha, .refl x a⟩
  · intro r x hr
    refine ⟨trivial, fun v => ?_⟩
    exact hproperty v v x _ fun a ha => ⟨.refl v a, x.sameIn_afterRequest (hr a ha)⟩

end Touches

end Handler

end Lockscreen

end DeviceStatus
