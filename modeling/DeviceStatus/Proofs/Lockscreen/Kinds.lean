import DeviceStatus.Proofs.Lockscreen.Transcripts

/-!
# Requests of a kind

Some requests are made in few places only: those about the face of the clock where the clock is
brought up to the present time, those about the header where the room for it is made. Everything
else makes none of them (`Handler.Spares`), which is shown here for all such kinds of requests at
once (`Particular`).
-/

namespace DeviceStatus.Lockscreen

open Handler

/-- Whether a question is about neither the face of the clock nor the header. -/
def Query.isShared : Query → Bool
  | clockTextColor | accent | bestPattern .. | label .clock12Skeleton | label .clock24Skeleton
  | hasHeader | dimension .iconMargin | dimension .iconMarginWithHeader => false
  | setting .. | dimension _ | label .logout | deviceOwnerInfo | isOwnerInfoEnabled _
  | ownerInfo _ => true

/-- Whether an order is about neither the face of the clock nor the header. -/
def Command.isShared : Command → Bool
  | clockFormat _ | clockTimeChanged _ | clockShowingHeader _ | iconsTopMargin _ => false
  | _ => true

/-- The requests of a kind are about the face of the clock or the header. -/
structure Particular (kind : Request → Bool) : Prop where
  query : ∀ q : Query, q.isShared = true → kind (.query q) = false
  command : ∀ c : Command, c.isShared = true → kind (.command c) = false
  fact : ∀ f, kind (.fact f) = false
  user : ∀ o, kind (.user o) = false
  log : ∀ n, kind (.log n) = false

variable {α β : Type} {kind : Request → Bool}

/-- A handler makes no requests of a kind. -/
def Handler.Spares (kind : Request → Bool) (h : Handler α) : Prop :=
  ∀ ⦃v exchanges value v'⦄, h.Runs v exchanges value v' →
    exchanges.filter (kind ·.request) = []

namespace Handler.Spares

variable {h : Handler α} {f : α → Handler β}

theorem bind (hh : Spares kind h) (hf : ∀ value, Spares kind (f value)) :
    Spares kind (h >>= f) := by
  intro v exchanges value v' hruns
  obtain ⟨first, second, middle, v₁, rfl, hfirst, hsecond⟩ := runs_bind.1 hruns
  rw [List.filter_append, hh hfirst, hf _ hsecond, List.append_nil]

theorem pure (value : α) : Spares kind (pure value) := by
  intro v exchanges value' v' hruns
  rw [(runs_pure.1 hruns).1]
  rfl

theorem get : Spares kind get := by
  intro v exchanges value v' hruns
  rw [(runs_get.1 hruns).1]
  rfl

theorem modify (change : View → View) : Spares kind (modify change) := by
  intro v exchanges value v' hruns
  rw [(runs_modify.1 hruns).1]
  rfl

theorem request {r : Request} (hr : kind r = false) : Spares kind (View.request r) := by
  intro v exchanges answer v' hruns
  rw [(runs_request.1 hruns).1]
  simp [hr]

end Handler.Spares

namespace Particular

variable (hkind : Particular kind)

include hkind

theorem spares_fact (f : Fact) : Spares kind (View.fact f) := .request (hkind.fact f)

theorem spares_query {q : Query} (hq : q.isShared = true) : Spares kind (View.query q) :=
  .request (hkind.query q hq)

theorem spares_command {c : Command} (hc : c.isShared = true) : Spares kind (View.command c) :=
  .request (hkind.command c hc)

theorem spares_choose (choice : Choice α) : Spares kind (View.choose choice) := by
  obtain ⟨value, notice⟩ := choice
  cases notice with
  | none => exact .pure value
  | some notice => exact .bind (.request (hkind.log notice)) fun _ => .pure value

theorem spares_setting (s : Settings.Setting) : Spares kind (View.setting s) :=
  .bind (hkind.spares_fact _) fun _ => .bind (hkind.spares_query rfl) fun _ => .pure _

theorem spares_chosenClock : Spares kind View.chosenClock :=
  .bind (hkind.spares_setting _) fun _ => hkind.spares_choose _

theorem spares_alignmentUnder (clock : Clock.Style) : Spares kind (View.alignmentUnder clock) :=
  .bind (hkind.spares_setting _) fun _ => .bind (hkind.spares_choose _) fun _ =>
    .bind (hkind.spares_query rfl) fun _ => .pure _

/-! ## Clock and date -/

theorem spares_updateClockAlignment : Spares kind View.updateClockAlignment := by
  refine .bind .get fun v => .bind (hkind.spares_alignmentUnder _) fun alignment => ?_
  dsimp only
  split
  · exact .bind (hkind.spares_command rfl) fun _ => hkind.spares_command rfl
  · exact hkind.spares_command rfl

theorem spares_showSlots (slots : List (Clock.Slot × Bool)) :
    Spares kind (View.showSlots slots) := by
  induction slots with
  | nil => exact .pure ()
  | cons slot slots ih => exact .bind (hkind.spares_command rfl) fun _ => ih

theorem spares_updateSettings : Spares kind View.updateSettings :=
  .bind hkind.spares_chosenClock fun _ => .bind (.modify _) fun _ =>
    .bind (hkind.spares_showSlots _) fun _ => .bind (hkind.spares_command rfl) fun _ =>
      .bind (hkind.spares_command rfl) fun _ => hkind.spares_updateClockAlignment

theorem spares_resolveDate (style : Date.Style) :
    Spares kind (style.resolve fun d => View.query (.dimension d)) := by
  unfold Date.Style.resolve
  dsimp only
  split
  · next background hbackground =>
    -- the gaps above the notification icons are no padding of a date
    have hshared : (Query.dimension background.horizontal).isShared = true ∧
        (Query.dimension background.vertical).isShared = true := by
      cases style <;> simp [Date.Style.attributes] at hbackground <;> subst hbackground <;>
        exact ⟨rfl, rfl⟩
    exact .bind (hkind.spares_query hshared.1) fun _ =>
      .bind (hkind.spares_query hshared.2) fun _ => .pure _
  · exact .pure _

theorem spares_updateDateStyles : Spares kind View.updateDateStyles :=
  .bind (hkind.spares_setting _) fun _ => .bind (hkind.spares_choose _) fun _ =>
    .bind (hkind.spares_resolveDate _) fun _ => .bind (hkind.spares_command rfl) fun _ =>
      hkind.spares_updateClockAlignment

theorem spares_updateAll : Spares kind View.updateAll :=
  .bind hkind.spares_updateSettings fun _ => hkind.spares_updateDateStyles

theorem spares_refreshOwnerInfoSize : Spares kind View.refreshOwnerInfoSize :=
  .bind (hkind.spares_setting _) fun _ => hkind.spares_command rfl

theorem spares_refreshFontsAndSizes : Spares kind View.refreshFontsAndSizes :=
  .bind (hkind.spares_command rfl) fun _ => .bind (hkind.spares_setting _) fun _ =>
    .bind (hkind.spares_choose _) fun _ => .bind (hkind.spares_command rfl) fun _ =>
      .bind (hkind.spares_command rfl) fun _ => .bind (hkind.spares_command rfl) fun _ =>
        .bind hkind.spares_refreshOwnerInfoSize fun _ => .bind (hkind.spares_setting _) fun _ =>
          .bind (hkind.spares_choose _) fun _ => hkind.spares_command rfl

/-! ## Owner information and the dark -/

theorem spares_updateDark : Spares kind View.updateDark := by
  refine .bind .get fun v => .bind (hkind.spares_command rfl) fun _ => .bind .get fun _ =>
    .bind (.modify _) fun _ => .bind (hkind.spares_command rfl) fun _ => ?_
  have hrest : Spares kind (do
      View.command (.statusAreaDarkAmount v.darkAmount)
      View.command (.clockTextColor (blend (← get).textColor white v.darkAmount))) :=
    .bind (hkind.spares_command rfl) fun _ => .bind .get fun _ => hkind.spares_command rfl
  dsimp only
  split
  · exact .bind (hkind.spares_command rfl) fun _ => hrest
  · exact hrest

theorem spares_findOwnerInfo (user : Int32) : Spares kind (View.findOwnerInfo user) := by
  refine .bind (hkind.spares_query rfl) fun text => ?_
  cases text with
  | some text => exact .pure _
  | none =>
    refine .bind hkind.spares_chosenClock fun clock =>
      .bind (hkind.spares_alignmentUnder _) fun _ => .bind (hkind.spares_command rfl) fun _ =>
        .bind (hkind.spares_query rfl) fun isEnabled => ?_
    split
    · exact hkind.spares_query rfl
    · exact .pure _

theorem spares_updateOwnerInfo : Spares kind View.updateOwnerInfo :=
  .bind (hkind.spares_fact _) fun _ => .bind (hkind.spares_findOwnerInfo _) fun _ =>
    .bind (hkind.spares_command rfl) fun _ => .bind (.modify _) fun _ => hkind.spares_updateDark

theorem spares_setDarkAmount (amount : Float32) : Spares kind (View.setDarkAmount amount) := by
  refine .bind .get fun v => ?_
  split
  · exact .pure _
  · exact .bind (.modify _) fun _ => .bind (hkind.spares_command rfl) fun _ =>
      hkind.spares_updateDark

/-! ## Logout and marquee -/

theorem spares_updateLogoutView : Spares kind View.updateLogoutView :=
  .bind (hkind.spares_fact _) fun _ => .bind (hkind.spares_fact _) fun _ =>
    .bind (.modify _) fun _ => .bind (hkind.spares_command rfl) fun _ =>
      .bind (hkind.spares_query rfl) fun _ => hkind.spares_command rfl

theorem spares_logOutCurrentUser : Spares kind View.logOutCurrentUser := by
  have horder : ∀ o, Spares kind (View.userOrder o) := fun o => .request (hkind.user o)
  have hlogOut : ∀ user, Spares kind (View.logOut user) := by
    intro user
    refine .bind (horder _) fun outcome => ?_
    cases outcome with
    | error cause => exact .pure _
    | ok =>
      refine .bind (horder _) fun outcome => ?_
      cases outcome <;> exact .pure _
  refine .bind (hkind.spares_fact _) fun user => .bind (hlogOut user) fun outcome => ?_
  cases outcome with
  | error failure => exact .request (hkind.log _)
  | ok => exact .pure _

theorem spares_setMarqueeEnabled (isEnabled : Bool) :
    Spares kind (View.setMarqueeEnabled isEnabled) := by
  refine .bind .get fun v => ?_
  dsimp only
  split
  · split
    · exact .pure _
    · exact .bind (.modify _) fun _ => hkind.spares_command rfl
  · split
    · exact .bind (hkind.spares_command rfl) fun _ => .bind (.modify _) fun _ =>
        hkind.spares_command rfl
    · exact hkind.spares_command rfl

theorem spares_marqueeTimerFired : Spares kind View.marqueeTimerFired := by
  refine .bind .get fun v => ?_
  split
  · exact .bind (.modify _) fun _ => hkind.spares_command rfl
  · exact .request (hkind.log _)

/-! ## Several of these -/

theorem spares_owner : Spares kind (do
    View.updateOwnerInfo
    View.updateLogoutView) :=
  .bind hkind.spares_updateOwnerInfo fun _ => hkind.spares_updateLogoutView

/-- What belongs to the user, apart from the time. -/
theorem spares_ofUser_rest : Spares kind (do
    View.updateOwnerInfo
    View.updateLogoutView
    View.refreshFontsAndSizes
    View.updateDateStyles) :=
  .bind hkind.spares_updateOwnerInfo fun _ => .bind hkind.spares_updateLogoutView fun _ =>
    .bind hkind.spares_refreshFontsAndSizes fun _ => hkind.spares_updateDateStyles

end Particular

end DeviceStatus.Lockscreen
