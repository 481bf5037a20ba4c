import DeviceStatus.Proofs.Device.Delivery
import DeviceStatus.Proofs.Device.Pieces
import DeviceStatus.Proofs.Lockscreen.ClockFace
import DeviceStatus.Proofs.Lockscreen.Dark

/-!
# The dark on the screen

The view reads the colour of the clock once, when it is made, and blends from it ever after. So
whatever was done in between, what depends on the dark follows from that colour, from the amount of
darkness and from the owner information, and a view cannot drift away from another one that has the
same.
-/

namespace DeviceStatus.Device

open Lockscreen

variable {ℓ : Type}

/-- The colour of the clock was asked for once, when the view was made. -/
def ColorAtCreation (pieces : List Piece) (color : UInt32) : Prop :=
  ∃ later first locale, pieces = later ++ [first] ∧ first.task = .create locale ∧
    answersTo .clockTextColor first.exchanges = [color] ∧
    ∀ p ∈ later, answersTo .clockTextColor p.exchanges = []

/-- Two screens show the same of what depends on the dark. -/
structure SameInDark (x x' : Screen) : Prop where
  logoutAlpha : x'.logoutAlpha = x.logoutAlpha
  ownerInfo : x'.ownerInfo = x.ownerInfo
  ownerInfoVisible : x'.ownerInfoVisible = x.ownerInfoVisible
  /-- The opacity of owner information that is hidden does not matter. -/
  ownerInfoAlpha : x.ownerInfoVisible = some true → x'.ownerInfoAlpha = x.ownerInfoAlpha
  statusAreaDarkAmount : x'.statusAreaDarkAmount = x.statusAreaDarkAmount
  clockTextColor : x'.clockTextColor = x.clockTextColor

/-! ## The colour that was asked for -/

theorem ColorAtCreation.eq {pieces : List Piece} {color color' : UInt32}
    (h : ColorAtCreation pieces color) (h' : ColorAtCreation pieces color') : color' = color := by
  obtain ⟨later, first, -, rfl, -, hcolor, -⟩ := h
  obtain ⟨later', first', -, hpieces, -, hcolor', -⟩ := h'
  obtain ⟨-, hfirst⟩ := List.append_inj' hpieces rfl
  rw [← List.singleton_inj.1 hfirst, hcolor] at hcolor'
  exact (List.singleton_inj.1 hcolor').symm

/-- The view holds the colour that was asked for when it was made. -/
theorem Worked.colorAtCreation {p : Piece} {earlier : List Piece} {v : View}
    (h : Worked (p :: earlier)) (hended : p.HasEnded v) :
    ColorAtCreation (p :: earlier) v.textColor := by
  generalize hpieces : p :: earlier = pieces at h
  induction h generalizing p earlier v with
  | made locale exchanges =>
    obtain ⟨rfl, rfl⟩ := List.cons.inj hpieces
    obtain ⟨color, later, hexchanges, hrenews⟩ := View.create_renews hended
    obtain ⟨later', hfirst⟩ := View.create_textColor hended
    obtain rfl : exchanges = _ := hexchanges
    -- it is the first question, and no other one
    have hcolor : color = v.textColor := by
      obtain ⟨hhead, -⟩ := List.cons.inj hfirst
      exact eq_of_heq (Exchange.mk.inj hhead).2
    have hnone : answersTo .clockTextColor later = [] := by
      rw [← hrenews.answersTo_clockTextColor]
      exact (answersTo_filter rfl later).symm
    refine ⟨[], _, locale, rfl, rfl, ?_, by simp⟩
    rw [← hcolor]
    show answersTo .clockTextColor ([⟨.query .clockTextColor, color⟩] ++ later) = [color]
    rw [answersTo_append, hnone]
    simp [answersTo]
  | @next o v₀ exchanges p' earlier' hworked hlast ih =>
    obtain ⟨rfl, rfl⟩ := List.cons.inj hpieces
    obtain ⟨later, first, locale, hsplit, hfirst, hcolor, hnone⟩ := ih hlast rfl
    obtain ⟨_, hruns⟩ := Handler.after_reaches_done.1 hended
    have hsame : v.textColor = v₀.textColor := (Operation.hasColor o).textColor hruns
    rw [hsame, hsplit]
    exact ⟨_ :: later, first, locale, rfl, hfirst, hcolor,
      List.forall_mem_cons.2 ⟨Operation.answersTo_clockTextColor hruns, hnone⟩⟩

/-! ## Between operations -/

theorem hasText_iff {text? : Option String} :
    View.hasText text? = true ↔ ∃ text, text? = some text ∧ text ≠ "" := by
  cases text? with
  | none => simp [View.hasText]
  | some text => simp [View.hasText]

/-- Whenever the view is idle, what depends on the dark follows from the fields of the view and from
the colour that it asked for when it was made. -/
theorem darkShown_at_rest {locale : String} {inputs : List (Input ℓ)} {v : View}
    (hidle : ((System.start (ℓ := ℓ) locale).run inputs).work = .idle (.present v)) :
    v.DarkShown ((System.start (ℓ := ℓ) locale).run inputs).screen ∧
      ColorAtCreation ((System.start (ℓ := ℓ) locale).pieces inputs) v.textColor := by
  have hdiary := diary_run locale inputs
  rw [hidle] at hdiary
  generalize (System.start (ℓ := ℓ) locale).pieces inputs = pieces at hdiary
  cases hdiary with
  | idle hworked hended =>
    have hshown := holds_between_operations View.ensures_create_dark Operation.darkShown locale
      inputs hidle
    exact ⟨hshown, hworked.colorAtCreation hended⟩

/-- What depends on the dark agrees with the fields of a view whenever it is idle: the logout button
is hidden where it is entirely dark; the view and the screen both show the owner information exactly
if there is a text; its opacity goes down as the darkness goes up; and the colour of the clock is
blended from the one that was asked for when the view was made. So two views that were given the
same show the same, whatever was done with them before. -/
theorem dark_on_screen :
    (∀ (locale : String) (inputs : List (Input ℓ)) (v : View),
      let start := System.start (ℓ := ℓ) locale
      let screen := (start.run inputs).screen
      (start.run inputs).work = .idle (.present v) →
        screen.logoutAlpha = some (if v.darkAmount == 1.0 then 0.0 else 1.0) ∧
        screen.ownerInfo = some v.ownerInfo ∧
        (v.isOwnerInfoVisible = true ↔ ∃ text, v.ownerInfo = some text ∧ text ≠ "") ∧
        screen.ownerInfoVisible = some v.isOwnerInfoVisible ∧
        (v.isOwnerInfoVisible = true → screen.ownerInfoAlpha = some (1.0 - v.darkAmount)) ∧
        screen.statusAreaDarkAmount = some v.darkAmount ∧
        ∃ color, ColorAtCreation (start.pieces inputs) color ∧
          screen.clockTextColor = some (blend color white v.darkAmount)) ∧
      ∀ (locale locale' : String) (inputs inputs' : List (Input ℓ)) (v v' : View) (color : UInt32),
        let start := System.start (ℓ := ℓ) locale
        let start' := System.start (ℓ := ℓ) locale'
        (start.run inputs).work = .idle (.present v) →
        (start'.run inputs').work = .idle (.present v') →
        ColorAtCreation (start.pieces inputs) color →
        ColorAtCreation (start'.pieces inputs') color →
        v'.darkAmount = v.darkAmount → v'.ownerInfo = v.ownerInfo →
        SameInDark (start.run inputs).screen (start'.run inputs').screen := by
  constructor
  · intro locale inputs v start screen hidle
    obtain ⟨hshown, hcolor⟩ := darkShown_at_rest hidle
    have hvisible := hshown.isOwnerInfoVisible
    refine ⟨hshown.logoutAlpha, hshown.ownerInfo, ?_, ?_, ?_, hshown.statusAreaDarkAmount,
      v.textColor, hcolor, hshown.clockTextColor⟩
    · rw [hvisible]
      exact hasText_iff
    · rw [hvisible]
      exact hshown.ownerInfoVisible
    · rw [hvisible]
      exact hshown.ownerInfoAlpha
  · intro locale locale' inputs inputs' v v' color start start' hidle hidle' hcolor hcolor' hamount
      hinfo
    obtain ⟨hshown, hasked⟩ := darkShown_at_rest hidle
    obtain ⟨hshown', hasked'⟩ := darkShown_at_rest hidle'
    have htext : v'.textColor = v.textColor := (hcolor'.eq hasked').trans (hcolor.eq hasked).symm
    constructor
    · rw [hshown.logoutAlpha, hshown'.logoutAlpha, hamount]
    · rw [hshown.ownerInfo, hshown'.ownerInfo, hinfo]
    · rw [hshown.ownerInfoVisible, hshown'.ownerInfoVisible, hinfo]
    · intro hvisible
      have hhas : View.hasText v.ownerInfo = true :=
        Option.some.inj (hshown.ownerInfoVisible.symm.trans hvisible)
      rw [hshown.ownerInfoAlpha hhas, hshown'.ownerInfoAlpha (hinfo ▸ hhas), hamount]
    · rw [hshown.statusAreaDarkAmount, hshown'.statusAreaDarkAmount, hamount]
    · rw [hshown.clockTextColor, hshown'.clockTextColor, hamount, htext]

/-! ## Half dark by two ways -/

/-- The system user and the second user have told different things about themselves. -/
def twoOwners : Surroundings where
  ownerInfo := { users := [(0, true, some "Alex"), (10, true, some "")] }
  bestPattern := fun _ skeleton => skeleton

/-- A view goes to half of the darkness at once. -/
def halfDark : List (Input Empty) :=
  .act .create :: twoOwners.uneventful 70 ++
    .act (.perform (.setDarkAmount 0.5)) :: twoOwners.uneventful 20

/-- A view gets entirely dark, is shown to the second user and to the system user again, and then
goes to half of the darkness. -/
def halfDarkAgain : List (Input Empty) :=
  .act .create :: twoOwners.uneventful 70 ++
    [.act (.attach "a"), .act (.perform (.setDarkAmount 1.0))] ++ twoOwners.uneventful 20 ++
    .act (.change (.userSwitch 10)) :: twoOwners.uneventful 60 ++
    .act (.change (.userSwitch 0)) :: twoOwners.uneventful 60 ++
    .act (.perform (.setDarkAmount 0.5)) :: twoOwners.uneventful 20

/-- Both views show the owner information half transparent, and the rest alike. -/
theorem dark_on_screen_by_two_ways :
    let direct := (System.start "en").run halfDark
    let roundabout := (System.start "en").run halfDarkAgain
    SameInDark direct.screen roundabout.screen ∧
      direct.screen.ownerInfo = some (some "Alex") ∧ direct.screen.ownerInfoAlpha = some 0.5 := by
  intro direct roundabout
  have hfields : ∀ inputs : List (Input Empty), ((System.start "en").run inputs).freeView?.map
        (fun v => (v.darkAmount, v.ownerInfo, v.textColor)) = some (0.5, some "Alex", 0xff000000) →
      ∃ v, ((System.start "en").run inputs).work = .idle (.present v) ∧ v.darkAmount = 0.5 ∧
        v.ownerInfo = some "Alex" ∧
          ColorAtCreation ((System.start "en").pieces inputs) 0xff000000 := by
    intro inputs hrun
    obtain ⟨v, hview, hfields⟩ := Option.map_eq_some_iff.1 hrun
    simp only [Prod.mk.injEq] at hfields
    obtain ⟨hamount, hinfo, hcolor⟩ := hfields
    have hidle := (shaped_run "en" inputs).1.work_of_freeView? hview
    exact ⟨v, hidle, hamount, hinfo, hcolor ▸ (darkShown_at_rest hidle).2⟩
  obtain ⟨v, hidle, hamount, hinfo, hcolor⟩ := hfields halfDark (by decide +kernel)
  obtain ⟨v', hidle', hamount', hinfo', hcolor'⟩ := hfields halfDarkAgain (by decide +kernel)
  obtain ⟨hshown, hsame⟩ := dark_on_screen (ℓ := Empty)
  obtain ⟨-, htext, hvisible, -, halpha, -⟩ := hshown "en" halfDark v hidle
  refine ⟨hsame "en" "en" halfDark halfDarkAgain v v' 0xff000000 hidle hidle' hcolor hcolor'
    (hamount'.trans hamount.symm) (hinfo'.trans hinfo.symm), htext.trans (congrArg some hinfo), ?_⟩
  rw [halpha (hvisible.2 ⟨"Alex", hinfo, by decide⟩), hamount]
  decide +kernel

end DeviceStatus.Device
