import DeviceStatus.Proofs.Device.Pieces

/-!
# What the pieces of work leave on the screen

Only the view gives orders to the widgets, so the screen is what its pieces of work have left on it,
one after the other (`paint`). While the view is idle nothing else has to be known of a run to know
the screen; in between, a request that has been made and not yet answered is on the screen already
(`Work.pending`).
-/

namespace DeviceStatus.Device

open Lockscreen

variable {ℓ : Type}

/-- The screen after pieces of work, latest first. -/
def paint : List Piece → Screen
  | [] => {}
  | p :: earlier => (paint earlier).afterExchanges p.exchanges

/-- The screen with the request that the view waits for. -/
def Work.pending (x : Screen) : Work → Screen
  | waiting r _ => x.afterRequest r
  | idle _ | running _ => x

theorem paint_exchanged (p : Piece) (earlier : List Piece) (e : Exchange) :
    paint (record (p :: earlier) (.exchanged e)) =
      (paint (p :: earlier)).afterRequest e.request := by
  simp [record, paint, Screen.afterExchanges]

/-- What a program goes on with is another program. -/
theorem next_ne {r : Request} (next : r.Answer → Program View) (answer : r.Answer) :
    next answer ≠ .ask r next := by
  have hprogram : ∀ (p : Program View) {r : Request} {next : r.Answer → Program View}
      (answer : r.Answer), p = .ask r next → next answer ≠ p := by
    intro p
    induction p with
    | done v =>
      intro r next answer hp
      simp at hp
    | ask r' next' ih =>
      rintro r next answer hp hsame
      cases hp
      exact ih answer answer hsame rfl
  exact hprogram _ answer rfl

variable {s : System ℓ} {begun : Option Operation} {work work₁ work₂ : Work}
  {new : List (Occurrence ℓ)} {pieces : List Piece} {doing? : Option Doing}

/-- What an input adds to the journal and to the pieces of work is the same for the screen. -/
theorem Work.Move.paint (hmove : Work.Move s work begun new work₁)
    (hgoes : Work.Goes work doing? work₂) (hsame : work₁ = work₂) (hdiary : Diary pieces work) :
    new.foldr (Occurrence.follow (.screen fun _ _ => True)) (work.pending (Device.paint pieces)) =
      work₂.pending (Device.paint (doing?.toList.foldl record pieces)) := by
  cases hmove with
  | stay work hnew =>
    rw [foldr_follow hnew]
    cases hgoes with
    | stay => rfl
    | create | perform | drop | done | ask | answer => simp at hsame
    | known next answer => exact absurd (Work.running.inj hsame).symm (next_ne next answer)
  | create =>
    cases hgoes with
    | stay => simp at hsame
    | create => rfl
  | perform o v =>
    cases hgoes with
    | stay | drop => simp at hsame
    | perform => rfl
  | handle d v =>
    cases hgoes with
    | stay | drop => simp at hsame
    | perform => rfl
  | drop v =>
    cases hgoes with
    | stay | perform => simp at hsame
    | drop => rfl
  | done v =>
    cases hgoes with
    | stay => simp at hsame
    | done => rfl
  | fact f next =>
    cases hgoes with
    | stay => exact absurd (Work.running.inj hsame) (next_ne (r := .fact f) next _)
    | ask => simp at hsame
    | known next answer =>
      cases hdiary with
      | running => exact (paint_exchanged _ _ ⟨.fact f, answer⟩).symm
  | log n next =>
    cases hgoes with
    | stay => exact absurd (Work.running.inj hsame) (next_ne (r := .log n) next _)
    | ask => simp at hsame
    | known next answer =>
      cases hdiary with
      | running => exact (paint_exchanged _ _ ⟨.log n, answer⟩).symm
  | ask hr next =>
    cases hgoes with
    | stay | known => simp at hsame
    | ask => rfl
  | @answer r next answer =>
    cases hgoes with
    | stay => simp at hsame
    | answer next answer' =>
      cases hdiary with
      | waiting => exact (paint_exchanged _ _ ⟨r, answer'⟩).symm

/-- While the view is idle, the screen is what the pieces of work have left on it. -/
theorem screen_eq_paint (locale : String) (inputs : List (Input ℓ)) :
    ((System.start (ℓ := ℓ) locale).run inputs).screen =
      ((System.start (ℓ := ℓ) locale).run inputs).work.pending
        (paint ((System.start (ℓ := ℓ) locale).pieces inputs)) := by
  have hrun : ∀ (s : System ℓ) (past : List Piece), Shaped s → Diary past s.work →
      s.screen = s.work.pending (paint past) →
      (s.run inputs).screen =
        (s.run inputs).work.pending (paint ((s.doings inputs).foldl record past)) := by
    induction inputs with
    | nil => exact fun s past _ _ h => h
    | cons input inputs ih =>
      intro s past hshaped hdiary h
      obtain ⟨new, hjournal, hmove⟩ := hshaped.moved (hshaped.step_feed input)
      have hgoes := hshaped.goes input
      have hnext : (s.feed input).screen =
          (s.feed input).work.pending (paint ((s.doing? input).toList.foldl record past)) := by
        rw [screen_eq (fun _ _ => True) hjournal, h]
        exact hmove.paint hgoes rfl hdiary
      have hlater := ih (s.feed input) _ (hshaped.feed input).1 (hdiary.goes hgoes) hnext
      rwa [← List.foldl_append] at hlater
  exact hrun _ [] (shaped_start locale) .fresh rfl

end DeviceStatus.Device
