import DeviceStatus.Proofs.Clock.Patterns
import Mathlib.Data.List.DropRight

/-!
# The marker for the half of the day

What is left of a pattern with 12 hours when its markers are taken out: everything else, but for
white space on either side. The markers go first, as there may be white space behind them that only
then comes to an end of the pattern.
-/

namespace DeviceStatus.Text

theorem toList_trim (text : String) :
    (trim text).toList = (text.toList.dropWhile isBlank).rdropWhile isBlank :=
  String.toList_ofList

theorem isBlank_of_head?_trim {text : String} {c : Char} (h : (trim text).toList.head? = some c) :
    isBlank c = false := by
  rw [toList_trim] at h
  -- what is cut off at the end leaves the first character where it is
  have hhead : (text.toList.dropWhile isBlank).head? = some c := by
    obtain ⟨cut, hcut⟩ := List.rdropWhile_prefix isBlank (text.toList.dropWhile isBlank)
    rw [← hcut, List.head?_append, h]
    rfl
  have hne : text.toList.dropWhile isBlank ≠ [] := by
    rintro hnil
    simp [hnil] at hhead
  have hfirst := List.head_dropWhile_not isBlank hne
  rwa [List.head_eq_iff_head?_eq_some hne |>.2 hhead] at hfirst

theorem isBlank_of_getLast?_trim {text : String} {c : Char}
    (h : (trim text).toList.getLast? = some c) : isBlank c = false := by
  rw [toList_trim] at h
  obtain ⟨hne, rfl⟩ := List.mem_getLast?_eq_getLast h
  simpa using List.rdropWhile_last_not isBlank _ hne

/-- Only white space is cut off. -/
theorem trim_surrounded (text : String) :
    ∃ before after, (∀ c ∈ before ++ after, isBlank c) ∧
      text.toList = before ++ (trim text).toList ++ after := by
  refine ⟨text.toList.takeWhile isBlank, (text.toList.dropWhile isBlank).rtakeWhile isBlank, ?_, ?_⟩
  · intro c hc
    rcases List.mem_append.1 hc with hc | hc
    · exact List.mem_takeWhile_imp hc
    · exact List.mem_rtakeWhile_imp hc
  · rw [toList_trim, List.append_assoc, List.rdropWhile_append_rtakeWhile,
      List.takeWhile_append_dropWhile]

/-- A text without white space at its ends stays as it is. -/
theorem trim_eq_self {text : String} (hstart : ∀ c ∈ text.toList.head?, isBlank c = false)
    (hstop : ∀ c ∈ text.toList.getLast?, isBlank c = false) : trim text = text := by
  have hleft : text.toList.dropWhile isBlank = text.toList := by
    rw [List.dropWhile_eq_self_iff]
    intro hlength
    simpa using hstart _ (List.head?_eq_getElem? ▸ List.getElem?_eq_getElem hlength)
  have hright : text.toList.rdropWhile isBlank = text.toList := by
    rw [List.rdropWhile_eq_self_iff]
    intro hne
    simpa using hstop _ (List.getLast?_eq_some_getLast hne)
  rw [← String.toList_inj, toList_trim, hleft, hright]

end DeviceStatus.Text

namespace DeviceStatus.Clock

/-- What is left of a pattern without the marker for the half of the day. -/
structure Stripped (pattern stripped : String) : Prop where
  unmarked : dayHalfMarker ∉ stripped.toList
  /-- It does not start with white space. -/
  start : ∀ c ∈ stripped.toList.head?, Text.isBlank c = false
  /-- It does not end with white space. -/
  stop : ∀ c ∈ stripped.toList.getLast?, Text.isBlank c = false
  /-- Nothing is lost but the markers, and white space on either side of what is left. -/
  surrounded : ∃ before after, (∀ c ∈ before ++ after, Text.isBlank c) ∧
    pattern.toList.filter (· ≠ dayHalfMarker) = before ++ stripped.toList ++ after
  /-- There is nothing more to take out. -/
  again : withoutDayHalf stripped = stripped

theorem stripped_withoutDayHalf (pattern : String) : Stripped pattern (withoutDayHalf pattern) := by
  set unmarked := String.ofList (pattern.toList.filter (· ≠ dayHalfMarker)) with hunmarked
  have hstripped : withoutDayHalf pattern = Text.trim unmarked := rfl
  obtain ⟨before, after, hblank, hkept⟩ := Text.trim_surrounded unmarked
  rw [← hstripped, hunmarked, String.toList_ofList] at hkept
  have hmarker : dayHalfMarker ∉ (withoutDayHalf pattern).toList := by
    intro hmem
    have hmem : dayHalfMarker ∈ pattern.toList.filter (· ≠ dayHalfMarker) := by
      rw [hkept]
      exact List.mem_append_left after (List.mem_append_right before hmem)
    simp at hmem
  have hstart : ∀ c ∈ (withoutDayHalf pattern).toList.head?, Text.isBlank c = false :=
    fun c hc => Text.isBlank_of_head?_trim (hstripped ▸ hc)
  have hstop : ∀ c ∈ (withoutDayHalf pattern).toList.getLast?, Text.isBlank c = false :=
    fun c hc => Text.isBlank_of_getLast?_trim (hstripped ▸ hc)
  have hfilter : (withoutDayHalf pattern).toList.filter (· ≠ dayHalfMarker) =
      (withoutDayHalf pattern).toList := by
    rw [List.filter_eq_self]
    intro c hc
    simpa using fun heq : c = dayHalfMarker => hmarker (heq ▸ hc)
  refine ⟨hmarker, hstart, hstop, ⟨before, after, hblank, hkept⟩, ?_⟩
  rw [withoutDayHalf, hfilter, String.ofList_toList]
  exact Text.trim_eq_self hstart hstop

/-- The pattern with 24 hours is used as the generator gives it, and so is the one with 12 hours if
the marker for the half of the day was asked for. If it was not, it is taken out. -/
theorem stripped_unless_asked {γ : Type} (best : Generator γ) (cache : PatternCache) (state : γ)
    (key : PatternKey) (hnew : ∀ patterns, cache.entry ≠ some (key, patterns)) :
    ∃ answer12 answer24 middle last patterns,
      (best key.locale key.skeleton12).run state = (answer12, middle) ∧
      (best key.locale key.skeleton24).run middle = (answer24, last) ∧
      (cache.resolve best key).run state = ((patterns, ⟨some (key, patterns)⟩), last) ∧
      patterns.clock24 = answer24 ∧
      (dayHalfMarker ∈ key.skeleton12.toList → patterns.clock12 = answer12) ∧
      (dayHalfMarker ∉ key.skeleton12.toList → Stripped answer12 patterns.clock12) := by
  let first := (best key.locale key.skeleton12).run state
  let second := (best key.locale key.skeleton24).run first.2
  refine ⟨first.1, second.1, first.2, second.2, ⟨asked12 key.skeleton12 first.1, second.1⟩, rfl,
    rfl, ?_, rfl, ?_, ?_⟩
  · rw [cache.resolve_of_other best hnew]
    rfl
  · intro hasked
    exact if_pos (List.contains_iff_mem.2 hasked)
  · intro hasked
    have hasked12 : asked12 key.skeleton12 first.1 = withoutDayHalf first.1 :=
      if_neg (mt List.contains_iff_mem.1 hasked)
    dsimp only
    rw [hasked12]
    exact stripped_withoutDayHalf first.1

/-- A generator that writes the marker between blanks, with 24 hours too. -/
def wide : Generator Nat := fun _ skeleton => do
  modify (· + 1)
  pure (if skeleton.toList.contains 'H' then " H:mm a" else "\u3000a h:a mm\u202Faa ")

/-- White space that only came to an end with the markers taken out is cut off too, and white space
inside is not. -/
theorem stripped_unless_asked_wide :
    (∃ patterns, (PatternCache.resolve wide ⟨none⟩ ⟨"en", "hm", "Hm"⟩).run 0 =
        ((patterns, ⟨some (⟨"en", "hm", "Hm"⟩, patterns)⟩), 2) ∧
      patterns = ⟨"h: mm", " H:mm a"⟩ ∧ Stripped "\u3000a h:a mm\u202Faa " patterns.clock12) ∧
    ∃ patterns, (PatternCache.resolve wide ⟨none⟩ ⟨"en", "hma", "Hm"⟩).run 0 =
        ((patterns, ⟨some (⟨"en", "hma", "Hm"⟩, patterns)⟩), 2) ∧
      patterns.clock12 = "\u3000a h:a mm\u202Faa " := by
  constructor
  · obtain ⟨answer12, answer24, middle, last, patterns, h12, h24, hresolve, -, -, hstripped⟩ :=
      stripped_unless_asked wide ⟨none⟩ 0 ⟨"en", "hm", "Hm"⟩ (by simp)
    obtain ⟨rfl, rfl⟩ := Prod.mk.inj h12
    obtain ⟨rfl, rfl⟩ := Prod.mk.inj h24
    have hpatterns : patterns = ⟨"h: mm", " H:mm a"⟩ :=
      (congrArg (·.1.1) hresolve).symm.trans (by decide +kernel)
    exact ⟨patterns, hresolve, hpatterns, hstripped (by decide)⟩
  · obtain ⟨answer12, answer24, middle, last, patterns, h12, h24, hresolve, -, hasked, -⟩ :=
      stripped_unless_asked wide ⟨none⟩ 0 ⟨"en", "hma", "Hm"⟩ (by simp)
    obtain ⟨rfl, rfl⟩ := Prod.mk.inj h12
    obtain ⟨rfl, rfl⟩ := Prod.mk.inj h24
    exact ⟨patterns, hresolve, hasked (by decide)⟩

end DeviceStatus.Clock
