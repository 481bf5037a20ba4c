import DeviceStatus.Clock.Patterns

/-!
# The pattern cache along a history

A generator of patterns may answer the same question differently each time. A history keeps, for
every key that was looked up, what the generator was asked and what came out. Between two look-ups
the cache holds what the last one gave (`PatternCache.Holds`), so the generator is asked exactly
where the key is another one than before, and never otherwise.
-/

namespace DeviceStatus.Clock

variable {γ : Type}

/-- A generator of patterns, with a state on which its answers may depend. -/
abbrev Generator (γ : Type) := String → String → StateM γ String

/-- A question to a generator and the answer to it. -/
structure Exchange where
  locale : String
  skeleton : String
  answer : String
deriving DecidableEq, Repr

/-- A generator that also keeps its exchanges, oldest first. -/
def Generator.noted (best : Generator γ) (locale skeleton : String) :
    StateM (γ × List Exchange) String := do
  let (state, exchanges) ← get
  let (answer, state) := (best locale skeleton).run state
  set (state, exchanges ++ [⟨locale, skeleton, answer⟩])
  pure answer

/-- What happened when a key was looked up. -/
structure LookUp where
  key : PatternKey
  /-- What was asked of the generator. -/
  exchanges : List Exchange
  patterns : Patterns
  /-- The patterns that the cache holds from then on. -/
  cached : Option Patterns
deriving DecidableEq, Repr

/-- Looks up a key in a cache, with the generator in a state. -/
def PatternCache.lookUp (cache : PatternCache) (best : Generator γ) (state : γ) (key : PatternKey) :
    LookUp × PatternCache × γ :=
  let ((patterns, cache), (state, exchanges)) := (cache.resolve best.noted key).run (state, [])
  (⟨key, exchanges, patterns, cache.patterns?⟩, cache, state)

/-- Looks up keys one after another. -/
def PatternCache.history (cache : PatternCache) (best : Generator γ) (state : γ) :
    List PatternKey → List LookUp
  | [] => []
  | key :: keys =>
    let (lookUp, cache, state) := cache.lookUp best state key
    lookUp :: cache.history best state keys

/-- What is to be asked for a key, after a look-up of the key before. -/
def PatternKey.questions (key : PatternKey) (before : Option PatternKey) : List (String × String) :=
  if before = some key then [] else [(key.locale, key.skeleton12), (key.locale, key.skeleton24)]

/-- The last look-up of a history at which the generator was asked. -/
def lastAsked (history : List LookUp) : Option LookUp := history.findRev? (!·.exchanges.isEmpty)

/-- The generator was asked for both patterns of a key, and its answers make these patterns. -/
def LookUp.Makes (l : LookUp) (patterns : Patterns) : Prop :=
  ∃ answer12 answer24,
    l.exchanges = [⟨l.key.locale, l.key.skeleton12, answer12⟩,
      ⟨l.key.locale, l.key.skeleton24, answer24⟩] ∧
    patterns = ⟨asked12 l.key.skeleton12 answer12, answer24⟩

/-- A look-up as it is to be after a history. -/
structure LookUp.Follows (l : LookUp) (earlier : List LookUp) : Prop where
  /-- The generator was asked nothing else and nothing more. -/
  asked : l.exchanges.map (fun e => (e.locale, e.skeleton)) =
    l.key.questions (earlier.getLast?.map (·.key))
  /-- The patterns are those of the answers that were given last, and these were for the key. -/
  patterns : ∃ source, lastAsked (earlier ++ [l]) = some source ∧ source.key = l.key ∧
    source.Makes l.patterns
  cached : l.cached = some l.patterns

/-! ## One look-up -/

variable {cache : PatternCache} {best : Generator γ} {key : PatternKey} {history : List LookUp}

theorem lookUp_of_same {patterns : Patterns} (h : cache.entry = some (key, patterns)) (state : γ) :
    cache.lookUp best state key = (⟨key, [], patterns, some patterns⟩, cache, state) := by
  obtain ⟨entry⟩ := cache
  obtain rfl : entry = some (key, patterns) := h
  have hresolve : PatternCache.resolve best.noted ⟨some (key, patterns)⟩ key =
      pure (patterns, ⟨some (key, patterns)⟩) := by
    simp [PatternCache.resolve]
  rw [PatternCache.lookUp, hresolve]
  rfl

/-- For a key other than that of the cache, the patterns are computed and remembered. -/
theorem PatternCache.resolve_of_other {m : Type → Type} [Monad m]
    (best : String → String → m String) (h : ∀ patterns, cache.entry ≠ some (key, patterns)) :
    cache.resolve best key = (do
      let patterns ← Patterns.compute best key
      pure (patterns, ⟨some (key, patterns)⟩)) := by
  unfold PatternCache.resolve
  dsimp only
  split
  · next last patterns hentry =>
    have hne : last ≠ key := by
      rintro rfl
      exact h patterns hentry
    rw [if_neg hne]
  · rfl

theorem lookUp_of_other (best : Generator γ) (h : ∀ patterns, cache.entry ≠ some (key, patterns))
    (state : γ) :
    ∃ answer12 answer24 middle last,
      (best key.locale key.skeleton12).run state = (answer12, middle) ∧
      (best key.locale key.skeleton24).run middle = (answer24, last) ∧
      cache.lookUp best state key =
        (⟨key, [⟨key.locale, key.skeleton12, answer12⟩, ⟨key.locale, key.skeleton24, answer24⟩],
          ⟨asked12 key.skeleton12 answer12, answer24⟩,
          some ⟨asked12 key.skeleton12 answer12, answer24⟩⟩,
        ⟨some (key, ⟨asked12 key.skeleton12 answer12, answer24⟩)⟩, last) := by
  refine ⟨_, _, _, _, rfl, rfl, ?_⟩
  rw [PatternCache.lookUp, cache.resolve_of_other best.noted h]
  rfl

theorem lastAsked_concat (history : List LookUp) (l : LookUp) :
    lastAsked (history ++ [l]) = if l.exchanges.isEmpty then lastAsked history else some l := by
  cases hempty : l.exchanges.isEmpty <;> simp [lastAsked, List.findRev?_eq_find?_reverse, hempty]

/-- A cache holds what the last look-up of a history gave. -/
structure PatternCache.Holds (cache : PatternCache) (history : List LookUp) : Prop where
  entry : cache.entry = history.getLast?.map fun l => (l.key, l.patterns)
  source : ∀ l, history.getLast? = some l →
    ∃ source, lastAsked history = some source ∧ source.key = l.key ∧ source.Makes l.patterns

theorem PatternCache.holds_nil : PatternCache.Holds {} [] where
  entry := rfl
  source := by simp

theorem PatternCache.holds_concat {l : LookUp} (hentry : cache.entry = some (l.key, l.patterns))
    (hsource : ∃ source, lastAsked (history ++ [l]) = some source ∧ source.key = l.key ∧
      source.Makes l.patterns) :
    cache.Holds (history ++ [l]) where
  entry := by simpa using hentry
  source := by
    intro l' hl'
    obtain rfl : l = l' := by simpa using hl'
    exact hsource

/-- The look-up after a history follows it, and the cache holds what it gave. -/
theorem PatternCache.Holds.lookUp (h : cache.Holds history) (best : Generator γ) (state : γ)
    (key : PatternKey) :
    (cache.lookUp best state key).1.key = key ∧
      (cache.lookUp best state key).1.Follows history ∧
      (cache.lookUp best state key).2.1.Holds (history ++ [(cache.lookUp best state key).1]) := by
  by_cases hsame : history.getLast?.map (·.key) = some key
  · obtain ⟨last, hlast, rfl⟩ := Option.map_eq_some_iff.1 hsame
    have hentry : cache.entry = some (last.key, last.patterns) := by
      rw [h.entry, hlast, Option.map_some]
    rw [lookUp_of_same hentry]
    -- nothing is asked, so the patterns have the source that they had before
    have hsource : ∃ source, lastAsked (history ++ [⟨last.key, [], last.patterns,
        some last.patterns⟩]) = some source ∧ source.key = last.key ∧
        source.Makes last.patterns := by
      rw [lastAsked_concat]
      exact h.source last hlast
    refine ⟨rfl, ⟨?_, hsource, rfl⟩, PatternCache.holds_concat hentry hsource⟩
    rw [PatternKey.questions, if_pos hsame]
    rfl
  · have hother : ∀ patterns, cache.entry ≠ some (key, patterns) := by
      intro patterns hentry
      rw [h.entry] at hentry
      obtain ⟨last, hlast, heq⟩ := Option.map_eq_some_iff.1 hentry
      obtain ⟨rfl, rfl⟩ := Prod.mk.inj heq
      exact hsame (by rw [hlast, Option.map_some])
    obtain ⟨answer12, answer24, middle, last, -, -, hlookUp⟩ := lookUp_of_other best hother state
    rw [hlookUp]
    refine ⟨rfl, ⟨?_, ?_, rfl⟩, PatternCache.holds_concat rfl ?_⟩
    · rw [PatternKey.questions, if_neg hsame]
      rfl
    all_goals
      refine ⟨_, by rw [lastAsked_concat]; rfl, rfl, answer12, answer24, rfl, rfl⟩

/-! ## Histories -/

theorem PatternCache.keys_history (cache : PatternCache) (state : γ) (keys : List PatternKey) :
    (cache.history best state keys).map (·.key) = keys := by
  induction keys generalizing cache state with
  | nil => rfl
  | cons key keys ih =>
    have hkey : (cache.lookUp best state key).1.key = key := rfl
    simp [PatternCache.history, ih, hkey]

theorem PatternCache.Holds.follows {before : List LookUp} (h : cache.Holds before) (state : γ)
    (keys : List PatternKey) {earlier later : List LookUp} {l : LookUp}
    (hsplit : cache.history best state keys = earlier ++ l :: later) :
    l.Follows (before ++ earlier) := by
  induction keys generalizing cache before state earlier with
  | nil => simp [PatternCache.history] at hsplit
  | cons key keys ih =>
    obtain ⟨-, hfollows, hholds⟩ := h.lookUp best state key
    rw [PatternCache.history] at hsplit
    cases earlier with
    | nil =>
      obtain ⟨rfl, -⟩ := List.cons.inj hsplit
      rw [List.append_nil]
      exact hfollows
    | cons first earlier =>
      obtain ⟨rfl, hrest⟩ := List.cons.inj hsplit
      have hlater := ih hholds _ hrest
      rwa [List.append_assoc] at hlater

/-- The patterns for a key from a generator that always gives the same answers. -/
def Patterns.of (best : String → String → String) (key : PatternKey) : Patterns :=
  Id.run (Patterns.compute (fun locale skeleton => pure (best locale skeleton)) key)

section Steady

variable {answer : String → String → String}
  (hbest : ∀ locale skeleton, best locale skeleton = pure (answer locale skeleton))

include hbest

theorem answer_of_lookUp (cache : PatternCache) (state : γ) (key : PatternKey) :
    ∀ e ∈ (cache.lookUp best state key).1.exchanges, e.answer = answer e.locale e.skeleton := by
  by_cases hsame : ∃ patterns, cache.entry = some (key, patterns)
  · obtain ⟨patterns, hentry⟩ := hsame
    rw [lookUp_of_same hentry]
    simp
  · have hother : ∀ patterns, cache.entry ≠ some (key, patterns) := fun patterns hentry =>
      hsame ⟨patterns, hentry⟩
    obtain ⟨answer12, answer24, middle, last, h12, h24, hlookUp⟩ :=
      lookUp_of_other best hother state
    rw [hbest] at h12 h24
    obtain ⟨rfl, -⟩ := Prod.mk.inj h12
    obtain ⟨rfl, -⟩ := Prod.mk.inj h24
    rw [hlookUp]
    simp

theorem answer_of_history (cache : PatternCache) (state : γ) (keys : List PatternKey) :
    ∀ l ∈ cache.history best state keys, ∀ e ∈ l.exchanges,
      e.answer = answer e.locale e.skeleton := by
  induction keys generalizing cache state with
  | nil => simp [PatternCache.history]
  | cons key keys ih =>
    rw [PatternCache.history]
    exact List.forall_mem_cons.2 ⟨answer_of_lookUp hbest cache state key, ih _ _⟩

end Steady

theorem mem_of_lastAsked {source : LookUp} (h : lastAsked history = some source) :
    source ∈ history := by
  rw [lastAsked, List.findRev?_eq_find?_reverse] at h
  exact List.mem_reverse.1 (List.mem_of_find?_eq_some h)

/-- A cache is transparent and asks no more than it must. Whatever keys are looked up on a new
cache, and however the generator answers, it is asked for the two patterns of a key exactly if the
key before was another one, or there was none; the patterns that come out, and that the cache holds
from then on, are those of the answers that were given last. So a generator that always gives the
same answers might as well be asked each time. -/
theorem asked_where_key_changes (best : Generator γ) (state : γ) (keys : List PatternKey) :
    let history := PatternCache.history {} best state keys
    history.map (·.key) = keys ∧
      (∀ earlier l later, history = earlier ++ l :: later → l.Follows earlier) ∧
      ∀ answer : String → String → String,
        (∀ locale skeleton, best locale skeleton = pure (answer locale skeleton)) →
        ∀ l ∈ history, l.patterns = Patterns.of answer l.key := by
  intro history
  have hfollows : ∀ earlier l later, history = earlier ++ l :: later → l.Follows earlier :=
    fun earlier l later hsplit => PatternCache.holds_nil.follows state keys hsplit
  refine ⟨PatternCache.keys_history {} state keys, hfollows, ?_⟩
  intro answer hbest l hl
  obtain ⟨earlier, later, hsplit⟩ := List.append_of_mem hl
  obtain ⟨source, hsource, hkey, answer12, answer24, hexchanges, hpatterns⟩ :=
    (hfollows earlier l later hsplit).patterns
  have hmem : source ∈ history := by
    rw [hsplit, ← List.singleton_append, ← List.append_assoc]
    exact List.mem_append_left later (mem_of_lastAsked hsource)
  have hanswers := answer_of_history hbest {} state keys source hmem
  rw [hexchanges] at hanswers
  have h12 : answer12 = answer source.key.locale source.key.skeleton12 := hanswers _ (.head _)
  have h24 : answer24 = answer source.key.locale source.key.skeleton24 :=
    hanswers _ (.tail _ (.head _))
  rw [hpatterns, h12, h24, hkey]
  rfl

/-! ## There and back -/

/-- A generator that gives other answers from the third on. -/
def fickle : Generator Nat := fun _ skeleton => do
  let asked ← get
  set (asked + 1)
  pure (if asked < 2 then skeleton else skeleton ++ "!")

/-- The keys of two languages, the first one twice and once more after the other. -/
def thereAndBack : List PatternKey :=
  [⟨"en", "hm", "Hm"⟩, ⟨"en", "hm", "Hm"⟩, ⟨"de", "hm", "Hm"⟩, ⟨"en", "hm", "Hm"⟩]

/-- The second look-up gives the patterns of the first again, and after the other language the
generator is asked again. -/
theorem asked_where_key_changes_there_and_back :
    (∃ first second third last,
      PatternCache.history {} fickle 0 thereAndBack = [first, second, third, last] ∧
      second.Follows [first] ∧ second.exchanges = [] ∧ second.patterns = ⟨"hm", "Hm"⟩ ∧
      last.Follows [first, second, third] ∧ last.patterns = ⟨"hm!", "Hm!"⟩) ∧
    ∀ l ∈ PatternCache.history {} (fun _ skeleton => pure skeleton : Generator Unit) ()
        thereAndBack,
      l.patterns = Patterns.of (fun _ skeleton => skeleton) l.key := by
  obtain ⟨-, hfollows, -⟩ := asked_where_key_changes fickle 0 thereAndBack
  obtain ⟨-, -, hsteady⟩ := asked_where_key_changes
    (fun _ skeleton => pure skeleton : Generator Unit) () thereAndBack
  refine ⟨⟨_, _, _, _, rfl, hfollows [_] _ [_, _] rfl, ?_, ?_, hfollows [_, _, _] _ [] rfl, ?_⟩,
    hsteady (fun _ skeleton => skeleton) fun _ _ => rfl⟩
  all_goals decide +kernel

end DeviceStatus.Clock
