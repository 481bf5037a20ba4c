import DeviceStatus.Clock.Format
import DeviceStatus.Text.Blank

/-!
# Clock patterns

The pattern that suits a locale is asked of a generator, by the fields it should have (its
skeleton). Generators add a marker for the half of the day to patterns with 12 hours, asked or not,
so it is taken out again where the skeleton has none.

The cache keeps the patterns of the last locale and skeletons. It works in any monad, in which the
generator may have effects of its own, so that what is asked of the generator can be observed.
-/

namespace DeviceStatus.Clock

/-- The letter of the marker for the half of the day. -/
def dayHalfMarker : Char := 'a'

/-- A pattern without the marker for the half of the day, and without white space at its ends. -/
def withoutDayHalf (pattern : String) : String :=
  Text.trim (String.ofList (pattern.toList.filter (· ≠ dayHalfMarker)))

/-- The 12 hour pattern as it is used, given the skeleton it was asked with. -/
def asked12 (skeleton pattern : String) : String :=
  if skeleton.toList.contains dayHalfMarker then pattern else withoutDayHalf pattern

/-- What patterns are asked for. -/
structure PatternKey where
  /-- The locale. -/
  locale : String
  /-- The fields with 12 hours. -/
  skeleton12 : String
  /-- The fields with 24 hours. -/
  skeleton24 : String
deriving DecidableEq, Repr

/-- The patterns for a key, from a generator that answers a locale and a skeleton. -/
def Patterns.compute {m : Type → Type} [Monad m] (best : String → String → m String)
    (key : PatternKey) : m Patterns := do
  let pattern12 ← best key.locale key.skeleton12
  let pattern24 ← best key.locale key.skeleton24
  pure ⟨asked12 key.skeleton12 pattern12, pattern24⟩

/-- The patterns last computed, with their key. -/
structure PatternCache where
  /-- The last computation, if there was any. -/
  entry : Option (PatternKey × Patterns) := none
deriving DecidableEq, Repr

/-- The patterns last computed. -/
def PatternCache.patterns? (cache : PatternCache) : Option Patterns := cache.entry.map (·.2)

/-- The patterns for a key and the cache that remembers them; the generator is asked only if the
last key was another one. -/
def PatternCache.resolve {m : Type → Type} [Monad m] (best : String → String → m String)
    (cache : PatternCache) (key : PatternKey) : m (Patterns × PatternCache) :=
  let compute := do
    let patterns ← Patterns.compute best key
    pure (patterns, ⟨some (key, patterns)⟩)
  match cache.entry with
  | some (last, patterns) => if last = key then pure (patterns, cache) else compute
  | none => compute

/-- A letter for the hour: with 12 or 24 hours, from 0 or from 1. -/
def isHour (c : Char) : Bool := c = 'h' || c = 'H' || c = 'k' || c = 'K'

/-- How the hour of a skeleton is written in a pattern. -/
def hourPattern : Option Char → String
  | some 'h' => "h"
  | some 'K' => "K"
  | some 'H' => "HH"
  | some 'k' => "kk"
  | _ => ""

/-- The pattern for a skeleton where no locale is known: hour, minute and, with 12 hours, the
marker for the half of the day. -/
def skeletonPattern (skeleton : String) : String :=
  let hour := skeleton.toList.find? isHour
  let hourPart := hourPattern hour
  let minutePart :=
    if skeleton.toList.contains 'm' then (if hourPart.isEmpty then "mm" else ":mm") else ""
  let marker := if hour = some 'h' ∨ hour = some 'K' then " a" else ""
  hourPart ++ minutePart ++ marker

end DeviceStatus.Clock
