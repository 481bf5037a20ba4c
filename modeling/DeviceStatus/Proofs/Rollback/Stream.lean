import DeviceStatus.Proofs.Rollback.Records

/-!
# Streams of fields are read back

A parcel does not say which fields it holds, so a reader that takes one octet too many or too few
would misread everything behind. That does not happen to a stream whose fields are read in the order
in which they were written: each item is read back from its own octets, whatever stands behind them
(`Item.at_octets`), and by induction a whole stream is (`at_readStream`).
-/

namespace DeviceStatus.Rollback

open Parcel

/-- No text and no list in an item is longer than a prefix can announce. -/
def Item.WithinLimits : Item → Prop
  | .int32 _ | .int64 _ | .bool _ => True
  | .text v => ∀ text ∈ v, FitsText text
  | .ints v => FitsList v
  | .plain _ v | .object _ v => Spelled.WithinLimits v
  | .list _ v => FitsList v ∧ ∀ a ∈ v, Spelled.WithinLimits a

/-- Writes items one after another. -/
def writeStream (items : List Item) (b : Buffer) : Buffer := items.foldl (fun b i => i.write b) b

/-- One reading of a stream. -/
structure Reading where
  /-- What was to be read. -/
  field : Field
  /-- What was read. -/
  result : Except Fault field.Value
  /-- The place reached. -/
  place : Cursor

/-- Reads fields one after another, and goes on after a fault. -/
def readStream (check : SizeCheck) : List Field → Cursor → List Reading × Cursor
  | [], c => ([], c)
  | f :: fs, c =>
    let (result, c) := (f.read check).at c
    let (others, last) := readStream check fs c
    (⟨f, result, c⟩ :: others, last)

/-- The octets of items one behind another. -/
def streamOctets (items : List Item) : List UInt8 := items.flatMap Item.octets

variable (check : SizeCheck)

@[simp] theorem streamOctets_nil : streamOctets [] = [] := rfl

@[simp] theorem streamOctets_cons (i : Item) (items : List Item) :
    streamOctets (i :: items) = i.octets ++ streamOctets items := rfl

/-- A stream without its first items begins where these end. -/
theorem drop_streamOctets (items : List Item) (n : Nat) :
    (streamOctets items).drop (streamOctets (items.take n)).length =
      streamOctets (items.drop n) := by
  have hsplit : streamOctets items =
      streamOctets (items.take n) ++ streamOctets (items.drop n) := by
    rw [streamOctets, streamOctets, streamOctets, ← List.flatMap_append, List.take_append_drop]
  rw [hsplit, List.drop_left]

theorem octets_writeStream (items : List Item) (b : Buffer) :
    (writeStream items b).octets = b.octets ++ streamOctets items := by
  induction items generalizing b with
  | nil => simp [writeStream]
  | cons i items ih =>
    have hrest := ih (i.write b)
    rw [streamOctets_cons, ← List.append_assoc]
    exact hrest

theorem size_writeStream (items : List Item) (b : Buffer) :
    (writeStream items b).size = b.size + (streamOctets items).length := by
  rw [Buffer.size, octets_writeStream, List.length_append, Buffer.size]

/-- An item is read back from its octets as its own field, whatever stands behind them. -/
theorem Item.at_octets {i : Item} (h : i.WithinLimits) (position : Nat) (rest : List UInt8) :
    (i.field.read check).at ⟨position, i.octets ++ rest⟩ =
      (.ok i.value, ⟨position + i.octets.length, rest⟩) := by
  cases i with
  | int32 v => exact recognizes_readInt32.complete trivial ⟨rfl, rfl⟩ position rest
  | int64 v => exact recognizes_readInt64.complete trivial ⟨rfl, rfl⟩ position rest
  | bool v => exact recognizes_readBool.complete trivial ⟨rfl, rfl⟩ position rest
  | text v => exact (recognizes_readText? check).complete h ⟨rfl, rfl⟩ position rest
  | ints v =>
    exact (recognizes_readInts check).complete h (Spelling.around_ints v).plain position rest
  | plain t v =>
    exact (LawfulRecord.recognizes check).complete h (LawfulRecord.around v).plain position rest
  | object t v =>
    have hobject := recognizes_readObject? (LawfulRecord.recognizes (α := t.Value) check)
    have hv : ∀ a ∈ some v, Spelled.WithinLimits a := by
      rintro a ⟨⟩
      exact h
    exact hobject.complete hv (LawfulRecord.around v).object.plain position rest
  | list t v =>
    have hlist := recognizes_readList check (LawfulRecord.recognizes (α := t.Value) check)
    exact hlist.complete h (Spelling.around_list LawfulRecord.around v).plain position rest

/-- Reading a stream goes from item to item, and the place after each is the end of its octets. -/
theorem at_readStream {items : List Item} (h : ∀ i ∈ items, i.WithinLimits) (position : Nat)
    (rest : List UInt8) :
    readStream check (items.map Item.field) ⟨position, streamOctets items ++ rest⟩ =
      (items.mapIdx fun n i => ⟨i.field, .ok i.value,
          ⟨position + (streamOctets (items.take (n + 1))).length,
            streamOctets (items.drop (n + 1)) ++ rest⟩⟩,
        ⟨position + (streamOctets items).length, rest⟩) := by
  induction items generalizing position with
  | nil => rfl
  | cons i items ih =>
    obtain ⟨hi, hitems⟩ := List.forall_mem_cons.1 h
    have hread := Item.at_octets check hi position (streamOctets items ++ rest)
    have hothers := ih hitems (position + i.octets.length)
    simp [readStream, List.mapIdx_cons, hread, hothers, Nat.add_assoc]

/-- Each write appends the octets of its item, whatever the parcel holds. A reader of the octets
that a stream has appended gets every item back, stands behind each where its write ended, and is at
the end after the last. -/
theorem read_back_what_was_written (b : Buffer) (items : List Item)
    (h : ∀ i ∈ items, i.WithinLimits) :
    let written := (writeStream items b).octets.drop b.size
    let ends n := .over written ((writeStream (items.take n) b).size - b.size)
    (∀ i before, (Item.write i before).octets = before.octets ++ i.octets) ∧
      (writeStream items b).octets = b.octets ++ written ∧
      readStream check (items.map Item.field) (.over written 0) =
        (items.mapIdx fun n i => ⟨i.field, .ok i.value, ends (n + 1)⟩, ends items.length) ∧
      (readEnd.at (ends items.length)).1 = .ok () := by
  intro written ends
  have hwritten : written = streamOctets items := by
    simp only [written, octets_writeStream, Buffer.size, List.drop_left]
  have hends : ∀ n, ends n =
      ⟨(streamOctets (items.take n)).length, streamOctets (items.drop n)⟩ := by
    intro n
    simp only [ends, hwritten, size_writeStream, Nat.add_sub_cancel_left, Cursor.over,
      drop_streamOctets]
  have hlast : ends items.length = ⟨(streamOctets items).length, []⟩ := by
    rw [hends, List.take_length, List.drop_length, streamOctets_nil]
  refine ⟨fun _ _ => rfl, ?_, ?_, ?_⟩
  · rw [hwritten, octets_writeStream]
  · have hread := at_readStream check h 0 []
    simp only [List.append_nil, Nat.zero_add] at hread
    rw [hlast, hwritten, Cursor.over, List.drop_zero, hread]
    simp only [hends]
  · rw [hlast, (at_readEnd_eq_ok_iff (u := ())).2 ⟨rfl, rfl⟩]

/-- Missing and empty texts, empty lists, present objects and nested records are told apart, behind
octets of another origin. -/
theorem read_back_what_was_written_mixed :
    let package : PackageRollback :=
      { source := ⟨"é", -2⟩, target := ⟨"", 1⟩, pendingRestores := [⟨10, -1, "s0"⟩] }
    let items : List Item :=
      [.text none, .text (some ""), .ints [], .object .versionedPackage ⟨"é", -2⟩, .int32 (-1),
        .list .packageRollback [package, package], .bool false, .list .restore [],
        .plain .packageRollback package, .int64 7]
    let b : Buffer := ⟨[255, 0, 1]⟩
    let written := (writeStream items b).octets.drop b.size
    let ends n := .over written ((writeStream (items.take n) b).size - b.size)
    (∀ i ∈ items, i.WithinLimits) ∧
      (∀ i before, (Item.write i before).octets = before.octets ++ i.octets) ∧
      (writeStream items b).octets = b.octets ++ written ∧
      readStream .standard (items.map Item.field) (.over written 0) =
        (items.mapIdx fun n i => ⟨i.field, .ok i.value, ends (n + 1)⟩, ends items.length) ∧
      (readEnd.at (ends items.length)).1 = .ok () := by
  intro package items b written ends
  have hrestore : ∀ r ∈ package.pendingRestores, Spelled.WithinLimits r := by
    intro r hr
    rw [List.mem_singleton.1 hr]
    show FitsText "s0"
    decide
  have hpackage : Spelled.WithinLimits package :=
    ⟨show FitsText "é" by decide, show FitsText "" by decide, by decide, ⟨by decide, hrestore⟩,
      by decide⟩
  have hversion : Spelled.WithinLimits (⟨"é", -2⟩ : VersionedPackage) :=
    show FitsText "é" by decide
  have hitems : ∀ i ∈ items, i.WithinLimits := by
    simp only [items, List.forall_mem_cons, Item.WithinLimits]
    refine ⟨by simp, ?_, by decide, hversion, trivial, ⟨?_, ?_⟩, trivial, ⟨by decide, by simp⟩,
      hpackage, trivial, by simp⟩
    · rintro text ⟨⟩
      decide
    · decide
    · simpa using hpackage
  exact ⟨hitems, read_back_what_was_written .standard b items hitems⟩

end DeviceStatus.Rollback
