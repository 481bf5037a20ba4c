import DeviceStatus.Failure
import DeviceStatus.Json.Token
import DeviceStatus.Settings.Snapshot
import DeviceStatus.Tool.Outcome

/-!
# Loading a snapshot

A snapshot is stored as JSON: an object with a table of settings for each part of the store, or an
array of the two tables. Tables may be left out. Members with other names are passed over, whatever
they hold. A key may be repeated inside a table, and its last value counts; a table may not be
repeated.

The reader is an automaton that takes one token at a time, so the first token that does not fit
decides how a text fails, and a text that ends before the automaton is done is cut short.
-/

namespace DeviceStatus.Settings

open Json

/-- The tables read so far; one that has not been met is absent. -/
structure Draft where
  /-- The values of one part of the store. -/
  secure : Option Table := none
  /-- The values of the other. -/
  system : Option Table := none
deriving DecidableEq

namespace Draft

/-- The table of a part of the store, if it has been met. -/
def table? (d : Draft) : Namespace → Option Table
  | .secure => d.secure
  | .system => d.system

/-- The draft with a table that has been met. -/
def setTable (d : Draft) (area : Namespace) (t : Table) : Draft :=
  match area with
  | .secure => { d with secure := some t }
  | .system => { d with system := some t }

/-- The snapshot: a table that was left out is empty. -/
def snapshot (d : Draft) : Snapshot := ⟨d.secure.getD .empty, d.system.getD .empty⟩

end Draft

/-- How a text gives the two tables. -/
inductive Form where
  /-- By name, in an object. -/
  | object
  /-- By position, in an array. -/
  | array
deriving DecidableEq, Repr

/-- The part of the store whose table has a name. -/
def Namespace.ofName? (name : String) : Option Namespace :=
  if name = "secure" then some .secure else if name = "system" then some .system else none

/-- A bracket that has not been closed. -/
inductive Bracket where
  /-- Of an object. -/
  | object
  /-- Of an array. -/
  | array
deriving DecidableEq, Repr

/-- What comes next inside a value that is passed over. -/
inductive Passing where
  /-- A value. -/
  | value
  /-- The first value of an array, or its end. -/
  | firstValue
  /-- The first name of an object, or its end. -/
  | firstName
  /-- The name of a further member. -/
  | name
  /-- The colon behind a name. -/
  | colon
  /-- A comma or a closing bracket. -/
  | separator
deriving DecidableEq, Repr

/-- What comes next inside a table. -/
inductive InTable where
  /-- The first key, or the end of the table. -/
  | firstKey
  /-- A further key. -/
  | key
  /-- The colon behind a key. -/
  | colon (key : String)
  /-- The value of a key. -/
  | value (key : String)
  /-- A comma or the end of the table. -/
  | separator
deriving DecidableEq, Repr

/-- What the reader has read and expects. -/
inductive State where
  /-- Nothing has been read. -/
  | start
  /-- In the object: the first name, or the end. -/
  | firstName
  /-- In the object: a further name. -/
  | name (d : Draft)
  /-- In the object: the colon behind a name; a name without meaning is absent. -/
  | colon (d : Draft) (area : Option Namespace)
  /-- In the object: the value behind a name. -/
  | value (d : Draft) (area : Option Namespace)
  /-- In the array: the first table, or the end. -/
  | firstElement
  /-- In the array: the second table. -/
  | secondElement (d : Draft)
  /-- Behind a table or another value: a comma or the end. -/
  | separator (form : Form) (d : Draft)
  /-- Inside the table of a part of the store. -/
  | table (form : Form) (d : Draft) (area : Namespace) (t : Table) (next : InTable)
  /-- Inside a value that is passed over, under the brackets that are open. -/
  | passing (d : Draft) (opened : List Bracket) (next : Passing)
  /-- Everything has been read. -/
  | done (d : Draft)

namespace State

/-- Behind a value that is passed over: what encloses it goes on. -/
def passed (d : Draft) : List Bracket → State
  | [] => separator .object d
  | opened => passing d opened .separator

/-- Where a table is expected. -/
def beginTable (form : Form) (d : Draft) (area : Namespace) : Token → Except Fault State
  | .beginObject => .ok (table form d area .empty .firstKey)
  | token => .error token.mismatch

/-- Where a value that is passed over is expected. -/
def beginPassing (d : Draft) (opened : List Bracket) : Token → Except Fault State
  | .beginObject => .ok (passing d (.object :: opened) .firstName)
  | .beginArray => .ok (passing d (.array :: opened) .firstValue)
  | .text v => do v.skipped; pure (passed d opened)
  | .number v => do v.skipped; pure (passed d opened)
  | .word v => do v.skipped; pure (passed d opened)
  | _ => .error .malformed

/-- Inside a value that is passed over. -/
def nextPassing (d : Draft) (opened : List Bracket) :
    Passing → Token → Except Fault State
  | .value, token => beginPassing d opened token
  | .firstValue, .endArray => .ok (passed d opened.tail)
  | .firstValue, token => beginPassing d opened token
  | .firstName, .endObject => .ok (passed d opened.tail)
  | .firstName, .text v | .name, .text v => do v.skipped; pure (passing d opened .colon)
  | .colon, .colon => .ok (passing d opened .value)
  | .separator, token =>
    match opened.head?, token with
    | some .object, .endObject | some .array, .endArray => .ok (passed d opened.tail)
    | some .object, .comma => .ok (passing d opened .name)
    | some .array, .comma => .ok (passing d opened .value)
    | _, _ => .error .malformed
  | _, _ => .error .malformed

/-- Inside a table. -/
def nextInTable (form : Form) (d : Draft) (area : Namespace) (t : Table) :
    InTable → Token → Except Fault State
  | .firstKey, .endObject | .separator, .endObject => .ok (separator form (d.setTable area t))
  | .firstKey, .text v | .key, .text v => do
    let key ← v.kept
    pure (table form d area t (.colon key))
  | .colon key, .colon => .ok (table form d area t (.value key))
  | .value key, .number v => do
    let value ← v.kept
    pure (table form d area (t.insert key value) .separator)
  | .value _, token => .error token.mismatch
  | .separator, .comma => .ok (table form d area t .key)
  | _, _ => .error .malformed

/-- Behind the name of a member of the object: a part of the store may be named once. -/
def named (d : Draft) (name : String) : Except Fault State :=
  match Namespace.ofName? name with
  | none => .ok (colon d none)
  | some area =>
    match d.table? area with
    | none => .ok (colon d (some area))
    | some _ => .error .mismatched

/-- One token further. -/
def next : State → Token → Except Fault State
  | start, .beginObject => .ok firstName
  | start, .beginArray => .ok firstElement
  | start, token => .error token.mismatch
  | firstName, .endObject => .ok (done {})
  | firstName, .text v => do named {} (← v.kept)
  | name d, .text v => do named d (← v.kept)
  | colon d area, .colon => .ok (value d area)
  | value d (some area), token => beginTable .object d area token
  | value d none, token => beginPassing d [] token
  | firstElement, .endArray => .ok (done {})
  | firstElement, token => beginTable .array {} .secure token
  | secondElement d, token => beginTable .array d .system token
  | separator .object d, .endObject => .ok (done d)
  | separator .object d, .comma => .ok (name d)
  | separator .array d, .endArray => .ok (done d)
  | separator .array d, .comma =>
    if d.system.isSome then .error .malformed else .ok (secondElement d)
  | table form d area t inside, token => nextInTable form d area t inside token
  | passing d opened inside, token => nextPassing d opened inside token
  | _, _ => .error .malformed

/-- The snapshot, if everything has been read. -/
def result : State → Except Fault Snapshot
  | done d => .ok d.snapshot
  | _ => .error .cutShort

end State

/-- The snapshot that tokens spell. -/
def Snapshot.ofTokens (tokens : List Token) : Except Fault Snapshot := do
  (← tokens.foldlM State.next State.start).result

/-- The snapshot that a JSON text holds. -/
def Snapshot.ofJson (octets : List UInt8) : Except Fault Snapshot := ofTokens (tokens octets)

/-- Why a snapshot could not be loaded. -/
inductive LoadError where
  /-- The file cannot be opened, for a reason. -/
  | unopened (cause : String)
  /-- The file does not hold a snapshot. -/
  | unreadable (fault : Fault)
deriving DecidableEq, Repr

/-- What is said first of an error, for the file with a path. -/
def LoadError.headline (path : String) : LoadError → String
  | unopened _ => "Failed to open " ++ Text.quoted path
  | unreadable _ => "Failed to parse settings from " ++ Text.quoted path

/-- Loads the snapshot in a file with a reader of snapshots, given the octets of the file or why it
cannot be opened. -/
def Snapshot.loadWith (read : List UInt8 → Except Fault Snapshot)
    (content : Except String (List UInt8)) : Except LoadError Snapshot :=
  match content with
  | .error cause => .error (.unopened cause)
  | .ok octets =>
    match read octets with
    | .ok snapshot => .ok snapshot
    | .error fault => .error (.unreadable fault)

/-- Loads the snapshot in a file. -/
def Snapshot.load : Except String (List UInt8) → Except LoadError Snapshot := loadWith ofJson

end DeviceStatus.Settings
