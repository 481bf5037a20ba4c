import DeviceStatus.Settings.Table

/-!
# Settings

The settings that the appearance of the lock screen depends on, where each is stored, and what it is
when it is not. A snapshot is a fixed set of stored values that all users share.
-/

namespace DeviceStatus.Settings

/-- The part of the store that a setting belongs to. -/
inductive Namespace where
  /-- Settings that applications may not change. -/
  | secure
  /-- All other settings. -/
  | system
deriving DecidableEq, Repr

/-- A setting. -/
structure Setting where
  /-- Where it is stored. -/
  area : Namespace
  /-- The key under which it is stored. -/
  key : String
  /-- Its value when nothing is stored. -/
  default : Int32
deriving DecidableEq, Repr

namespace Setting

/-- Which clock is shown. -/
def clock : Setting := ⟨.secure, "lockscreen_clock_selection", 2⟩

/-- How the date looks. -/
def date : Setting := ⟨.secure, "lockscreen_date_selection", 0⟩

/-- How the clock in words is aligned. -/
def textClockAlignment : Setting := ⟨.system, "text_clock_alignment", 0⟩

/-- The typeface of the date. -/
def dateFont : Setting := ⟨.system, "lock_date_fonts", 28⟩

/-- The typeface of the owner information. -/
def ownerInfoFont : Setting := ⟨.system, "lock_ownerinfo_fonts", 28⟩

/-- The size of the owner information. -/
def ownerInfoSize : Setting := ⟨.system, "lockowner_font_size", 18⟩

/-- All settings. -/
def all : List Setting := [clock, date, textClockAlignment, dateFont, ownerInfoFont, ownerInfoSize]

/-- The value of a setting, given what is stored for it. -/
def orDefault (s : Setting) (stored : Option Int32) : Int32 := stored.getD s.default

end Setting

/-- A store of settings: the value for a part of the store, a key and a user. -/
abbrev Provider := Namespace → String → Int32 → Option Int32

/-- The value of a setting for a user. -/
def Provider.read (provider : Provider) (s : Setting) (user : Int32) : Int32 :=
  s.orDefault (provider s.area s.key user)

/-- Stored values that all users share. -/
structure Snapshot where
  /-- The values of one part of the store. -/
  secure : Table := .empty
  /-- The values of the other. -/
  system : Table := .empty
deriving DecidableEq

namespace Snapshot

instance : Inhabited Snapshot := ⟨{}⟩

/-- The values of a part of the store. -/
def table (s : Snapshot) : Namespace → Table
  | .secure => s.secure
  | .system => s.system

/-- The snapshot with another table in a part of the store. -/
def setTable (s : Snapshot) (area : Namespace) (t : Table) : Snapshot :=
  match area with
  | .secure => { s with secure := t }
  | .system => { s with system := t }

/-- The snapshot with a setting stored. -/
def set (s : Snapshot) (setting : Setting) (value : Int32) : Snapshot :=
  s.setTable setting.area ((s.table setting.area).insert setting.key value)

/-- A snapshot as a store: every user has the same values. -/
def provider (s : Snapshot) : Provider := fun area key _ => (s.table area).get? key

end Snapshot

end DeviceStatus.Settings
