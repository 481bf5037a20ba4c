import DeviceStatus.Alignment
import DeviceStatus.Clock.Format
import DeviceStatus.Date.Style
import DeviceStatus.Settings.Snapshot
import DeviceStatus.Typeface

/-!
# What the status view asks of its surroundings

The status view of the lock screen reads settings, resources and owner information, it drives the
widgets, the user manager and a timer, and it is told the state of the device. Each of these is a
request with an answer of its own type.

Requests are the only effects of the view, so a run of it is known by the requests that it makes and
the answers that it is given.
-/

namespace DeviceStatus.Lockscreen

/-- A question about the state of the device. -/
inductive Fact where
  /-- Whether the device is in use. -/
  | isInteractive
  /-- Whether users may log out. -/
  | isLogoutEnabled
  /-- The current user. -/
  | currentUser
deriving DecidableEq, Repr

/-- The answers to a question about the device. -/
abbrev Fact.Answer : Fact → Type
  | isInteractive => Bool
  | isLogoutEnabled => Bool
  | currentUser => Int32

/-- A question to what the view is shown in. -/
inductive Query where
  /-- The colour that the text of the clock has by itself. -/
  | clockTextColor
  /-- Whether the status area shows a header. -/
  | hasHeader
  /-- What is stored for a setting of a user. -/
  | setting (s : Settings.Setting) (user : Int32)
  /-- The size of a dimension, in pixels. -/
  | dimension (d : Dimension)
  /-- A text in the language of the device. -/
  | label (l : Label)
  /-- The light accent colour. -/
  | accent
  /-- The owner information of the owner of the device. -/
  | deviceOwnerInfo
  /-- Whether a user has switched the owner information on. -/
  | isOwnerInfoEnabled (user : Int32)
  /-- The owner information of a user. -/
  | ownerInfo (user : Int32)
  /-- The pattern that suits a skeleton in a locale. -/
  | bestPattern (locale skeleton : String)
deriving DecidableEq, Repr

/-- The answers to a question. -/
abbrev Query.Answer : Query → Type
  | clockTextColor => UInt32
  | hasHeader => Bool
  | setting .. => Option Int32
  | dimension _ => Int32
  | label _ => String
  | accent => UInt32
  | deviceOwnerInfo => Option String
  | isOwnerInfoEnabled _ => Bool
  | ownerInfo _ => Option String
  | bestPattern .. => String

/-- An order to the widgets or to the timer, which is carried out without an answer. -/
inductive Command where
  /-- A clock slot is shown or hidden. -/
  | slotVisible (slot : Clock.Slot) (isVisible : Bool)
  /-- The status area goes below a view. -/
  | anchor (anchor : Clock.Anchor)
  /-- The line spacing of the digital clock. -/
  | lineSpacing (multiplier : Float32)
  /-- The formats of the digital clock. -/
  | clockFormat (format : Clock.Format)
  /-- The digital clock is drawn again. -/
  | refreshClock
  /-- The clock in a slot is told that the time changed. -/
  | clockTimeChanged (slot : Clock.Slot)
  /-- The time zone of the clock. -/
  | timeZone (zone : String)
  /-- The clock reads the setting of its typeface. -/
  | refreshClockFont
  /-- The clock reads the setting of its size. -/
  | refreshClockSize
  /-- The date reads the setting of its size. -/
  | refreshDateSize
  /-- The alignment of the clock in words. -/
  | textClockAlignment (alignment : AlignmentStyle)
  /-- The alignment of the status area. -/
  | statusAreaAlignment (alignment : AlignmentStyle)
  /-- The look of the date. -/
  | dateStyle (style : Date.Style) (resolved : Date.Resolved)
  /-- The typeface of the date. -/
  | dateTypeface (typeface : Typeface)
  /-- The owner information. -/
  | ownerInfo (text : Option String)
  /-- Whether the owner information is shown. -/
  | ownerInfoVisible (isVisible : Bool)
  /-- The opacity of the owner information. -/
  | ownerInfoAlpha (alpha : Float32)
  /-- The alignment of the owner information. -/
  | ownerInfoAlignment (alignment : AlignmentStyle)
  /-- The typeface of the owner information. -/
  | ownerInfoTypeface (typeface : Typeface)
  /-- The size of the owner information. -/
  | ownerInfoTextSize (size : Float32)
  /-- Whether owner information that does not fit scrolls. -/
  | ownerInfoMarquee (isScrolling : Bool)
  /-- Whether the logout button is shown. -/
  | logoutVisible (isVisible : Bool)
  /-- The text of the logout button. -/
  | logoutText (text : String)
  /-- The opacity of the logout button. -/
  | logoutAlpha (alpha : Float32)
  /-- The colour of the text of the clock. -/
  | clockTextColor (color : UInt32)
  /-- How dark the clock is. -/
  | clockDarkAmount (amount : Float32)
  /-- How dark the status area is. -/
  | statusAreaDarkAmount (amount : Float32)
  /-- Whether the clock makes room for a header. -/
  | clockShowingHeader (isShowing : Bool)
  /-- The gap above the notification icons. -/
  | iconsTopMargin (pixels : Int32)
  /-- The status area loads its content. -/
  | refreshStatusArea
  /-- The marquee timer starts. -/
  | scheduleMarquee (milliseconds : Nat)
  /-- The marquee timer is stopped. -/
  | cancelMarquee
deriving DecidableEq

/-- An order to the user manager, which may fail with a message. -/
inductive UserOrder where
  /-- Another user becomes the current one. -/
  | switchUser (user : Int32)
  /-- A user is stopped, if need be by force. -/
  | stopUser (user : Int32) (isForced : Bool)
deriving DecidableEq, Repr

/-- Something that the status view asks of its surroundings. -/
inductive Request where
  /-- A question about the device. -/
  | fact (f : Fact)
  /-- A question to what the view is shown in. -/
  | query (q : Query)
  /-- An order to the widgets or to the timer. -/
  | command (c : Command)
  /-- An order to the user manager. -/
  | user (o : UserOrder)
  /-- A line in the log. -/
  | log (n : Notice)
deriving DecidableEq

/-- The answers to a request. -/
abbrev Request.Answer : Request → Type
  | fact f => f.Answer
  | query q => q.Answer
  | command _ => Unit
  | user _ => Except String Unit
  | log _ => Unit

/-- An answer to every request. -/
abbrev Answers := (r : Request) → r.Answer

end DeviceStatus.Lockscreen
