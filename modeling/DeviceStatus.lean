import DeviceStatus.Rollback.Stream
import DeviceStatus.Lockscreen.Dump
import DeviceStatus.Lockscreen.Screen
import DeviceStatus.Device.Rehearsal
import DeviceStatus.Callbacks.Cues
import DeviceStatus.Main
import DeviceStatus.Proofs.Parcel.Spelling
import DeviceStatus.Proofs.Parcel.Reader
import DeviceStatus.Proofs.Parcel.Prefixed
import DeviceStatus.Proofs.Rollback.Records
import DeviceStatus.Proofs.Device.Mailbox
import DeviceStatus.Proofs.Device.Stack
import DeviceStatus.Proofs.Device.Delivery
import DeviceStatus.Proofs.Rollback.Boundaries
import DeviceStatus.Proofs.Callbacks.Dispatch
import DeviceStatus.Proofs.Callbacks.Registrations
import DeviceStatus.Proofs.Device.MarqueeTimer
import DeviceStatus.Proofs.Device.UserSwitch
import DeviceStatus.Proofs.Device.Draining
import DeviceStatus.Proofs.Device.LogoutButton
import DeviceStatus.Proofs.Clock.Patterns
import DeviceStatus.Proofs.Device.ClockOnScreen
import DeviceStatus.Proofs.Device.LogoutClick
import DeviceStatus.Proofs.Lockscreen.Transcripts
import DeviceStatus.Proofs.Device.Pieces
import DeviceStatus.Proofs.Lockscreen.ClockFace
import DeviceStatus.Proofs.Lockscreen.ClockDrawn
import DeviceStatus.Proofs.Device.ClockPatterns
import DeviceStatus.Proofs.Lockscreen.Dark
import DeviceStatus.Proofs.Device.DarkOnScreen
import DeviceStatus.Proofs.Device.Locales
import DeviceStatus.Proofs.Callbacks.Owners
import DeviceStatus.Proofs.Callbacks.Failing
import DeviceStatus.Proofs.Rollback.Stream
import DeviceStatus.Proofs.Device.EventStreams
import DeviceStatus.Proofs.Lockscreen.Appearance
import DeviceStatus.Proofs.Lockscreen.Report
import DeviceStatus.Proofs.Device.Scrolling
import DeviceStatus.Proofs.Rollback.SizeCheck
import DeviceStatus.Proofs.Parcel.Stops
import DeviceStatus.Proofs.Rollback.AfterFaults
import DeviceStatus.Proofs.Device.Painted
import DeviceStatus.Proofs.Lockscreen.UserShown
import DeviceStatus.Proofs.Device.AsNew
import DeviceStatus.Proofs.Device.ClockFormat
import DeviceStatus.Proofs.Clock.DayHalf
import DeviceStatus.Proofs.Lockscreen.Kinds
import DeviceStatus.Proofs.Lockscreen.Header
import DeviceStatus.Proofs.Device.IconGap
import DeviceStatus.Proofs.Lockscreen.Scene
import DeviceStatus.Proofs.Lockscreen.Twice
import DeviceStatus.Proofs.Device.Twice
import DeviceStatus.Proofs.Device.Reach
import DeviceStatus.Proofs.Device.Audience
import DeviceStatus.Proofs.Device.Detached
import DeviceStatus.Proofs.Parcel.Announced
import DeviceStatus.Proofs.Rollback.Listing
import DeviceStatus.Proofs.Json.Spelling
import DeviceStatus.Proofs.Settings.Loading
