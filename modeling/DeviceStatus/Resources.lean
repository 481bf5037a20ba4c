/-!
# Resources

The drawables, dimensions and texts that the screen takes from the present configuration, under
symbolic names.
-/

namespace DeviceStatus

/-- A background of the date. -/
inductive Drawable where
  /-- A rectangular border. -/
  | boxBorder
  /-- A rounded border. -/
  | roundBorder
  /-- A pill. -/
  | ambientPill
  /-- A box in the accent colour. -/
  | accent
  /-- A box with a gradient. -/
  | gradient
  /-- A border in the accent colour. -/
  | accentBorder
  /-- A border with a gradient. -/
  | gradientBorder
deriving DecidableEq, Repr

/-- The name of a drawable among the resources. -/
def Drawable.resourceName : Drawable → String
  | boxBorder => "date_box_str_border"
  | roundBorder => "date_str_border"
  | ambientPill => "ambient_indication_pill_background"
  | accent => "date_str_accent"
  | gradient => "date_str_gradient"
  | accentBorder => "date_str_borderacc"
  | gradientBorder => "date_str_bordergrad"

/-- A length in pixels. -/
inductive Dimension where
  /-- Left and right of a boxed date. -/
  | dateBoxHorizontal
  /-- Above and below a boxed date. -/
  | dateBoxVertical
  /-- Left and right of a date in a pill. -/
  | pillHorizontal
  /-- Above and below a date in a pill. -/
  | pillVertical
  /-- Left and right of a date in an accented box. -/
  | accentBoxHorizontal
  /-- Above and below a date in an accented box. -/
  | accentBoxVertical
  /-- In front of the text clock when it starts at the left. -/
  | textClockStart
  /-- Between the status area and the notification icons. -/
  | iconMargin
  /-- The same gap when the status area shows a header. -/
  | iconMarginWithHeader
deriving DecidableEq, Repr

/-- All dimensions. -/
def Dimension.all : List Dimension :=
  [dateBoxHorizontal, dateBoxVertical, pillHorizontal, pillVertical, accentBoxHorizontal,
   accentBoxVertical, textClockStart, iconMargin, iconMarginWithHeader]

/-- The name of a dimension among the resources. -/
def Dimension.resourceName : Dimension → String
  | dateBoxHorizontal => "widget_date_box_padding_hor"
  | dateBoxVertical => "widget_date_box_padding_ver"
  | pillHorizontal => "q_nowplay_pill_padding_hor"
  | pillVertical => "q_nowplay_pill_padding_ver"
  | accentBoxHorizontal => "widget_date_accent_box_padding_hor"
  | accentBoxVertical => "widget_date_accent_box_padding_ver"
  | textClockStart => "custom_clock_left_padding"
  | iconMargin => "widget_vertical_padding"
  | iconMarginWithHeader => "widget_vertical_padding_with_header"

/-- A text in the language of the device. -/
inductive Label where
  /-- The fields that a 12 hour clock shows. -/
  | clock12Skeleton
  /-- The fields that a 24 hour clock shows. -/
  | clock24Skeleton
  /-- What the logout button says. -/
  | logout
deriving DecidableEq, Repr

/-- All texts. -/
def Label.all : List Label := [clock12Skeleton, clock24Skeleton, logout]

/-- The resources of a configuration. -/
structure Resources where
  /-- The size of each dimension. -/
  dimension : Dimension → Int32
  /-- The wording of each text. -/
  label : Label → String
  /-- The light accent colour, as alpha, red, green and blue. -/
  accent : UInt32

/-- The dimensions of a device without a configuration of its own. -/
def Dimension.fixed : Dimension → Int32
  | dateBoxHorizontal => 12
  | dateBoxVertical => 4
  | pillHorizontal => 14
  | pillVertical => 6
  | accentBoxHorizontal => 16
  | accentBoxVertical => 6
  | textClockStart => 40
  | iconMargin => 26
  | iconMarginWithHeader => 36

/-- The texts of a device without a configuration of its own. -/
def Label.fixed : Label → String
  | clock12Skeleton => "hm"
  | clock24Skeleton => "Hm"
  | logout => "Log out"

/-- The resources of a device without a configuration of its own. -/
def Resources.fixed : Resources where
  dimension := Dimension.fixed
  label := Label.fixed
  accent := 0xff1a73e8

/-- The resources with one dimension changed. -/
def Resources.setDimension (r : Resources) (d : Dimension) (pixels : Int32) : Resources :=
  { r with dimension := fun d' => if d' = d then pixels else r.dimension d' }

/-- The resources with one text changed. -/
def Resources.setLabel (r : Resources) (l : Label) (wording : String) : Resources :=
  { r with label := fun l' => if l' = l then wording else r.label l' }

end DeviceStatus
