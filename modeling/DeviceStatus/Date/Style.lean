import DeviceStatus.Notice
import DeviceStatus.Resources

/-!
# Date styles

The looks that can be chosen for the date of the lock screen. A style has either a background with
its paddings or neither.
-/

namespace DeviceStatus.Date

/-- A look of the date. -/
inductive Style where
  /-- Without a background. -/
  | plain
  /-- In a box. -/
  | box
  /-- In a rounded box. -/
  | rounded
  /-- In a pill. -/
  | pill
  /-- On the accent colour. -/
  | accent
  /-- The day on the accent colour. -/
  | accentDay
  /-- On a translucent accent colour. -/
  | translucentAccent
  /-- The day on a translucent accent colour. -/
  | translucentAccentDay
  /-- On a gradient. -/
  | gradient
  /-- In a border of the accent colour. -/
  | borderAccent
  /-- In a border with a gradient. -/
  | borderGradient
deriving DecidableEq, Repr

/-- All styles, in the order of their numbers, which start at 0. -/
def Style.all : List Style :=
  [plain, box, rounded, pill, accent, accentDay, translucentAccent, translucentAccentDay, gradient,
   borderAccent, borderGradient]

/-- The number of a style in the settings. -/
def Style.number : Style → Nat
  | plain => 0
  | box => 1
  | rounded => 2
  | pill => 3
  | accent => 4
  | accentDay => 5
  | translucentAccent => 6
  | translucentAccentDay => 7
  | gradient => 8
  | borderAccent => 9
  | borderGradient => 10

/-- The name of a style. -/
def Style.name : Style → String
  | plain => "Plain"
  | box => "Box"
  | rounded => "Rounded"
  | pill => "Pill"
  | accent => "Accent"
  | accentDay => "AccentDay"
  | translucentAccent => "TranslucentAccent"
  | translucentAccentDay => "TranslucentAccentDay"
  | gradient => "Gradient"
  | borderAccent => "BorderAccent"
  | borderGradient => "BorderGradient"

/-- The style with a number. -/
def Style.ofNumber? (value : Int32) : Option Style :=
  Style.all.find? fun style => value.toInt = style.number

/-- The style that a stored setting means: a number without a style means the plain one. -/
def Style.ofSetting (value : Int32) : Choice Style :=
  .ofOption (Style.ofNumber? value) plain (.unknownDate value)

/-- A background and the dimensions of the padding that belongs to it. -/
structure Background where
  /-- What is drawn. -/
  drawable : Drawable
  /-- The padding left and right. -/
  horizontal : Dimension
  /-- The padding above and below. -/
  vertical : Dimension
deriving DecidableEq, Repr

/-- A background with the padding of a box. -/
def Background.boxed (drawable : Drawable) : Background :=
  ⟨drawable, .dateBoxHorizontal, .dateBoxVertical⟩

/-- A background with the padding of an accented box. -/
def Background.accented (drawable : Drawable) : Background :=
  ⟨drawable, .accentBoxHorizontal, .accentBoxVertical⟩

/-- What a style consists of. -/
structure Attributes where
  /-- The background, if there is one. -/
  background : Option Background
  /-- The opacity of the background, if it is not its own. -/
  backgroundAlpha : Option UInt8
  /-- By how much the text is enlarged. -/
  textScale : Float32
  /-- Whether the text is bold. -/
  bold : Bool
deriving DecidableEq

/-- The opacity of the translucent backgrounds. -/
def translucent : UInt8 := 160

/-- What each style consists of. -/
def Style.attributes : Style → Attributes
  | plain => ⟨none, none, 0.05, false⟩
  | box => ⟨some (.boxed .boxBorder), none, 0.05, false⟩
  | rounded => ⟨some (.boxed .roundBorder), none, 0.05, false⟩
  | pill => ⟨some ⟨.ambientPill, .pillHorizontal, .pillVertical⟩, none, 0.05, false⟩
  | accent | accentDay => ⟨some (.accented .accent), none, 0.15, true⟩
  | translucentAccent | translucentAccentDay =>
    ⟨some (.accented .accent), some translucent, 0.15, true⟩
  | gradient => ⟨some (.accented .gradient), none, 0.15, true⟩
  | borderAccent => ⟨some (.accented .accentBorder), none, 0.08, true⟩
  | borderGradient => ⟨some (.accented .gradientBorder), none, 0.08, true⟩

/-- A style whose padding is known in pixels. -/
structure Resolved where
  /-- What is drawn behind the date. -/
  background : Option Drawable
  /-- The opacity of the background, if it is not its own. -/
  backgroundAlpha : Option UInt8
  /-- The padding left and right. -/
  horizontalPadding : Int32
  /-- The padding above and below. -/
  verticalPadding : Int32
  /-- By how much the text is enlarged. -/
  textScale : Float32
  /-- Whether the text is bold. -/
  bold : Bool
deriving DecidableEq

/-- A style with its padding looked up; without a background there is none. The dimensions are
asked for in any monad, horizontal first. -/
def Style.resolve {m : Type → Type} [Monad m] (dimension : Dimension → m Int32) (style : Style) :
    m Resolved := do
  let attributes := style.attributes
  match attributes.background with
  | some background =>
    let horizontal ← dimension background.horizontal
    let vertical ← dimension background.vertical
    pure ⟨some background.drawable, attributes.backgroundAlpha, horizontal, vertical,
      attributes.textScale, attributes.bold⟩
  | none =>
    pure ⟨none, attributes.backgroundAlpha, 0, 0, attributes.textScale, attributes.bold⟩

end DeviceStatus.Date
