import DeviceStatus.Rollback.Listing
import DeviceStatus.Tool.Styles

/-!
# The command line

Two commands can be asked for: `styles`, with options for the file of settings, the user and the
locale, and `rollback`, with the file of a record. The value of an option follows it as the next
word or behind an equals sign.
-/

namespace DeviceStatus.Tool

/-- What a command line asks for. -/
inductive Command where
  /-- The appearance of the lock screen. -/
  | styles (settings : Option String) (user : Int32) (locale : String)
  /-- The record in a file. -/
  | rollback (path : String)
deriving DecidableEq, Repr

/-- What is printed when a command line asks for nothing that there is. -/
def usage : String :=
  "usage: styles [--settings FILE] [--user USER] [--locale LOCALE]\n       rollback FILE\n"

/-- The exit code for a command line that asks for nothing that there is. -/
def usageExitCode : Nat := 2

/-- The name of an option, and its value if that follows behind an equals sign. -/
def splitOption (word : String) : String × Option String :=
  let characters := word.toList
  match characters.dropWhile (· ≠ '=') with
  | [] => (word, none)
  | _ :: value => (String.ofList (characters.takeWhile (· ≠ '=')), some (String.ofList value))

/-- Whether a word can be a value on its own: words that start with a dash are options. -/
def isValue (word : String) : Bool := word = "-" || word.toList.head? != some '-'

/-- The options and their values. -/
def optionPairs : List String → Option (List (String × String))
  | [] => some []
  | word :: rest =>
    match splitOption word with
    | (name, some value) => (optionPairs rest).map ((name, value) :: ·)
    | (name, none) =>
      match rest with
      | [] => none
      | value :: rest =>
        if isValue value then (optionPairs rest).map ((name, value) :: ·) else none

/-- A user that is written in decimal digits, perhaps behind a sign. -/
def user? (word : String) : Option Int32 :=
  let (isNegative, digits) := match word.toList with
    | '-' :: digits => (true, digits)
    | '+' :: digits => (false, digits)
    | digits => (false, digits)
  if digits.isEmpty || !digits.all Char.isDigit then none
  else
    let magnitude : Int := Json.Numeral.ofDigits (digits.map fun c => c.toNat - '0'.toNat)
    let user := if isNegative then -magnitude else magnitude
    if Json.Numeral.fitsInt32 user then some (Int32.ofInt user) else none

/-- The options of the command `styles` that have been given. -/
structure StylesOptions where
  /-- The file of settings. -/
  settings : Option String := none
  /-- The user. -/
  user : Option Int32 := none
  /-- The locale. -/
  locale : Option String := none

/-- The options with one more; each is given once at most, and a path is not empty. -/
def StylesOptions.give (o : StylesOptions) : String × String → Option StylesOptions
  | ("--settings", path) =>
    if o.settings.isNone && !path.isEmpty then some { o with settings := some path } else none
  | ("--user", word) =>
    if o.user.isNone then (user? word).map fun user => { o with user := some user } else none
  | ("--locale", locale) =>
    if o.locale.isNone then some { o with locale := some locale } else none
  | _ => none

/-- What a command line asks for. -/
def Command.parse : List String → Option Command
  | "styles" :: words => do
    let options ← (← optionPairs words).foldlM StylesOptions.give {}
    pure (.styles options.settings (options.user.getD standardUser)
      (options.locale.getD standardLocale))
  | ["rollback", path] => if isValue path && !path.isEmpty then some (.rollback path) else none
  | _ => none

/-- The path of the file that a command reads. -/
def Command.path? : Command → Option String
  | styles settings _ _ => settings
  | rollback path => some path

/-- The outcome of a command, given the content of the file that it reads. -/
def Command.outcome (content : Except String (List UInt8)) : Command → Outcome
  | styles settings user locale =>
    Tool.styles { settings := settings.map fun path => ⟨path, content⟩, user, locale }
  | rollback path => Rollback.command ⟨path, content⟩

end DeviceStatus.Tool
