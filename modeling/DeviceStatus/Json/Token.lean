import DeviceStatus.Json.Quotation
import DeviceStatus.Json.Numeral

/-!
# The tokens of a JSON text

A JSON text is cut into brackets, signs, texts, numbers and words. A text or number carries what it
amounts to both for a reader that keeps it and for one that passes over it, so the text can be cut
without knowing which it will be. Nothing is cut behind the first token that is wrong in any use.
-/

namespace DeviceStatus.Json

/-- A token. -/
inductive Token where
  /-- An opening brace. -/
  | beginObject
  /-- A closing brace. -/
  | endObject
  /-- An opening bracket. -/
  | beginArray
  /-- A closing bracket. -/
  | endArray
  /-- A colon. -/
  | colon
  /-- A comma. -/
  | comma
  /-- A quoted text. -/
  | text (v : Verdict String)
  /-- A number. -/
  | number (v : Verdict Int32)
  /-- One of the words for truth, falsehood and nothing. -/
  | word (v : Verdict Unit)
  /-- An octet that starts no token. -/
  | stray

/-- The fault of a token that stands where a value of another type is expected. -/
def Token.mismatch : Token → Fault
  | beginObject | beginArray => .mismatched
  | text v => v.mismatch
  | number v => v.mismatch
  | word v => v.mismatch
  | endObject | endArray | colon | comma | stray => .malformed

/-- Whether an octet may stand between tokens without meaning. -/
def isSpace (b : UInt8) : Bool := b = 0x20 || b = 0x0A || b = 0x09 || b = 0x0D

/-- Reads the letters that must follow, and gives what follows them. -/
def scanWord : List UInt8 → List UInt8 → Verdict Unit × List UInt8
  | [], rest => (.ok (), rest)
  | _ :: _, [] => (.fault .cutShort, [])
  | letter :: letters, b :: rest =>
    if b = letter then scanWord letters rest else (.fault .malformed, [])

/-- The token that starts with an octet, and what follows it. -/
def scanToken (b : UInt8) (rest : List UInt8) : Token × List UInt8 :=
  if b = 0x7B then (.beginObject, rest)
  else if b = 0x7D then (.endObject, rest)
  else if b = 0x5B then (.beginArray, rest)
  else if b = 0x5D then (.endArray, rest)
  else if b = 0x3A then (.colon, rest)
  else if b = 0x2C then (.comma, rest)
  else if b = 0x22 then
    let (v, rest) := scanQuotation {} rest
    (.text v, rest)
  else if b = 0x2D then
    let (v, rest) := scanNumeral true rest
    (.number v, rest)
  else if isDigit b then
    let (v, rest) := scanNumeral false (b :: rest)
    (.number v, rest)
  else if b = 0x6E then                                    -- null
    let (v, rest) := scanWord [0x75, 0x6C, 0x6C] rest
    (.word v, rest)
  else if b = 0x74 then                                    -- true
    let (v, rest) := scanWord [0x72, 0x75, 0x65] rest
    (.word v, rest)
  else if b = 0x66 then                                    -- false
    let (v, rest) := scanWord [0x61, 0x6C, 0x73, 0x65] rest
    (.word v, rest)
  else (.stray, [])

/-- The first tokens of a text, as many as the first number allows. -/
def tokensUpTo : Nat → List UInt8 → List Token
  | 0, _ => []
  | _ + 1, [] => []
  | limit + 1, b :: rest =>
    if isSpace b then tokensUpTo limit rest
    else
      let (token, rest) := scanToken b rest
      token :: tokensUpTo limit rest

/-- The tokens of a text. Each takes at least one octet, so there are no more of them than
octets. -/
def tokens (octets : List UInt8) : List Token := tokensUpTo octets.length octets

end DeviceStatus.Json
