import DeviceStatus.Text.Escaped
import DeviceStatus.Text.Wording

/-!
# Quoted text

A text between quotation marks, in which quotation marks, backslashes and characters without a shape
of their own are written as escapes. Every other character stands for itself.
-/

namespace DeviceStatus.Text

/-- The spelling of a character between quotation marks. -/
def quotedChar (c : Char) : String :=
  if c = '"' then "\\\""
  else if c = '\\' then "\\\\"
  else if c = '\n' then "\\n"
  else if c = '\r' then "\\r"
  else if c = '\t' then "\\t"
  else if c.toNat = 0 then "\\0"
  else if c.toNat < 0x20 ∨ c.toNat = 0x7F ∨ isEscaped c then
    "\\u\x7b" ++ hex c.toNat ++ "\x7d"
  else String.singleton c

/-- A text between quotation marks. -/
def quoted (text : String) : String :=
  "\"" ++ String.join (text.toList.map quotedChar) ++ "\""

/-- A blank that must not be broken is written as an escape, and so is an accent that stands behind
its letter as a character of its own. -/
example : quoted "é\u00a0e\u0301" = "\"é\\u\x7ba0\x7de\\u\x7b301\x7d\"" := by
  decide +kernel

end DeviceStatus.Text
