/-!
# Lines

Splitting a text at its line breaks, on characters, and setting a text in from the margin.
-/

namespace DeviceStatus.Text

/-- The lines of a text; a text with `n` line breaks has `n + 1`. -/
def lines : List Char → List (List Char)
  | [] => [[]]
  | c :: cs =>
    if c = '\n' then [] :: lines cs
    else
      match lines cs with
      | [] => [[c]]
      | line :: rest => (c :: line) :: rest

/-- A text whose first line is set in by `first` and every further line by `next`. -/
def indent (first next text : String) : String :=
  first ++ String.intercalate ("\n" ++ next) ((lines text.toList).map String.ofList)

/-- A text with a line break at its end. -/
def line (text : String) : String := text ++ "\n"

end DeviceStatus.Text
