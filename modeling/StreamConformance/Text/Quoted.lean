import StreamConformance.Text.Unprintable

/-!
# Text in quotes

How a text is shown between double quotes inside a message: the quote, the backslash and the common
controls have short escapes, every other character without a printed form is written by its number.

## Main definitions

* `Text.quoted` — a text between double quotes.
* `Text.listed` — texts between square brackets, separated by commas.
* `Text.occursIn` — whether one text occurs within another.
-/

namespace StreamConformance.Text

/-- A number in lowercase hexadecimal, without leading zeros. -/
def hexadecimal (n : Nat) : String := String.ofList (Nat.toDigits 16 n)

/-- One character as it stands between double quotes. -/
def escape (c : Char) : String :=
  if c = '"' then "\\\""
  else if c = '\\' then "\\\\"
  else if c = '\n' then "\\n"
  else if c = '\r' then "\\r"
  else if c = '\t' then "\\t"
  else if c = '\x00' then "\\0"
  else if isUnprintable c then "\\u\x7b" ++ hexadecimal c.toNat ++ "\x7d"
  else c.toString

/-- A text between double quotes. -/
def quoted (s : String) : String := "\"" ++ String.join (s.toList.map escape) ++ "\""

/-- Texts between square brackets, separated by a comma and a space. -/
def listed (items : List String) : String := "[" ++ ", ".intercalate items ++ "]"

/-- Whether `part` starts at some position of a list of characters. -/
def startsSomewhere (part : List Char) : List Char → Bool
  | [] => part.isEmpty
  | c :: rest => part.isPrefixOf (c :: rest) || startsSomewhere part rest

/-- Whether `part` occurs within `text`; the empty text occurs within every text. -/
def occursIn (part text : String) : Bool := startsSomewhere part.toList text.toList

end StreamConformance.Text
