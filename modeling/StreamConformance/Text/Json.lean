import StreamConformance.Text.Quoted

/-!
# JSON texts

Values that can be written as JSON, and their two layouts: the compact one without any space, and
the indented one with a line for each member. Members are written in the order in which they stand.

## Main definitions

* `Json` — a value.
* `Json.compact` — the compact text; `Json.indented` — the text with two spaces per level.
-/

namespace StreamConformance

/-- A value that can be written as JSON. -/
inductive Json where
  | text (s : String)
  | number (n : Nat)
  | list (items : List Json)
  /-- Members are named, and keep their order. -/
  | object (members : List (String × Json))
  deriving Inhabited

namespace Json

/-- A character of a text as it stands between double quotes: the quote, the backslash and the
control characters are escaped, everything else stands for itself. -/
def escape (c : Char) : List Char :=
  if c = '"' then ['\\', '"']
  else if c = '\\' then ['\\', '\\']
  else if c = '\x08' then ['\\', 'b']
  else if c = '\x0c' then ['\\', 'f']
  else if c = '\n' then ['\\', 'n']
  else if c = '\r' then ['\\', 'r']
  else if c = '\t' then ['\\', 't']
  else if c.toNat < 32 then
    ['\\', 'u', '0', '0', Nat.digitChar (c.toNat / 16), Nat.digitChar (c.toNat % 16)]
  else [c]

/-- A text between double quotes. -/
def quote (s : String) : List Char := '"' :: s.toList.flatMap escape ++ ['"']

/-- Pieces with commas between them. -/
def commas (separator : List Char) : List (List Char) → List Char
  | [] => []
  | [p] => p
  | p :: rest => p ++ separator ++ commas separator rest

mutual

/-- The characters of the compact text. -/
def compactChars : Json → List Char
  | text s => quote s
  | number n => Nat.toDigits 10 n
  | list items => '[' :: commas [','] (compactItems items) ++ [']']
  | object members => '\x7b' :: commas [','] (compactMembers members) ++ ['\x7d']

/-- The compact texts of the items of a list. -/
def compactItems : List Json → List (List Char)
  | [] => []
  | j :: rest => compactChars j :: compactItems rest

/-- The compact texts of the members of an object. -/
def compactMembers : List (String × Json) → List (List Char)
  | [] => []
  | (name, j) :: rest => (quote name ++ ':' :: compactChars j) :: compactMembers rest

end

/-- The compact text. -/
def compact (j : Json) : String := String.ofList j.compactChars

/-- The start of a line at a level of indentation. -/
def newline (level : Nat) : List Char := '\n' :: List.replicate (2 * level) ' '

/-- Pieces in brackets, each on a line of its own; without pieces the brackets stand together. -/
def block (level : Nat) (opening closing : Char) (pieces : List (List Char)) : List Char :=
  if pieces.isEmpty then [opening, closing]
  else
    opening :: newline (level + 1) ++ commas (',' :: newline (level + 1)) pieces ++
      newline level ++ [closing]

mutual

/-- The characters of the indented text, at a level of indentation. -/
def indentedChars (level : Nat) : Json → List Char
  | text s => quote s
  | number n => Nat.toDigits 10 n
  | list items => block level '[' ']' (indentedItems (level + 1) items)
  | object members => block level '\x7b' '\x7d' (indentedMembers (level + 1) members)

/-- The indented texts of the items of a list. -/
def indentedItems (level : Nat) : List Json → List (List Char)
  | [] => []
  | j :: rest => indentedChars level j :: indentedItems level rest

/-- The indented texts of the members of an object. -/
def indentedMembers (level : Nat) : List (String × Json) → List (List Char)
  | [] => []
  | (name, j) :: rest =>
    (quote name ++ [':', ' '] ++ indentedChars level j) :: indentedMembers level rest

end

/-- The indented text. -/
def indented (j : Json) : String := String.ofList (j.indentedChars 0)

end Json

end StreamConformance
