-- JSON documents and their text. The text is spread over lines, with two spaces for each
-- level, and an empty list or record stays on its line. Fields keep their order, and a name
-- may come twice.

namespace ArgTable

inductive Json where
  | null
  | bool (value : Bool)
  | text (value : String)
  | list (items : List Json)
  | record (fields : List (String × Json))

namespace Json

/-! ## Texts -/

/-- The two hexadecimal digits of a small code point. -/
def hexPair (c : Char) : List Char :=
  [Nat.digitChar (c.toNat / 16), Nat.digitChar (c.toNat % 16)]

/-- How a character stands in a text. Only the quote, the backslash and the controls below
the space are escaped. -/
def escapedChar (c : Char) : List Char :=
  match c with
  | '"' => ['\\', '"']
  | '\\' => ['\\', '\\']
  | '\x08' => ['\\', 'b']
  | '\x0c' => ['\\', 'f']
  | '\n' => ['\\', 'n']
  | '\r' => ['\\', 'r']
  | '\t' => ['\\', 't']
  | c => if c.toNat < 0x20 then ['\\', 'u', '0', '0'] ++ hexPair c else [c]

/-- The text between double quotes. -/
def quoted (text : String) : List Char :=
  '"' :: (text.toList.flatMap escapedChar ++ ['"'])

/-! ## Documents -/

/-- A line break and the blanks that open a line of this depth. -/
def newline (depth : Nat) : List Char := '\n' :: List.replicate (2 * depth) ' '

mutual

/-- The text of a document that stands at this depth. -/
def write (depth : Nat) : Json → List Char
  | null => ['n', 'u', 'l', 'l']
  | bool true => ['t', 'r', 'u', 'e']
  | bool false => ['f', 'a', 'l', 's', 'e']
  | text value => quoted value
  | list [] => ['[', ']']
  | list (item :: items) =>
    '[' :: (newline (depth + 1) ++ write (depth + 1) item ++ writeItems (depth + 1) items
      ++ newline depth ++ [']'])
  | record [] => ['\x7b', '\x7d']
  | record ((name, value) :: fields) =>
    '\x7b' :: (newline (depth + 1) ++ quoted name ++ [':', ' '] ++ write (depth + 1) value
      ++ writeFields (depth + 1) fields ++ newline depth ++ ['\x7d'])

/-- The items after the first, each behind a comma and on its own line. -/
def writeItems (depth : Nat) : List Json → List Char
  | [] => []
  | item :: items => ',' :: (newline depth ++ write depth item ++ writeItems depth items)

/-- The fields after the first, each behind a comma and on its own line. -/
def writeFields (depth : Nat) : List (String × Json) → List Char
  | [] => []
  | (name, value) :: fields =>
    ',' :: (newline depth ++ quoted name ++ [':', ' '] ++ write depth value
      ++ writeFields depth fields)

end

/-- The text of a whole document. -/
def pretty (document : Json) : String := String.ofList (document.write 0)

/-- The text, or null where there is none. -/
def ofOption : Option String → Json
  | none => null
  | some value => text value

end Json

end ArgTable
