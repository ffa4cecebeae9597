-- Texts in double quotes, with every character in sight. A character that would leave no
-- mark of its own is written as an escape, so the quoted form shows exactly what is there.
import ArgTable.Text.UnseenRuns

namespace ArgTable.Text

/-- The code point in lower case hexadecimal digits, without leading zeros. -/
def hexDigits (c : Char) : List Char := Nat.toDigits 16 c.toNat

/-- How a character stands between quotes. -/
def quotedChar (c : Char) : List Char :=
  match c with
  | '\x00' => ['\\', '0']
  | '\t' => ['\\', 't']
  | '\r' => ['\\', 'r']
  | '\n' => ['\\', 'n']
  | '\\' => ['\\', '\\']
  | '"' => ['\\', '"']
  | c => if unseenRuns.has c then '\\' :: 'u' :: '\x7b' :: (hexDigits c ++ ['\x7d']) else [c]

/-- The text between double quotes. -/
def quoted (text : String) : String :=
  String.ofList ('"' :: (text.toList.flatMap quotedChar ++ ['"']))

/-- The quoted texts in brackets, with a comma and a space between two. -/
def quotedList (texts : List String) : String :=
  "[" ++ String.intercalate ", " (texts.map quoted) ++ "]"

end ArgTable.Text
