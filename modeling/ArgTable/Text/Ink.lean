-- Coloured text. An ink wraps a text in a start mark and a reset mark. A reset mark inside
-- the text would end the colour early, so the start mark is put after it again.

namespace ArgTable.Text

inductive Ink where
  | red
  | yellow
  | boldCyan
  deriving DecidableEq, Repr

/-- The mark that turns the ink on. -/
def Ink.start : Ink → String
  | .red => "\x1b[31m"
  | .yellow => "\x1b[33m"
  | .boldCyan => "\x1b[1;36m"

/-- The mark that turns every ink off. -/
def resetMark : String := "\x1b[0m"

/-- Every reset mark of the text is followed by the start mark. -/
def resumed (start : List Char) : List Char → List Char
  | '\x1b' :: '[' :: '0' :: 'm' :: cs =>
    '\x1b' :: '[' :: '0' :: 'm' :: (start ++ resumed start cs)
  | c :: cs => c :: resumed start cs
  | [] => []

/-- The text in the ink where colours are on, and the plain text elsewhere. The empty text
is wrapped too. -/
def Ink.paint (ink : Ink) (colored : Bool) (text : String) : String :=
  if colored then
    ink.start ++ String.ofList (resumed ink.start.toList text.toList) ++ resetMark
  else text

end ArgTable.Text
