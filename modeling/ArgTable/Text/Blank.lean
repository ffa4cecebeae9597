-- White space: which characters are blank, when a whole text is, and what is left of a list of
-- characters when the blank ends are cut off.
import ArgTable.Text.CharClass

namespace ArgTable.Text

/-- The runs of white space characters. -/
def blankRuns : Runs := [
  (0x9, 0xD), (0x20, 0x20), (0x85, 0x85), (0xA0, 0xA0), (0x1680, 0x1680), (0x2000, 0x200A),
  (0x2028, 0x2029), (0x202F, 0x202F), (0x205F, 0x205F), (0x3000, 0x3000)]

def isBlank (c : Char) : Bool := blankRuns.has c

/-- Nothing but white space stands in the text. -/
def allBlank (text : String) : Bool := text.toList.all isBlank

/-- The list without its leading and its trailing blanks. -/
def trimmed (cs : List Char) : List Char :=
  ((cs.dropWhile isBlank).reverse.dropWhile isBlank).reverse

theorem allBlank_iff (text : String) :
    allBlank text = true ↔ ∀ c ∈ text.toList, isBlank c = true := by
  simp [allBlank, List.all_eq_true]

end ArgTable.Text
