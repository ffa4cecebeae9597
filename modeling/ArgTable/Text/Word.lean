-- Word characters, the ones that keys of analysis properties are made of.
import ArgTable.Text.WordRuns

namespace ArgTable.Text

def isWord (c : Char) : Bool := wordRuns.has c

end ArgTable.Text
