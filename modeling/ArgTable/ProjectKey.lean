-- Project keys. A key is made of ASCII letters, digits and four marks, and it has at least
-- one character that is not a digit.

namespace ArgTable.ProjectKey

/-- A character of a project key. -/
def isKeyChar (c : Char) : Bool :=
  c.isAlphanum || c = ':' || c = '-' || c = '_' || c = '.'

def isValid (key : String) : Bool :=
  key.toList.all isKeyChar && key.toList.any (!·.isDigit)

end ArgTable.ProjectKey
