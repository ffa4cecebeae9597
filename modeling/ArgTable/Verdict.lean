-- What a step of the build makes of its tokens.
import ArgTable.BuildArgument

namespace ArgTable

/-- The result of a step, if its tokens were accepted, and what there is to say about them.
The instances are there only with an accepted result. -/
structure Verdict (α : Type) where
  accepted : Option α
  instances : List (Instance BuildArgument)
  notices : List Notice
  trace : List LogRecord

end ArgTable
