-- Log records and their layout as a stream of lines. A record opens with its level in
-- brackets, and a line break inside a message is followed by four spaces, so a line that
-- opens with a bracket is the start of a record. Terminal controls in a message do not reach
-- the stream, and one that is left open can take the rest of its record with it.
import ArgTable.Text.ControlSequence

namespace ArgTable

inductive Level where
  | error
  | warn
  | info
  | debug
  deriving DecidableEq, Repr

def Level.name : Level → String
  | .error => "ERROR"
  | .warn => "WARN"
  | .info => "INFO"
  | .debug => "DEBUG"

/-- The name in a field of five characters. -/
def Level.field : Level → String
  | .error => "ERROR"
  | .warn => "WARN "
  | .info => "INFO "
  | .debug => "DEBUG"

structure LogRecord where
  level : Level
  message : String
  deriving DecidableEq, Repr

namespace LogRecord

def debug (message : String) : LogRecord := ⟨.debug, message⟩

/-- Debug records are for verbose runs only. -/
def shownIn (verbose : Bool) (record : LogRecord) : Bool :=
  verbose || record.level != .debug

/-- Every line break is followed by four spaces. -/
def indented : List Char → List Char
  | [] => []
  | '\n' :: cs => '\n' :: ' ' :: ' ' :: ' ' :: ' ' :: indented cs
  | c :: cs => c :: indented cs

/-- The record with its level and its final line break. -/
def layout (record : LogRecord) : String :=
  "[" ++ record.level.field ++ "] " ++ String.ofList (indented record.message.toList) ++ "\n"

/-- The record as it stands in the stream. Each record is cleared of terminal controls on its
own. -/
def written (record : LogRecord) : String :=
  Text.withoutControls record.layout

/-- The records one after the other. -/
def stream (records : List LogRecord) : String :=
  String.join (records.map written)

end LogRecord

end ArgTable
