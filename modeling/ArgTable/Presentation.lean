-- What the user sees of a report. In plain format the messages go to the log and a header
-- with the lines goes to the output, and in JSON format everything is in the document. A
-- failed report in plain format puts nothing on the output.
import ArgTable.Delivery
import ArgTable.Report.Document
import ArgTable.Report.Plain
import ArgTable.Text.Ink

namespace ArgTable

/-- How and where to show things: the format, whether this writer keeps to plain ink, and
whether the terminal takes colours at all. -/
structure Display where
  format : Format := .plain
  noColor : Bool := false
  colored : Bool := false

/-- Texts for the output in the order in which they are written, and records for the log. -/
structure Presentation where
  pieces : List String := []
  logs : List LogRecord := []
  deriving DecidableEq, Repr

namespace Presentation

/-! ## Messages in the log -/

/-- The log record of a message. Errors are red and warnings yellow. -/
def recordOf (colored : Bool) (diagnostic : Diagnostic) : LogRecord :=
  match diagnostic.severity with
  | .error => ⟨.error, Text.Ink.red.paint colored diagnostic.message⟩
  | .warning => ⟨.warn, Text.Ink.yellow.paint colored diagnostic.message⟩
  | .info => ⟨.info, diagnostic.message⟩

/-- The count of errors and warnings, told when there is an error. -/
def summary (diagnostics : List Diagnostic) : List LogRecord :=
  let journal : Journal := ⟨diagnostics⟩
  match journal.count .error with
  | 0 => []
  | errors =>
    [⟨.error, s!"Argument processing failed with {errors} error(s) "
      ++ s!"and {journal.count .warning} warning(s)"⟩]

/-! ## Texts on the output -/

/-- A title between two rules, and its line break after the ink is off. -/
def header (display : Display) (title : String) : List String :=
  [Text.Ink.boldCyan.paint (display.colored && !display.noColor)
    ("----------- " ++ title ++ " -----------"), "\n"]

/-- A text and its line break. The empty text is not written at all. -/
def body (text : String) : List String :=
  if text.isEmpty then [] else [text, "\n"]

def ofReport (display : Display) (report : Report) : Presentation :=
  match display.format with
  | .json => { pieces := body report.jsonText }
  | .plain =>
    { pieces :=
        if report.success then header display report.mode.name ++ body report.plainText else []
      logs := report.diagnostics.map (recordOf display.colored) ++ summary report.diagnostics }

/-- The help of a mode. The format makes no difference to it. -/
def ofUsage (display : Display) (mode : Mode) (lines : List String) : Presentation where
  pieces :=
    header display (mode.name ++ " arguments") ++ lines.flatMap fun line => ["  " ++ line, "\n"]

/-- All that goes to the output. -/
def output (presentation : Presentation) : String := String.join presentation.pieces

/-! ## Writing -/

/-- What came of showing something: what the output took, and what the log got. -/
structure Written where
  delivery : Delivery
  logs : List LogRecord
  deriving DecidableEq, Repr

/-- Shows everything on an output with this much room, or with room for everything. The log
comes first, so it does not depend on the room. -/
def writeTo (room : Option Nat) (presentation : Presentation) : Written :=
  ⟨Delivery.deliver room presentation.pieces, presentation.logs⟩

end Presentation

end ArgTable
