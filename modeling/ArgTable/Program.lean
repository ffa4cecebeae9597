-- The whole program as a function from the words of the command line to an exit code and
-- two texts, one for the output and one for the log.
import ArgTable.CommandLine
import ArgTable.Presentation

namespace ArgTable.Program

/-- How a run of the program ends: the exit code, the text of the output, and for the error
stream the records that the log shows and the fault, if one ended the run. -/
structure Ending where
  exitCode : Nat
  output : String := ""
  records : List LogRecord := []
  fault : Option Fault := none
  deriving DecidableEq, Repr

namespace Ending

/-- The line that a fault ends the error stream with. -/
def faultLine : Option Fault → String
  | none => ""
  | some fault => "Error: " ++ fault.message ++ "\n"

/-- The text of the error stream. -/
def errors (ending : Ending) : String :=
  LogRecord.stream ending.records ++ faultLine ending.fault

end Ending

/-- The user asks for the help of a step. The generic mode has no such help, because there the
words for it may be in the user's table. -/
def wantsUsage (options : Options) : Bool :=
  options.mode != .generic && Bootstrap.asksForHelp options.tokens

/-- The run with options that go together. -/
def runChecked (colored : Bool) (options : Options) : Ending :=
  let display : Display :=
    { format := options.format
      noColor := options.noColor
      colored := colored && !options.noColor }
  let shown (records : List LogRecord) := records.filter (·.shownIn options.verbose)
  let opening := LogRecord.debug ("Configuration: " ++ options.describe)
  if wantsUsage options then
    { exitCode := 0
      output := (Presentation.ofUsage display options.mode (Report.usage options.mode)).output
      records := shown [opening] }
  else
    match Report.run options with
    | .error fault => { exitCode := 1, records := shown [opening], fault := some fault }
    | .ok run =>
      let presentation := Presentation.ofReport display run.report
      let closing :=
        if run.report.success then [] else [LogRecord.debug "Argument processing failed"]
      { exitCode := if run.report.success then 0 else 1
        output := presentation.output
        records := shown (opening :: run.trace ++ presentation.logs ++ closing) }

/-- The run with the options that were read. -/
def runOptions (colored : Bool) (options : Options) : Ending :=
  match options.check with
  | .error fault => { exitCode := 1, fault := some fault }
  | .ok options => runChecked colored options

/-- What `--version` prints. -/
def versionText : String := "argmatch 0.1.0\n"

/-- The run with the words of the command line. A mistake in them and a call for help are left
to the caller. -/
def run (colored : Bool) (words : List String) : Except CommandLine.Stop Ending :=
  match CommandLine.read words with
  | .ok options => .ok (runOptions colored options)
  | .error .version => .ok { exitCode := 0, output := versionText }
  | .error stop => .error stop

end ArgTable.Program
