-- The report of a run: which arguments were recognized, what the step decided, and every
-- message on the way. A report is made from the options alone.
import ArgTable.Bootstrap
import ArgTable.Options
import ArgTable.Preprocess

namespace ArgTable

/-- An argument as a report shows it, by its first literal. -/
structure Recognized where
  argument : String
  value : String
  deriving DecidableEq, Repr

structure Report where
  mode : Mode
  success : Bool := false
  instances : List Recognized := []
  bootstrap : Option Bootstrap.Settings := none
  preprocess : Option Preprocess.Settings := none
  diagnostics : List Diagnostic := []
  deriving DecidableEq, Repr

namespace Report

/-- The instances with their arguments by first literal. -/
def recognized {ι : Type} (argument : ι → Argument) (instances : List (Instance ι)) :
    List Recognized :=
  instances.map fun found => ⟨(argument found.name).id, found.value⟩

/-- A report and the log records of its run. -/
structure Run where
  report : Report
  trace : List LogRecord

/-- The last record of a run. -/
def processedRecord (options : Options) (success : Bool) : LogRecord :=
  .debug <|
    s!"Processed {options.tokens.length} token(s) in {options.mode.title} mode, "
      ++ s!"success: {Options.boolName success}"

/-- The run of the step that starts a build. -/
def ofBootstrap (options : Options) (verdict : Verdict Bootstrap.Settings) : Run where
  report :=
    { mode := options.mode
      success := verdict.accepted.isSome
      instances := recognized BuildArgument.argument verdict.instances
      bootstrap := verdict.accepted
      diagnostics := verdict.notices.map (·.diagnostic) }
  trace := verdict.trace ++ [processedRecord options verdict.accepted.isSome]

/-- The run of the step that prepares an analysis. -/
def ofPreprocess (options : Options) (verdict : Verdict Preprocess.Settings) : Run where
  report :=
    { mode := options.mode
      success := verdict.accepted.isSome
      instances := recognized BuildArgument.argument verdict.instances
      preprocess := verdict.accepted
      diagnostics := verdict.notices.map (·.diagnostic) }
  trace := verdict.trace ++ [processedRecord options verdict.accepted.isSome]

/-- The run over the user's own table. -/
def ofGeneric {ι : Type} (options : Options) (argument : ι → Argument)
    (outcome : Outcome ι) : Run where
  report :=
    { mode := options.mode
      success := outcome.success
      instances := recognized argument outcome.instances
      diagnostics := outcome.notices.map (·.diagnostic) }
  trace := outcome.trace ++ [processedRecord options outcome.success]

/-- Reads the tokens in the mode of the options. Only the user's own table can be at fault. -/
def run (options : Options) : Except Fault Run :=
  match options.mode with
  | .bootstrapper => .ok (ofBootstrap options (Bootstrap.process options.tokens))
  | .preProcessor => .ok (ofPreprocess options (Preprocess.process options.tokens))
  | .generic => do
    let arguments ← options.arguments
    let table ←
      Table.build arguments.get (List.finRange arguments.length) options.allowUnrecognized
    return ofGeneric options table.argument (table.parse options.tokens)

/-- The lines of help for a mode. The generic mode has no table of its own. -/
def usage : Mode → List String
  | .bootstrapper => Bootstrap.table.usage
  | .preProcessor => Preprocess.table.usage
  | .generic => []

/-- What the help of the program closes with. -/
def helpTail : String :=
  "Bootstrapper arguments:" ++ String.join (Bootstrap.table.usage.map ("\n  " ++ ·))

end Report

end ArgTable
