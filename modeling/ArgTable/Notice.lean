-- What is said about the user's tokens. Every notice is a cause with the texts it speaks of,
-- and its wording is one function of the cause. All notices are errors but one.
import ArgTable.Diagnostic

namespace ArgTable

inductive Notice where
  /-- No argument of the table accepts the token. -/
  | unrecognized (token : String)
  /-- The token supplies an argument again that may be supplied once. -/
  | repeated (token existing : String)
  /-- A required argument was not supplied. -/
  | missing (description : String)
  /-- The text is no analysis property. -/
  | malformedProperty (raw : String)
  /-- The text supplies a property again. -/
  | repeatedProperty (raw existing : String)
  /-- The property has an argument of its own. -/
  | dedicatedProperty (literal key : String)
  /-- The property is never supplied by the user. -/
  | automaticProperty (key : String)
  | bothPhases
  | neitherPhase
  | invalidInstall (value : String)
  | invalidProjectKey (key : String)
  deriving DecidableEq, Repr

namespace Notice

def severity : Notice → Severity
  | neitherPhase => .warning
  | _ => .error

/-- The texts that a notice speaks of. -/
def texts : Notice → List String
  | unrecognized token => [token]
  | repeated token existing => [token, existing]
  | missing description => [description]
  | malformedProperty raw => [raw]
  | repeatedProperty raw existing => [raw, existing]
  | dedicatedProperty literal key => [literal, key]
  | automaticProperty key => [key]
  | bothPhases | neitherPhase => []
  | invalidInstall value => [value]
  | invalidProjectKey key => [key]

def message : Notice → String
  | unrecognized token => s!"Unrecognized command line argument: {token}"
  | repeated token existing =>
    s!"A value has already been supplied for this argument: {token}. Existing: '{existing}'"
  | missing description => s!"A required argument is missing: {description}"
  | malformedProperty raw => s!"The format of the analysis property {raw} is invalid"
  | repeatedProperty raw existing =>
    "A value has already been supplied for this property. " ++
      s!"Key: {raw}, existing value: {existing}"
  | dedicatedProperty literal key =>
    s!"Please use the parameter prefix '{literal}' to define '{key}' " ++
      "instead of an analysis property"
  | automaticProperty key =>
    s!"The property '{key}' is set automatically and cannot be supplied on the command line"
  | bothPhases =>
    "Invalid command line parameters. Please specify either 'begin' or 'end', not both."
  | neitherPhase =>
    "Neither 'begin' nor 'end' was specified. " ++
      "The phase is inferred from the number of arguments; " ++
      "this behavior is deprecated and 'begin' or 'end' should be used instead."
  | invalidInstall value =>
    s!"Invalid value for /install: {value}. Valid values are 'true' or 'false'."
  | invalidProjectKey key =>
    s!"Invalid project key '{key}'. Allowed characters are alphanumeric, '-', '_', '.' and ':', " ++
      "with at least one non-digit."

def diagnostic (notice : Notice) : Diagnostic := ⟨notice.severity, notice.message⟩

end Notice

end ArgTable
