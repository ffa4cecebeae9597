-- The options of the program: which step to run, how to write the report, and the table for
-- the generic mode, which is made of the literals that the user names.
import ArgTable.Table
import ArgTable.Text.Quoted

namespace ArgTable

/-- How a report is written. -/
inductive Format where
  | plain
  | json
  deriving DecidableEq, Repr

/-- Which table the tokens are read with. -/
inductive Mode where
  | bootstrapper
  | preProcessor
  | generic
  deriving DecidableEq, Repr

namespace Format

def name : Format → String
  | plain => "plain"
  | json => "json"

/-- The name as the log writes it. -/
def title : Format → String
  | plain => "Plain"
  | json => "Json"

def ofName? : String → Option Format
  | "plain" => some plain
  | "json" => some json
  | _ => none

end Format

namespace Mode

def name : Mode → String
  | bootstrapper => "bootstrapper"
  | preProcessor => "pre-processor"
  | generic => "generic"

/-- The name as the log writes it. -/
def title : Mode → String
  | bootstrapper => "Bootstrapper"
  | preProcessor => "PreProcessor"
  | generic => "Generic"

def ofName? : String → Option Mode
  | "bootstrapper" => some bootstrapper
  | "pre-processor" => some preProcessor
  | "generic" => some generic
  | _ => none

theorem name_injective : Function.Injective name := by
  intro mode other h
  cases mode <;> cases other <;> first | rfl | exact absurd h (by decide)

end Mode

structure Options where
  noColor : Bool := false
  verbose : Bool := false
  format : Format := .plain
  mode : Mode := .bootstrapper
  prefixes : List String := []
  verbs : List String := []
  allowUnrecognized : Bool := false
  allowMultiple : Bool := false
  tokens : List String := []
  deriving DecidableEq, Repr

namespace Options

/-! ## Options that go together -/

/-- The user named a literal of a table. -/
def namesTable (options : Options) : Bool :=
  !options.prefixes.isEmpty || !options.verbs.isEmpty

/-- The generic mode needs a table, and only that mode has one of the user's. -/
def fault? (options : Options) : Option Fault :=
  match options.mode with
  | .generic => if options.namesTable then none else some .genericWithoutTable
  | .bootstrapper | .preProcessor =>
    if options.namesTable || options.allowUnrecognized || options.allowMultiple then
      some .tableOutsideGeneric
    else none

/-- The options, if they go together. -/
def check (options : Options) : Except Fault Options :=
  match options.fault? with
  | some fault => .error fault
  | none => .ok options

/-! ## The table of the generic mode -/

/-- The argument of a literal that stands in front of a value. -/
def prefixArgument (multiple : Bool) (literal : String) : Except Fault Argument :=
  (Argument.declare (.prefixed [literal]) s!"Argument '{literal}'").map fun argument =>
    if multiple then argument.asMultiple else argument

/-- The argument of a bare word. -/
def verbArgument (literal : String) : Except Fault Argument :=
  Argument.declare (.verb literal) s!"Verb '{literal}'"

/-- The arguments that the user names, prefixes first, or the first fault among them. -/
def arguments (options : Options) : Except Fault (List Argument) := do
  let prefixed ← options.prefixes.mapM (prefixArgument options.allowMultiple)
  let verbs ← options.verbs.mapM verbArgument
  return prefixed ++ verbs

/-! ## Text -/

def boolName (b : Bool) : String := if b then "true" else "false"

/-- All options in one line, for the log. -/
def describe (options : Options) : String :=
  "Config \x7b no_color: " ++ boolName options.noColor
    ++ ", verbose: " ++ boolName options.verbose
    ++ ", format: " ++ options.format.title
    ++ ", mode: " ++ options.mode.title
    ++ ", prefixes: " ++ Text.quotedList options.prefixes
    ++ ", verbs: " ++ Text.quotedList options.verbs
    ++ ", allow_unrecognized: " ++ boolName options.allowUnrecognized
    ++ ", allow_multiple: " ++ boolName options.allowMultiple
    ++ ", tokens: " ++ Text.quotedList options.tokens
    ++ " \x7d"

end Options

end ArgTable
