-- What is wrong with a declaration: an argument that cannot be told apart or is not
-- described, a table that lists an argument twice, options that do not go together. Faults
-- are about how the program was set up. What is wrong with the user's tokens is a notice.

namespace ArgTable

inductive Fault where
  | noLiteral
  | emptyLiteral
  | repeatedLiteral (literal : String)
  | noDescription (literal : String)
  | repeatedArgument (literal description : String)
  | genericWithoutTable
  | tableOutsideGeneric
  deriving DecidableEq, Repr

/-- The part of the declaration that a fault is about. -/
inductive Fault.Kind where
  | argument
  | table
  | options
  deriving DecidableEq, Repr

namespace Fault

def kind : Fault → Kind
  | noLiteral | emptyLiteral | repeatedLiteral _ | noDescription _ => .argument
  | repeatedArgument _ _ => .table
  | genericWithoutTable | tableOutsideGeneric => .options

/-- The texts that a fault speaks of. -/
def texts : Fault → List String
  | repeatedLiteral literal | noDescription literal => [literal]
  | repeatedArgument literal description => [literal, description]
  | noLiteral | emptyLiteral | genericWithoutTable | tableOutsideGeneric => []

/-- What the message of a fault opens with. -/
def Kind.opening : Kind → String
  | .argument => "Invalid argument descriptor: "
  | .table => "Duplicate argument descriptor: "
  | .options => "Configuration error: "

def detail : Fault → String
  | noLiteral => "at least one prefix must be supplied"
  | emptyLiteral => "prefixes must not be empty"
  | repeatedLiteral literal => s!"prefix '{literal}' is listed more than once"
  | noDescription literal => s!"a description is required for '{literal}'"
  | repeatedArgument literal description =>
    s!"'{literal}' ({description}) is listed more than once"
  | genericWithoutTable => "Generic mode requires at least one --prefix or --verb"
  | tableOutsideGeneric =>
    "--prefix, --verb, --allow-unrecognized and --allow-multiple " ++
      "are only valid in generic mode"

def message (fault : Fault) : String := fault.kind.opening ++ fault.detail

end Fault

end ArgTable
