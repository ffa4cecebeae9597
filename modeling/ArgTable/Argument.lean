-- Arguments. An argument is written either as a verb, a bare word that is the whole token,
-- or with one of its literals in front of a value. Every argument has at least one literal,
-- no empty and no repeated one, and a description that is not blank.
import ArgTable.Fault
import ArgTable.FirstRepeat
import ArgTable.Text.Blank

namespace ArgTable

/-! ## Forms -/

/-- How an argument is written. -/
inductive Form where
  /-- The bare word. It carries no value. -/
  | verb (literal : String)
  /-- One of the literals, and the value right behind it. -/
  | prefixed (literals : List String)
  deriving DecidableEq, Repr

/-- What is left of the token behind the literal, for a token that opens with it. -/
def remainder? (literal token : String) : Option String :=
  (literal.toList.isPrefixOf? token.toList).map String.ofList

namespace Form

def literals : Form → List String
  | verb literal => [literal]
  | prefixed literals => literals

def isVerb : Form → Bool
  | verb _ => true
  | prefixed _ => false

/-- The value that the form reads from a token. Of several literals that fit, the one
declared first counts. -/
def accept? : Form → String → Option String
  | verb literal, token => if token = literal then some "" else none
  | prefixed literals, token => literals.findSome? (remainder? · token)

/-- The first thing that is wrong with a form and its description. -/
def fault? (form : Form) (description : String) : Option Fault :=
  match form.literals with
  | [] => some .noLiteral
  | first :: others =>
    if "" ∈ first :: others then some .emptyLiteral
    else match firstRepeat? (first :: others) with
      | some literal => some (.repeatedLiteral literal)
      | none => if Text.allBlank description then some (.noDescription first) else none

end Form

/-! ## Arguments -/

structure Argument where
  form : Form
  description : String
  /-- The argument has to be supplied. -/
  required : Bool := false
  /-- The argument may be supplied more than once. -/
  multiple : Bool := false
  faultless : form.fault? description = none
  deriving DecidableEq

namespace Argument

/-- An optional argument that may be supplied once, or what is wrong with it. -/
def declare (form : Form) (description : String) : Except Fault Argument :=
  match h : form.fault? description with
  | some fault => .error fault
  | none => .ok { form, description, faultless := h }

/-- The same argument, which now has to be supplied. -/
def asRequired (argument : Argument) : Argument := { argument with required := true }

/-- The same argument, which may now be supplied any number of times. -/
def asMultiple (argument : Argument) : Argument := { argument with multiple := true }

/-- The first literal. It names the argument in messages and reports. -/
def id (argument : Argument) : String := argument.form.literals.headD ""

/-- The value that the argument reads from a token. -/
def accept? (argument : Argument) (token : String) : Option String :=
  argument.form.accept? token

/-- One line of help: the literals, the place of the value, the flags, the description. -/
def usage (argument : Argument) : String :=
  String.intercalate "|" argument.form.literals
    ++ (if argument.form.isVerb then "" else "<value>")
    ++ "  "
    ++ (if argument.required then "[required] " else "")
    ++ (if argument.multiple then "[multiple] " else "")
    ++ argument.description

theorem literals_ne_nil (argument : Argument) : argument.form.literals ≠ [] := by
  intro h
  have := argument.faultless
  simp [Form.fault?, h] at this

theorem empty_not_mem_literals (argument : Argument) : "" ∉ argument.form.literals := by
  intro h
  have faultless := argument.faultless
  unfold Form.fault? at faultless
  split at faultless
  · simp at faultless
  · next heq =>
    rw [heq] at h
    rw [if_pos h] at faultless
    simp at faultless

end Argument

end ArgTable
