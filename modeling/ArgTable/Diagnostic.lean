-- Messages for the user. A diagnostic is a severity and a text, and a journal keeps every
-- diagnostic in the order it came, so it can be asked what was said and how often.

namespace ArgTable

/-! ## Diagnostics -/

inductive Severity where
  | error
  | warning
  | info
  deriving DecidableEq, Repr

def Severity.name : Severity → String
  | .error => "error"
  | .warning => "warning"
  | .info => "info"

theorem Severity.name_injective : Function.Injective Severity.name := by
  intro severity other h
  cases severity <;> cases other <;> first | rfl | exact absurd h (by decide)

structure Diagnostic where
  severity : Severity
  message : String
  deriving DecidableEq, Repr

/-! ## The journal -/

/-- Every diagnostic so far, oldest first. -/
structure Journal where
  entries : List Diagnostic := []
  deriving DecidableEq, Repr

namespace Journal

def record (journal : Journal) (diagnostic : Diagnostic) : Journal :=
  ⟨journal.entries ++ [diagnostic]⟩

def recordAll (journal : Journal) (diagnostics : List Diagnostic) : Journal :=
  ⟨journal.entries ++ diagnostics⟩

/-- The texts of one severity, oldest first. -/
def messages (journal : Journal) (severity : Severity) : List String :=
  (journal.entries.filter (·.severity = severity)).map (·.message)

def count (journal : Journal) (severity : Severity) : Nat :=
  journal.entries.countP (·.severity = severity)

/-- The fragment stands somewhere in the text. The empty fragment stands in every text. -/
def occurs (fragment : List Char) : List Char → Bool
  | [] => fragment.isEmpty
  | c :: cs => fragment.isPrefixOf (c :: cs) || occurs fragment cs

/-- The fragment stands somewhere in the message. -/
def mentions (message fragment : String) : Bool :=
  occurs fragment.toList message.toList

/-- Exactly one error mentions all the fragments. -/
def hasSingleError (journal : Journal) (fragments : List String) : Bool :=
  (journal.messages .error).countP (fun message => fragments.all (mentions message)) = 1

/-- Some warning mentions the fragment. -/
def hasWarning (journal : Journal) (fragment : String) : Bool :=
  (journal.messages .warning).any (mentions · fragment)

/-- A journal of all that both say, this one first. -/
def followedBy (journal later : Journal) : Journal :=
  journal.recordAll later.entries

theorem count_recordAll (journal : Journal) (ds : List Diagnostic) (severity : Severity) :
    (journal.recordAll ds).count severity =
      journal.count severity + ds.countP (·.severity = severity) := by
  simp [count, recordAll, List.countP_append]

end Journal

end ArgTable
