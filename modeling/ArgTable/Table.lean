-- Tables of arguments, and what a table makes of a list of tokens. A token belongs to the
-- first argument in table order that accepts it. After the tokens are read, arguments that
-- were supplied too often and required ones that were not supplied are told. Each check keeps
-- its own number of errors beside what it tells, and the instances count only when these
-- numbers add up to none.
import ArgTable.Argument
import ArgTable.Instance
import ArgTable.Log
import ArgTable.Notice

namespace ArgTable

/-- Arguments in the order in which they are tried. An argument is known by its name, and no
name is listed twice. Arguments of different names may look the same. -/
structure Table (ι : Type) where
  argument : ι → Argument
  order : List ι
  distinct : order.Nodup
  /-- Tokens that no argument accepts are passed over. -/
  lenient : Bool

/-- What a table makes of a list of tokens. -/
structure Outcome (ι : Type) where
  /-- The parse went through. -/
  success : Bool
  instances : List (Instance ι)
  notices : List Notice
  trace : List LogRecord

/-! ## Tallies -/

/-- What a check has told so far, and the number of errors that it keeps beside it. -/
structure Tally where
  notices : List Notice := []
  errors : Nat := 0
  deriving DecidableEq, Repr

namespace Tally

/-- One more error. -/
def tell (tally : Tally) (notice : Notice) : Tally :=
  ⟨tally.notices ++ [notice], tally.errors + 1⟩

/-- A check after another one. Their numbers are added up. -/
def followedBy (tally later : Tally) : Tally :=
  ⟨tally.notices ++ later.notices, tally.errors + later.errors⟩

end Tally

namespace Table

variable {ι : Type}

/-! ## Reading tokens -/

/-- The instance that the first accepting argument makes of a token. -/
def recognize? (table : Table ι) (token : String) : Option (Instance ι) :=
  table.order.findSome? fun name =>
    ((table.argument name).accept? token).map fun value => ⟨name, value⟩

/-- The tokens that belong to an argument, each with its instance, in token order. -/
def matched (table : Table ι) (tokens : List String) : List (String × Instance ι) :=
  tokens.filterMap fun token => (table.recognize? token).map fun found => (token, found)

/-- One line of help for each argument. -/
def usage (table : Table ι) : List String :=
  table.order.map fun name => (table.argument name).usage

/-- What the log says of one token. -/
def traceOf (table : Table ι) (token : String) : List LogRecord :=
  match table.recognize? token with
  | some found => [.debug s!"Recognized '{token}' as {(table.argument found.name).id}"]
  | none =>
    if table.lenient then [.debug s!"Ignoring unrecognized argument: {token}"] else []

/-- The table of a list of arguments, each known by its place in the list. -/
def ofList (arguments : List Argument) (lenient : Bool) : Table (Fin arguments.length) where
  argument := arguments.get
  order := List.finRange arguments.length
  distinct := List.nodup_finRange arguments.length
  lenient := lenient

variable [DecidableEq ι]

/-- The table with this order, or the first name that is listed again. -/
def build (argument : ι → Argument) (order : List ι) (lenient : Bool) :
    Except Fault (Table ι) :=
  match h : firstRepeat? order with
  | some name => .error (.repeatedArgument (argument name).id (argument name).description)
  | none => .ok { argument, order, lenient, distinct := (firstRepeat?_eq_none_iff order).mp h }

/-- Building never fails on an order without repeats, and every table has one. -/
theorem build_eq_ok (table : Table ι) :
    build table.argument table.order table.lenient = .ok table := by
  have hdistinct := (firstRepeat?_eq_none_iff table.order).mpr table.distinct
  unfold build
  split
  · next name hrepeat =>
    rw [hdistinct] at hrepeat
    cases hrepeat
  · rfl

/-! ## Checks -/

/-- A token that belongs to no argument is told. A lenient table passes over it. -/
def checkToken (table : Table ι) (tally : Tally) (token : String) : Tally :=
  match table.recognize? token with
  | some _ => tally
  | none => if table.lenient then tally else tally.tell (.unrecognized token)

/-- Each token after the first that belongs to an argument which may be supplied once is told,
with the value of the first. -/
def checkRepeats (table : Table ι) (found : List (String × Instance ι)) (tally : Tally)
    (name : ι) : Tally :=
  if (table.argument name).multiple then tally
  else match found.filter fun pair => pair.2.name = name with
    | [] => tally
    | first :: later =>
      later.foldl (fun tally pair => tally.tell (.repeated pair.1 first.2.value)) tally

/-- A required argument that no token belongs to is told. -/
def checkRequired (table : Table ι) (found : List (String × Instance ι)) (tally : Tally)
    (name : ι) : Tally :=
  if (table.argument name).required && !found.any fun pair => pair.2.name = name then
    tally.tell (.missing (table.argument name).description)
  else tally

/-- The tokens are checked in their order, then the arguments in table order, once for repeats
and once for those that are missing. -/
def check (table : Table ι) (tokens : List String) : Tally :=
  let found := table.matched tokens
  ((tokens.foldl table.checkToken {}).followedBy
    (table.order.foldl (table.checkRepeats found) {})).followedBy
      (table.order.foldl (table.checkRequired found) {})

/-- Everything that is wrong with the tokens, in the order in which it is told. -/
def notices (table : Table ι) (tokens : List String) : List Notice := (table.check tokens).notices

/-! ## Parsing -/

/-- What the log says of the number of errors. -/
def traceOfErrors : Nat → List LogRecord
  | 0 => []
  | n => [.debug s!"Argument parsing failed with {n} error(s)"]

/-- What the log says of the tokens. -/
def trace (table : Table ι) (tokens : List String) : List LogRecord :=
  tokens.flatMap table.traceOf ++ traceOfErrors (table.check tokens).errors

/-- The instances count only when no error is counted. -/
def parse (table : Table ι) (tokens : List String) : Outcome ι :=
  let checked := table.check tokens
  { success := checked.errors = 0
    instances := if checked.errors = 0 then (table.matched tokens).map (·.2) else []
    notices := checked.notices
    trace := table.trace tokens }

/-- One parse over a journal. It gives the outcome and the journal that it leaves. -/
def parseInto (table : Table ι) (journal : Journal) (tokens : List String) :
    Outcome ι × Journal :=
  let outcome := table.parse tokens
  (outcome, journal.recordAll (outcome.notices.map (·.diagnostic)))

/-- One parse after the other over the same journal. Each gives its outcome and the journal
that it leaves. -/
def parseAll (table : Table ι) (journal : Journal) :
    List (List String) → List (Outcome ι × Journal)
  | [] => []
  | tokens :: runs =>
    let run := table.parseInto journal tokens
    run :: table.parseAll run.2 runs

end Table

end ArgTable
