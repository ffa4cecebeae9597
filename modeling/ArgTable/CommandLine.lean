-- The command line of the program. Options come first and are read from left to right, and
-- the first word that is neither an option nor the value of one opens the tokens, which are
-- taken as they stand. Reading ends early at the first mistake and at a call for help or for
-- the version.
import ArgTable.Options

namespace ArgTable.CommandLine

/-! ## Options and their spellings -/

/-- An option without a value. -/
inductive Flag where
  | noColor
  | verbose
  | allowUnrecognized
  | allowMultiple
  | help
  | version
  deriving DecidableEq, Repr

/-- An option with a value. -/
inductive Setting where
  | format
  | mode
  | leading
  | verb
  deriving DecidableEq, Repr

inductive Switch where
  | flag (flag : Flag)
  | setting (setting : Setting)
  deriving DecidableEq, Repr

/-- The option that is written with two hyphens and this name. -/
def long? : String → Option Switch
  | "no-color" => some (.flag .noColor)
  | "verbose" => some (.flag .verbose)
  | "allow-unrecognized" => some (.flag .allowUnrecognized)
  | "allow-multiple" => some (.flag .allowMultiple)
  | "help" => some (.flag .help)
  | "version" => some (.flag .version)
  | "format" => some (.setting .format)
  | "mode" => some (.setting .mode)
  | "prefix" => some (.setting .leading)
  | "verb" => some (.setting .verb)
  | _ => none

/-- The option that is written with one hyphen and this letter. -/
def short? : Char → Option Switch
  | 'n' => some (.flag .noColor)
  | 'a' => some (.flag .allowUnrecognized)
  | 'M' => some (.flag .allowMultiple)
  | 'h' => some (.flag .help)
  | 'V' => some (.flag .version)
  | 'f' => some (.setting .format)
  | 'm' => some (.setting .mode)
  | 'p' => some (.setting .leading)
  | _ => none

/-! ## Words -/

/-- What one word asks for: flags, and then at most one setting. Its value is either in the
same word or it is the next word. -/
structure Request where
  flags : List Flag := []
  setting : Option (Setting × Option String) := none
  deriving DecidableEq, Repr

inductive Word where
  | request (request : Request)
  /-- A flag with a value, which it does not take. -/
  | excess
  /-- Two hyphens alone: everything after them is tokens. -/
  | separator
  | token
  deriving DecidableEq, Repr

/-- The request of a row of option letters. Behind a setting the rest of the row is its
value. -/
def Request.ofLetters : List Char → Request
  | [] => {}
  | c :: cs =>
    match short? c with
    | some (.flag flag) =>
      let request := ofLetters cs
      { request with flags := flag :: request.flags }
    | some (.setting setting) =>
      { setting := some (setting, if cs.isEmpty then none else some (String.ofList cs)) }
    | none => {}

/-- What the text behind two hyphens is, with the part from the first equals sign on. -/
def Word.ofLong (name value : List Char) : Word :=
  match long? (String.ofList name), value with
  | none, _ => .token
  | some (.flag flag), [] => .request { flags := [flag] }
  | some (.flag _), _ :: _ => .excess
  | some (.setting setting), [] => .request { setting := some (setting, none) }
  | some (.setting setting), _ :: cs =>
    .request { setting := some (setting, some (String.ofList cs)) }

/-- What a word is, while options are still read. A row of letters is one of options only if
each of its letters is an option, and a long name has to be written out. -/
def Word.ofText (text : String) : Word :=
  match text.toList with
  | ['-', '-'] => .separator
  | '-' :: '-' :: cs => .ofLong (cs.takeWhile (· ≠ '=')) (cs.dropWhile (· ≠ '='))
  | '-' :: c :: cs =>
    if (c :: cs).all fun letter => (short? letter).isSome then .request (.ofLetters (c :: cs))
    else .token
  | _ => .token

/-! ## Reading -/

/-- Why reading ended without options. -/
inductive Stop where
  | help
  | version
  | invalidValue
  | repeatedOption
  | unexpectedValue
  deriving DecidableEq, Repr

def Stop.exitCode : Stop → Nat
  | help | version => 0
  | invalidValue | repeatedOption | unexpectedValue => 2

/-- The options read so far. -/
structure Draft where
  noColor : Bool := false
  verbose : Bool := false
  allowUnrecognized : Bool := false
  allowMultiple : Bool := false
  format : Option Format := none
  mode : Option Mode := none
  prefixes : List String := []
  verbs : List String := []
  deriving DecidableEq, Repr

namespace Draft

/-- A flag is raised at most once. -/
def raise (draft : Draft) : Flag → Except Stop Draft
  | .noColor =>
    if draft.noColor then .error .repeatedOption else .ok { draft with noColor := true }
  | .verbose =>
    if draft.verbose then .error .repeatedOption else .ok { draft with verbose := true }
  | .allowUnrecognized =>
    if draft.allowUnrecognized then .error .repeatedOption
    else .ok { draft with allowUnrecognized := true }
  | .allowMultiple =>
    if draft.allowMultiple then .error .repeatedOption
    else .ok { draft with allowMultiple := true }
  | .help => .error .help
  | .version => .error .version

/-- Raises the flags one after the other. -/
def raiseAll (draft : Draft) : List Flag → Except Stop Draft
  | [] => .ok draft
  | flag :: flags => (draft.raise flag).bind (·.raiseAll flags)

/-- Format and mode are set at most once and to a value by name. Literals add up. -/
def assign (draft : Draft) (setting : Setting) (value : String) : Except Stop Draft :=
  match setting with
  | .format =>
    if draft.format.isSome then .error .repeatedOption
    else match Format.ofName? value with
      | some format => .ok { draft with format := some format }
      | none => .error .invalidValue
  | .mode =>
    if draft.mode.isSome then .error .repeatedOption
    else match Mode.ofName? value with
      | some mode => .ok { draft with mode := some mode }
      | none => .error .invalidValue
  | .leading => .ok { draft with prefixes := draft.prefixes ++ [value] }
  | .verb => .ok { draft with verbs := draft.verbs ++ [value] }

/-- The options, with defaults for what was not said, and the tokens. -/
def finish (draft : Draft) (tokens : List String) : Options where
  noColor := draft.noColor
  verbose := draft.verbose
  format := draft.format.getD .plain
  mode := draft.mode.getD .bootstrapper
  prefixes := draft.prefixes
  verbs := draft.verbs
  allowUnrecognized := draft.allowUnrecognized
  allowMultiple := draft.allowMultiple
  tokens := tokens

end Draft

/-- What the last setting still owes. A value in the setting's own word is judged at once,
and a value in the next word only when it is clear what comes after it. -/
inductive Pending where
  | nothing
  /-- The setting waits for its value. -/
  | awaiting (setting : Setting)
  /-- The value has come and is not judged yet. -/
  | holding (setting : Setting) (value : String)
  deriving DecidableEq, Repr

/-- Judges what is pending. A setting that still waits for its value gets none. -/
def Draft.settle (draft : Draft) : Pending → Except Stop Draft
  | .nothing => .ok draft
  | .awaiting _ => .error .invalidValue
  | .holding setting value => draft.assign setting value

/-- Where reading stands between two words. -/
inductive State where
  /-- Options may follow. -/
  | reading (draft : Draft) (pending : Pending)
  /-- Everything that follows is tokens. -/
  | closed (draft : Draft) (tokens : List String)
  deriving DecidableEq, Repr

namespace State

/-- Reads a request. A setting without a value in its own word waits for the next word. -/
def obey (draft : Draft) (request : Request) : Except Stop State :=
  (draft.raiseAll request.flags).bind fun draft =>
    match request.setting with
    | none => .ok (.reading draft .nothing)
    | some (setting, some value) => (draft.assign setting value).map (.reading · .nothing)
    | some (setting, none) => .ok (.reading draft (.awaiting setting))

/-- Reads a word that asks for no option. It is the value that a setting waits for, or else
the first token. -/
def take (draft : Draft) (text : String) : Pending → Except Stop State
  | .awaiting setting => .ok (.reading draft (.holding setting text))
  | pending => (draft.settle pending).map (.closed · [text])

/-- Reads one word. What is pending is judged before the word itself, but where the word is a
flag with a value, that is the mistake that counts. -/
def step : State → String → Except Stop State
  | reading draft pending, text =>
    match Word.ofText text with
    | .request request => (draft.settle pending).bind (obey · request)
    | .excess => .error .unexpectedValue
    | .separator => (draft.settle pending).map (.closed · [])
    | .token => take draft text pending
  | closed draft tokens, text => .ok (.closed draft (tokens ++ [text]))

/-- Reads the words one after the other, up to the first that ends it. -/
def steps (state : State) : List String → Except Stop State
  | [] => .ok state
  | word :: words => (state.step word).bind (·.steps words)

/-- The options when no word is left. -/
def finish : State → Except Stop Options
  | reading draft pending => (draft.settle pending).map (·.finish [])
  | closed draft tokens => .ok (draft.finish tokens)

end State

/-- Reads the words after the program's name. -/
def read (words : List String) : Except Stop Options :=
  ((State.reading {} .nothing).steps words).bind State.finish

end ArgTable.CommandLine
