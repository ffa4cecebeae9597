-- Texts without terminal controls. A control sequence opens with the escape character and
-- runs to a final character that depends on its kind. Sequences are left out of a text, as
-- are the controls that stand alone, and white space stays wherever a terminal acts on it.

namespace ArgTable.Text

/-- Where a reader stands in a control sequence. -/
inductive ControlStage where
  /-- Outside every sequence. -/
  | rest
  /-- Behind the escape character. -/
  | escape
  /-- In an escape sequence with intermediate characters. -/
  | intermediate
  /-- In a control sequence proper, which opens with a left bracket. -/
  | control
  /-- At the head of a device control string. -/
  | device
  /-- Behind a parameter of a device control string. -/
  | deviceParameter
  /-- Behind an intermediate character of a device control string. -/
  | deviceIntermediate
  /-- In the body of a device control string, or in a string for the application. -/
  | hidden
  /-- In a command to the operating system, which a bell ends. -/
  | command
  deriving DecidableEq, Repr

namespace ControlStage

/-- The characters of ASCII white space, the vertical tab aside. -/
def isLayout (c : Char) : Bool :=
  c == '\t' || c == '\n' || c == '\x0c' || c == '\r'

/-- The character is shown at this stage. A sequence shows nothing of its own, but the white
space inside one is acted on, except inside a string. -/
def shows (stage : ControlStage) (c : Char) : Bool :=
  match stage with
  | rest => isLayout c || (' ' ≤ c && c != '\x7f')
  | escape | intermediate | control => isLayout c
  | device | deviceParameter | deviceIntermediate | hidden | command => false

/-- The stage behind an escape character and this one. -/
def opened (c : Char) : ControlStage :=
  match c with
  | '[' => control
  | ']' => command
  | 'P' => device
  | 'X' | '^' | '_' => hidden
  | c => if c ≤ '/' then intermediate else rest

/-- The stage behind an ASCII character that is neither a control nor a delete. -/
def followed (stage : ControlStage) (c : Char) : ControlStage :=
  match stage with
  | rest => rest
  | escape => opened c
  | intermediate => if c ≤ '/' then intermediate else rest
  | control => if c ≤ '?' then control else rest
  | device =>
    if c ≤ '/' then deviceIntermediate else if c ≤ '?' then deviceParameter else hidden
  | deviceParameter =>
    if c ≤ '/' then deviceIntermediate else if c ≤ ';' then deviceParameter else hidden
  | deviceIntermediate => if c ≤ '/' then deviceIntermediate else hidden
  | hidden => hidden
  | command => command

/-- The encoding of the character holds the byte 9C, which ends a hidden string. -/
def closesHidden (c : Char) : Bool :=
  (String.utf8EncodeChar c).contains 0x9C

/-- The stage behind a character that is not shown. The escape character opens a new sequence
at every stage, and cancel and substitute end one. -/
def next (stage : ControlStage) (c : Char) : ControlStage :=
  if c == '\x1b' then escape
  else if c == '\x18' || c == '\x1a' then rest
  else if c == '\x07' && stage == command then rest
  else if c < ' ' || c == '\x7f' then stage
  else if c < '\x80' then stage.followed c
  else if stage == hidden && closesHidden c then rest
  else stage

end ControlStage

/-- The characters that are shown, from the stage on. White space inside a sequence is shown,
and then so is what follows it, up to the first character that is shown nowhere. There the
sequence is taken up again, unless a character outside ASCII has put an end to it. -/
def shownFrom : ControlStage → Bool → List Char → List Char
  | _, _, [] => []
  | stage, showing, c :: cs =>
    if stage.shows c || (showing && ControlStage.rest.shows c) then
      c :: shownFrom (if c < '\x80' then stage else .rest) true cs
    else shownFrom (stage.next c) false cs

/-- The text without terminal controls. -/
def withoutControls (text : String) : String :=
  String.ofList (shownFrom .rest false text.toList)

end ArgTable.Text
