-- Analysis properties. A property is written as a key, an equals sign and a value, and the
-- first equals sign ends the key. From a list of such texts the well-formed ones are kept
-- under distinct keys, and a few keys are reserved for other ways of setting them.
import ArgTable.Instance
import ArgTable.Notice
import ArgTable.Text.Word

namespace ArgTable

structure Property where
  key : String
  value : String
  deriving DecidableEq, Repr

namespace Property

/-! ## Reading one property -/

/-- A character that may follow the first one of a key. -/
def isKeyChar (c : Char) : Bool := Text.isWord c || c = '.' || c = '-'

/-- A key is a word character and any number of key characters after it. -/
def isKey : List Char → Bool
  | [] => false
  | c :: cs => Text.isWord c && cs.all isKeyChar

/-- The texts before and after the first equals sign. -/
def splitAtEquals : List Char → Option (List Char × List Char)
  | [] => none
  | c :: cs =>
    if c = '=' then some ([], cs)
    else (splitAtEquals cs).map fun (before, after) => (c :: before, after)

/-- The property that a text spells. The value may be empty and may hold equals signs. -/
def parse? (text : String) : Option Property :=
  match splitAtEquals text.toList with
  | some (key, value) =>
    if isKey key then some ⟨String.ofList key, String.ofList value⟩ else none
  | none => none

/-- The first property with this key. -/
def find? (key : String) (properties : List Property) : Option Property :=
  properties.find? (·.key = key)

theorem splitAtEquals_eq_some_iff (text before after : List Char) :
    splitAtEquals text = some (before, after) ↔
      text = before ++ '=' :: after ∧ '=' ∉ before := by
  induction text generalizing before with
  | nil => simp [splitAtEquals]
  | cons c cs ih =>
    by_cases h : c = '='
    · subst h
      cases before <;> simp [splitAtEquals, eq_comm]
      intro hb _ hn
      exact absurd hb hn
    · cases before with
      | nil => simp [splitAtEquals, h]
      | cons b bs =>
        simp only [splitAtEquals, h, if_false, Option.map_eq_some_iff, Prod.mk.injEq,
          List.cons.injEq, Prod.exists, List.cons_append, List.mem_cons, not_or]
        constructor
        · rintro ⟨k, v, hk, ⟨rfl, rfl⟩, rfl⟩
          exact ⟨⟨rfl, ((ih k).mp hk).1⟩, fun e => h e.symm, ((ih k).mp hk).2⟩
        · rintro ⟨⟨rfl, hcs⟩, _, hbs⟩
          exact ⟨bs, after, (ih bs).mpr ⟨hcs, hbs⟩, ⟨rfl, rfl⟩, rfl⟩

/-! ## Gathering properties -/

/-- What has been kept so far, and what has been said about the rest. -/
structure Gathering where
  kept : List Property := []
  notices : List Notice := []

/-- One more text. A malformed one and one whose key is kept already are told. -/
def Gathering.take (gathering : Gathering) (raw : String) : Gathering :=
  match parse? raw with
  | none => { gathering with notices := gathering.notices ++ [.malformedProperty raw] }
  | some property =>
    match find? property.key gathering.kept with
    | some existing =>
      { gathering with notices := gathering.notices ++ [.repeatedProperty raw existing.value] }
    | none => { gathering with kept := gathering.kept ++ [property] }

def gather (raws : List String) : Gathering := raws.foldl Gathering.take {}

/-- The reserved keys, in the order in which they are told. -/
def reserved : List (String × Notice) := [
  ("sonar.projectKey", .dedicatedProperty "/k:" "sonar.projectKey"),
  ("sonar.projectName", .dedicatedProperty "/n:" "sonar.projectName"),
  ("sonar.projectVersion", .dedicatedProperty "/v:" "sonar.projectVersion"),
  ("sonar.working.directory", .automaticProperty "sonar.working.directory")]

/-- One notice for each reserved key among the kept properties. -/
def reservedNotices (kept : List Property) : List Notice :=
  (reserved.filter fun entry => (find? entry.1 kept).isSome).map (·.2)

/-- Everything that is wrong with the texts as a list of properties. -/
def noticesOf (raws : List String) : List Notice :=
  (gather raws).notices ++ reservedNotices (gather raws).kept

/-- The properties that the texts spell, when nothing is wrong with them. -/
def collect? (raws : List String) : Option (List Property) :=
  if (noticesOf raws).isEmpty then some (gather raws).kept else none

/-- The properties among the instances, which are those of one argument, and what there is
to say about them. -/
def extract {ι : Type} [DecidableEq ι] (name : ι) (instances : List (Instance ι)) :
    Option (List Property) × List Notice :=
  let raws := Instance.values name instances
  (collect? raws, noticesOf raws)

/-- The properties among the instances, and the journal that all there is to say about them
leaves. -/
def extractInto {ι : Type} [DecidableEq ι] (journal : Journal) (name : ι)
    (instances : List (Instance ι)) : Option (List Property) × Journal :=
  let (properties, notices) := extract name instances
  (properties, journal.recordAll (notices.map (·.diagnostic)))

end Property

end ArgTable
