-- The step that prepares an analysis before the build. It knows every argument it can be
-- given, so a token it does not know is an error here.
import ArgTable.ProjectKey
import ArgTable.Property
import ArgTable.Verdict

namespace ArgTable.Preprocess

/-- The arguments of this step, in matching order. -/
def table : Table BuildArgument where
  argument := BuildArgument.argument
  order := [.projectKey, .projectName, .projectVersion, .organization, .installTargets,
    .settingsFile, .property]
  distinct := by decide
  lenient := false

/-- What the analysis runs with. -/
structure Settings where
  projectKey : String
  projectName : Option String
  projectVersion : Option String
  organization : Option String
  installTargets : Bool
  settingsFile : Option String
  properties : List Property
  deriving DecidableEq, Repr

/-! ## Installing the build targets -/

/-- Reads `true` or `false` in any ASCII letter case, with blanks around it. -/
def readSwitch? (value : String) : Option Bool :=
  let word := (Text.trimmed value.toList).map Char.toLower
  if word = "true".toList then some true
  else if word = "false".toList then some false
  else none

/-- Whether to install, and what there is to say about it. Without a word the build targets
are installed. -/
def chooseInstall (instances : List (Instance BuildArgument)) : Option Bool × List Notice :=
  match Instance.value? .installTargets instances with
  | none => (some true, [])
  | some value =>
    match readSwitch? value with
    | some install => (some install, [])
    | none => (none, [.invalidInstall value])

/-! ## The step -/

/-- The settings that the instances of an accepted parse spell, once the values that need
reading are read. -/
def settingsOf (instances : List (Instance BuildArgument)) (projectKey : String)
    (installTargets : Bool) (properties : List Property) : Settings where
  projectKey
  projectName := Instance.value? .projectName instances
  projectVersion := Instance.value? .projectVersion instances
  organization := Instance.value? .organization instances
  installTargets
  settingsFile := Instance.value? .settingsFile instances
  properties

/-- What the step makes of what a table read. The project key is looked at last, once everything
else is in order. -/
def judge (outcome : Outcome BuildArgument) : Verdict Settings :=
  let (properties, propertyNotices) := Property.extract .property outcome.instances
  let (install, installNotices) := chooseInstall outcome.instances
  let notices := outcome.notices ++ installNotices ++ propertyNotices
  let refused (more : List Notice) : Verdict Settings :=
    { accepted := none, instances := [], notices := notices ++ more, trace := outcome.trace }
  match outcome.success, install, properties with
  | true, some install, some properties =>
    match Instance.value? .projectKey outcome.instances with
    | none => refused []
    | some key =>
      if ProjectKey.isValid key then
        { accepted := some (settingsOf outcome.instances key install properties)
          instances := outcome.instances
          notices
          trace := outcome.trace }
      else refused [.invalidProjectKey key]
  | _, _, _ => refused []

/-- Reads the tokens. -/
def process (tokens : List String) : Verdict Settings := judge (table.parse tokens)

end ArgTable.Preprocess
