-- The arguments of an analysis build. The first four are those of the step that starts the
-- build, and the last seven those of the step that prepares it, so the settings file and the
-- properties belong to both.
import ArgTable.Table

namespace ArgTable

inductive BuildArgument where
  | beginVerb
  | endVerb
  | settingsFile
  | property
  | projectKey
  | projectName
  | projectVersion
  | organization
  | installTargets
  deriving DecidableEq, Repr

namespace BuildArgument

def argument : BuildArgument → Argument
  | beginVerb =>
    { form := .verb "begin"
      description := "Performs the pre-processing steps before the build"
      faultless := by decide }
  | endVerb =>
    { form := .verb "end"
      description := "Performs the analysis steps after the build"
      faultless := by decide }
  | settingsFile =>
    { form := .prefixed ["/s:"]
      description := "Path to the analysis settings file"
      faultless := by decide }
  | property =>
    { form := .prefixed ["/d:"]
      description := "Analysis property in the form key=value"
      multiple := true
      faultless := by decide }
  | projectKey =>
    { form := .prefixed ["/key:", "/k:"]
      description := "Project key"
      required := true
      faultless := by decide }
  | projectName =>
    { form := .prefixed ["/name:", "/n:"]
      description := "Project name"
      faultless := by decide }
  | projectVersion =>
    { form := .prefixed ["/version:", "/v:"]
      description := "Project version"
      faultless := by decide }
  | organization =>
    { form := .prefixed ["/organization:", "/o:"]
      description := "Organization key"
      faultless := by decide }
  | installTargets =>
    { form := .prefixed ["/install:"]
      description := "Whether to install the build targets (true|false)"
      faultless := by decide }

/-- Every argument, once. -/
def all : List BuildArgument :=
  [beginVerb, endVerb, settingsFile, property, projectKey, projectName, projectVersion,
    organization, installTargets]

end BuildArgument

end ArgTable
