-- A report as plain lines: one line for each recognized argument, with a tab in front of the
-- value, and then one line for each thing that the step decided. A failed report has none.
import ArgTable.Report

namespace ArgTable.Report

def recognizedLine (recognized : Recognized) : String :=
  recognized.argument ++ "\t" ++ recognized.value

/-- A label, a colon and a value. -/
def labelled (label value : String) : String := label ++ ": " ++ value

/-- The line of a value that may be absent. -/
def optionalLine (label : String) : Option String → List String
  | none => []
  | some value => [labelled label value]

def propertyLine (property : Property) : String :=
  labelled "property" (property.key ++ "=" ++ property.value)

def bootstrapLines (settings : Bootstrap.Settings) : List String :=
  [labelled "phase" settings.phase.name]
    ++ optionalLine "settings file" settings.settingsFile
    ++ settings.properties.map propertyLine
    ++ settings.childArgs.map (labelled "child argument")

def preprocessLines (settings : Preprocess.Settings) : List String :=
  [labelled "project key" settings.projectKey]
    ++ optionalLine "project name" settings.projectName
    ++ optionalLine "project version" settings.projectVersion
    ++ optionalLine "organization" settings.organization
    ++ optionalLine "settings file" settings.settingsFile
    ++ [labelled "install targets" (Options.boolName settings.installTargets)]
    ++ settings.properties.map propertyLine

/-- The lines of what is there, and none of what is not. -/
def linesOf {α : Type} (lines : α → List String) : Option α → List String
  | none => []
  | some settings => lines settings

/-- The lines of a report, one for each item. -/
def lines (report : Report) : List String :=
  if report.success then
    report.instances.map recognizedLine
      ++ linesOf bootstrapLines report.bootstrap
      ++ linesOf preprocessLines report.preprocess
  else []

/-- The plain text of a report. -/
def plainText (report : Report) : String := String.intercalate "\n" report.lines

end ArgTable.Report
