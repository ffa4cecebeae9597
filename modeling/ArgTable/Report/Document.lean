-- A report as a JSON document. The fields of a step stand between the instances and the
-- diagnostics, beside the fields that every report has.
import ArgTable.Json
import ArgTable.Report

namespace ArgTable.Report

def recognizedDocument (recognized : Recognized) : Json :=
  .record [("argument", .text recognized.argument), ("value", .text recognized.value)]

def propertyDocument (property : Property) : Json :=
  .record [("key", .text property.key), ("value", .text property.value)]

def diagnosticDocument (diagnostic : Diagnostic) : Json :=
  .record [("severity", .text diagnostic.severity.name), ("message", .text diagnostic.message)]

/-- The fields of the step that starts a build. -/
def bootstrapFields (settings : Bootstrap.Settings) : List (String × Json) := [
  ("phase", .text settings.phase.name),
  ("child_args", .list (settings.childArgs.map .text)),
  ("settings_file", .ofOption settings.settingsFile),
  ("properties", .list (settings.properties.map propertyDocument))]

/-- The fields of the step that prepares an analysis. -/
def preprocessFields (settings : Preprocess.Settings) : List (String × Json) := [
  ("project_key", .text settings.projectKey),
  ("project_name", .ofOption settings.projectName),
  ("project_version", .ofOption settings.projectVersion),
  ("organization", .ofOption settings.organization),
  ("install_targets", .bool settings.installTargets),
  ("settings_file", .ofOption settings.settingsFile),
  ("properties", .list (settings.properties.map propertyDocument))]

/-- The fields of what is there, and none of what is not. -/
def fieldsOf {α : Type} (fields : α → List (String × Json)) : Option α → List (String × Json)
  | none => []
  | some settings => fields settings

def document (report : Report) : Json :=
  .record <|
    [("mode", .text report.mode.name),
      ("success", .bool report.success),
      ("instances", .list (report.instances.map recognizedDocument))]
    ++ fieldsOf bootstrapFields report.bootstrap
    ++ fieldsOf preprocessFields report.preprocess
    ++ [("diagnostics", .list (report.diagnostics.map diagnosticDocument))]

/-- The JSON text of a report. -/
def jsonText (report : Report) : String := report.document.pretty

end ArgTable.Report
