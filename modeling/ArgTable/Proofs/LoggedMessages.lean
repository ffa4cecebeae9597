-- Where the messages of a run are told. In plain format each goes to the log, at the level of its
-- severity, and a summary comes after them if one is an error. In JSON format they stand in the
-- document and none is logged. All else that a run logs is for debugging.
import ArgTable.Program
import ArgTable.Proofs.ReportDocuments
import ArgTable.Proofs.RunReports

namespace ArgTable

/-! ## Messages among log records -/

/-- The level at which a message is logged. -/
def Severity.level : Severity → Level
  | .error => .error
  | .warning => .warn
  | .info => .info

/-- The severity of the messages of a level. Debug records are no messages. -/
def Level.severity? : Level → Option Severity
  | .error => some .error
  | .warn => some .warning
  | .info => some .info
  | .debug => none

theorem Severity.severity?_level (severity : Severity) :
    severity.level.severity? = some severity := by
  cases severity <;> rfl

namespace LogRecord

/-- The record as a message. -/
def message? (record : LogRecord) : Option Diagnostic :=
  record.level.severity?.map fun severity => ⟨severity, record.message⟩

/-- The messages among the records, in order. -/
def messages (records : List LogRecord) : List Diagnostic := records.filterMap message?

theorem messages_append (records more : List LogRecord) :
    messages (records ++ more) = messages records ++ messages more :=
  List.filterMap_append

theorem messages_of_debug {records : List LogRecord}
    (h : ∀ record ∈ records, record.level = .debug) : messages records = [] := by
  unfold messages message?
  rw [List.filterMap_eq_nil_iff]
  intro record hmem
  rw [h record hmem]
  rfl

/-- The log shows every message, verbose or not. -/
theorem messages_shown (verbose : Bool) (records : List LogRecord) :
    messages (records.filter (·.shownIn verbose)) = messages records := by
  unfold messages
  rw [List.filterMap_filter]
  congr 1
  funext record
  rcases record with ⟨level, message⟩
  cases level <;> cases verbose <;> rfl

end LogRecord

/-! ## Records for debugging -/

theorem LogRecord.level_of_mem_debug {record : LogRecord} {message : String}
    (h : record ∈ [LogRecord.debug message]) : record.level = .debug := by
  rw [List.mem_singleton.mp h]
  rfl

section
variable {ι : Type} [DecidableEq ι] {table : Table ι} {tokens : List String} {record : LogRecord}

/-- A table logs each token that it recognizes or passes over, and how many errors it found. -/
theorem Table.cases_of_mem_trace (h : record ∈ table.trace tokens) :
    (∃ token ∈ tokens, ∃ name,
        record = .debug s!"Recognized '{token}' as {(table.argument name).id}") ∨
      (∃ token ∈ tokens, record = .debug s!"Ignoring unrecognized argument: {token}") ∨
      record = .debug s!"Argument parsing failed with {(table.notices tokens).length} error(s)" := by
  rw [trace_eq] at h
  unfold traceOf traceOfErrors at h
  rcases List.mem_append.mp h with h | h
  · obtain ⟨token, htoken, h⟩ := List.mem_flatMap.mp h
    split at h
    · next found _ => exact Or.inl ⟨token, htoken, found.name, List.mem_singleton.mp h⟩
    · split at h
      · exact Or.inr (Or.inl ⟨token, htoken, List.mem_singleton.mp h⟩)
      · cases h
  · split at h
    · cases h
    · exact Or.inr (Or.inr (List.mem_singleton.mp h))

theorem Table.level_of_mem_trace (h : record ∈ table.trace tokens) : record.level = .debug := by
  rcases cases_of_mem_trace h with ⟨_, -, _, rfl⟩ | ⟨_, -, rfl⟩ | rfl
  · rfl
  · rfl
  · rfl

/-- The step that starts a build logs what its table logs, and the phase if there is one. -/
theorem Bootstrap.cases_of_mem_trace (h : record ∈ (process tokens).trace) :
    record ∈ Bootstrap.table.trace tokens ∨
      ∃ phase : Phase, record = .debug s!"Selected analysis phase: {phase.title}" := by
  unfold process judge at h
  dsimp only at h
  split at h
  · next phase _ _ _ =>
    rcases List.mem_append.mp h with h | h
    · exact Or.inl h
    · exact Or.inr ⟨phase, List.mem_singleton.mp h⟩
  · exact Or.inl h

theorem Bootstrap.level_of_mem_trace (h : record ∈ (process tokens).trace) :
    record.level = .debug := by
  rcases cases_of_mem_trace h with h | ⟨_, rfl⟩
  · exact Table.level_of_mem_trace h
  · rfl

end

theorem Preprocess.trace_judge (outcome : Outcome BuildArgument) :
    (judge outcome).trace = outcome.trace := by
  unfold judge
  dsimp only
  split
  · split
    · rfl
    · split <;> rfl
  · rfl

namespace Report

theorem run_generic_eq_ok {options : Options} {run : Run} (hmode : options.mode = .generic)
    (h : Report.run options = .ok run) : ∃ arguments, options.Names arguments ∧
      let table := Table.ofList arguments options.allowUnrecognized
      run = ofGeneric options table.argument (table.parse options.tokens) := by
  by_cases hempty : "" ∈ options.prefixes ++ options.verbs
  · rw [run_eq_error hmode hempty] at h
    cases h
  · obtain ⟨arguments, harguments, hnames⟩ := Options.arguments_eq_ok hempty
    rw [run_of_arguments hmode harguments] at h
    exact ⟨arguments, hnames, (Except.ok.inj h).symm⟩

/-- On the way to its report, a run logs nothing but records for debugging. -/
theorem level_of_mem_trace {options : Options} {run : Run} (h : Report.run options = .ok run) :
    ∀ record ∈ run.trace, record.level = .debug := by
  have hclosing {records : List LogRecord} {success : Bool}
      (hrecords : ∀ record ∈ records, record.level = .debug) :
      ∀ record ∈ records ++ [processedRecord options success], record.level = .debug := by
    intro record hmem
    rcases List.mem_append.mp hmem with hmem | hmem
    · exact hrecords record hmem
    · exact LogRecord.level_of_mem_debug hmem
  rcases hmode : options.mode with _ | _ | _
  · rw [Report.run, hmode] at h
    rw [← Except.ok.inj h]
    exact hclosing fun _ => Bootstrap.level_of_mem_trace
  · rw [Report.run, hmode] at h
    rw [← Except.ok.inj h]
    refine hclosing fun record hmem => ?_
    rw [Preprocess.process, Preprocess.trace_judge] at hmem
    exact Table.level_of_mem_trace hmem
  · obtain ⟨arguments, -, rfl⟩ := run_generic_eq_ok hmode h
    exact hclosing fun _ => Table.level_of_mem_trace

/-- What is read does not depend on the format. -/
theorem run_format (options : Options) (format : Format) :
    run { options with format } = run options := by
  rfl

end Report

/-! ## The log of a presentation -/

namespace Presentation

/-- The record that closes the log of a run with an error. -/
def failureRecord (diagnostics : List Diagnostic) : LogRecord where
  level := .error
  message :=
    s!"Argument processing failed with {diagnostics.countP (·.severity = .error)} error(s) "
      ++ s!"and {diagnostics.countP (·.severity = .warning)} warning(s)"

theorem summary_eq (diagnostics : List Diagnostic) :
    summary diagnostics =
      if ∃ entry ∈ diagnostics, entry.severity = .error then
        [failureRecord diagnostics]
      else [] := by
  unfold summary Journal.count failureRecord
  dsimp only
  split
  · next hnone =>
    rw [List.countP_eq_zero] at hnone
    rw [if_neg (by simpa using hnone)]
  · next hsome =>
    rw [if_pos]
    simpa using hsome

/-- Without colours a message is logged as it is. -/
theorem recordOf_plain (entry : Diagnostic) :
    recordOf false entry = ⟨entry.severity.level, entry.message⟩ := by
  rcases entry with ⟨severity, message⟩
  cases severity <;> rfl

theorem message?_recordOf (entry : Diagnostic) :
    (recordOf false entry).message? = some entry := by
  rw [recordOf_plain, LogRecord.message?, Severity.severity?_level]
  rfl

/-- Without colours the messages of a plain presentation are those of the report, and then the
summary if one of them is an error. -/
theorem messages_ofReport {display : Display} (hformat : display.format = .plain)
    (hcolored : display.colored = false) (report : Report) :
    LogRecord.messages (ofReport display report).logs =
      report.diagnostics ++ LogRecord.messages (summary report.diagnostics) := by
  have hentry : LogRecord.message? ∘ recordOf false = some := funext message?_recordOf
  have hmap : LogRecord.messages (report.diagnostics.map (recordOf false)) =
      report.diagnostics := by
    unfold LogRecord.messages
    rw [List.filterMap_map, hentry]
    exact List.filterMap_some
  rw [ofReport, hformat, hcolored]
  dsimp only
  rw [LogRecord.messages_append, hmap]

end Presentation

/-! ## Runs of the program -/

namespace Program

/-- How a run shows its report. -/
def displayOf (colored : Bool) (options : Options) : Display where
  format := options.format
  noColor := options.noColor
  colored := colored && !options.noColor

/-- The records of a run that ends with a report, and those that the log shows. -/
def reportRecords (colored : Bool) (options : Options) (run : Report.Run) : List LogRecord :=
  LogRecord.debug ("Configuration: " ++ options.describe) :: run.trace
    ++ (Presentation.ofReport (displayOf colored options) run.report).logs
    ++ (if run.report.success then [] else [LogRecord.debug "Argument processing failed"])

theorem runChecked_of_run {colored : Bool} {options : Options} {run : Report.Run}
    (husage : wantsUsage options = false) (hrun : Report.run options = .ok run) :
    runChecked colored options = {
      exitCode := if run.report.success then 0 else 1
      output := (Presentation.ofReport (displayOf colored options) run.report).output
      records := (reportRecords colored options run).filter (·.shownIn options.verbose) } := by
  rw [runChecked, husage, hrun]
  rfl

theorem messages_runChecked {colored : Bool} {options : Options} {run : Report.Run}
    (husage : wantsUsage options = false) (hrun : Report.run options = .ok run) :
    LogRecord.messages (runChecked colored options).records =
      LogRecord.messages (Presentation.ofReport (displayOf colored options) run.report).logs := by
  have hclosing : LogRecord.messages
      (if run.report.success then [] else [LogRecord.debug "Argument processing failed"]) = [] := by
    split <;> rfl
  rw [runChecked_of_run husage hrun, LogRecord.messages_shown, reportRecords,
    LogRecord.messages_append, LogRecord.messages_append, hclosing, List.append_nil]
  have hopening : LogRecord.messages
      (LogRecord.debug ("Configuration: " ++ options.describe) :: run.trace) = [] := by
    refine LogRecord.messages_of_debug ?_
    rintro record (_ | ⟨_, hmem⟩)
    · rfl
    · exact Report.level_of_mem_trace hrun record hmem
  rw [hopening, List.nil_append]

end Program

/-! ## Messages in the document -/

/-- The value of the first field with this name. -/
def Json.field? (name : String) : Json → Option Json
  | record fields => (fields.find? (·.1 = name)).map (·.2)
  | _ => none

theorem Report.diagnostics_document (report : Report) :
    report.document.field? "diagnostics" =
      some (.list (report.diagnostics.map diagnosticDocument)) := by
  rcases report with ⟨mode, success, instances, bootstrap, preprocess, diagnostics⟩
  rcases bootstrap with _ | bootstrap <;> rcases preprocess with _ | preprocess <;> rfl

theorem Json.spells_line (document : Json) : Spells (document.pretty ++ "\n") document := by
  refine ⟨['\n'], ?_, rfl⟩
  rw [String.toList_append, pretty, String.toList_ofList]
  exact reads_write 0 ['\n'] document

theorem Json.pretty_ne_empty (document : Json) : document.pretty ≠ "" := by
  intro hempty
  obtain ⟨rest, hreads, -⟩ := spells_pretty document
  rw [hempty, String.toList_empty] at hreads
  cases hreads with
  | _ hmark => cases hmark

/-- In JSON format the output is the document of the report and a line break. -/
theorem Presentation.output_of_json {display : Display} (h : display.format = .json)
    (report : Report) : (ofReport display report).output = report.jsonText ++ "\n" := by
  have hsome : report.jsonText ≠ "" := Json.pretty_ne_empty report.document
  rw [ofReport, h]
  dsimp only
  rw [output, body, if_neg (by simpa using hsome)]
  simp [String.join]

/-! ## The law -/

/-- What is told of a report, in the log in plain format, and in the log and on the output in JSON
format. The one log has the messages that stand in the document, and then a summary exactly when
the report failed. The other log has no message. -/
structure Report.ToldOnce (report : Report) (plainLog jsonLog : List LogRecord)
    (jsonOutput : String) : Prop where
  logged : LogRecord.messages plainLog = report.diagnostics ++
    if report.success then []
    else [⟨.error, (Presentation.failureRecord report.diagnostics).message⟩]
  quiet : LogRecord.messages jsonLog = []
  document : Json.Spells jsonOutput report.document ∧
    report.document.field? "diagnostics" = some (.list (report.diagnostics.map fun entry =>
      .record [("severity", .text entry.severity.name), ("message", .text entry.message)]))

/-- A report is told once when it fails exactly over an error. -/
theorem Report.toldOnce {report : Report} {plain json : Display}
    (h : report.success = true ↔ ∀ entry ∈ report.diagnostics, entry.severity ≠ .error)
    (hplain : plain.format = .plain) (hcolored : plain.colored = false)
    (hjson : json.format = .json) :
    report.ToldOnce (Presentation.ofReport plain report).logs
      (Presentation.ofReport json report).logs (Presentation.ofReport json report).output where
  logged := by
    rw [Presentation.messages_ofReport hplain hcolored, Presentation.summary_eq]
    rcases hsuccess : report.success with _ | _
    · have herror : ∃ entry ∈ report.diagnostics, entry.severity = .error := by
        rw [hsuccess] at h
        simpa using h
      rw [if_pos herror]
      rfl
    · have hnone := h.mp hsuccess
      rw [if_neg (by simpa using hnone)]
      rfl
  quiet := by
    rw [Presentation.ofReport, hjson]
    rfl
  document := by
    rw [Presentation.output_of_json hjson]
    exact ⟨Json.spells_line report.document, report.diagnostics_document⟩

theorem Program.exitCode_of_run {colored : Bool} {options : Options} {run : Report.Run}
    (h : Report.run options = .ok run) : (runChecked colored options).exitCode =
      if wantsUsage options = true ∨ run.report.success = true then 0 else 1 := by
  rcases husage : wantsUsage options with _ | _
  · rw [runChecked_of_run husage h]
    simp
  · rw [runChecked, husage]
    simp

theorem Program.output_of_run {colored : Bool} {options : Options} {run : Report.Run}
    (husage : wantsUsage options = false) (hrun : Report.run options = .ok run) :
    (runChecked colored options).output =
      (Presentation.ofReport (displayOf colored options) run.report).output := by
  rw [runChecked_of_run husage hrun]

theorem Program.toldOnce {colored : Bool} {plain json : Options} {run : Report.Run}
    (hplain : Report.run plain = .ok run) (hjson : Report.run json = .ok run)
    (husage : wantsUsage plain = false) (husage' : wantsUsage json = false)
    (h : run.report.ToldOnce (Presentation.ofReport (displayOf colored plain) run.report).logs
      (Presentation.ofReport (displayOf colored json) run.report).logs
      (Presentation.ofReport (displayOf colored json) run.report).output) :
    run.report.ToldOnce (runChecked colored plain).records (runChecked colored json).records
      (runChecked colored json).output where
  logged := (messages_runChecked husage hplain).trans h.logged
  quiet := (messages_runChecked husage' hjson).trans h.quiet
  document := by
    rw [output_of_run husage' hjson]
    exact h.document

/-- Without colours, every report in plain format is logged message by message, each at the level
of its severity, and then with one summary if a message is an error. In JSON format nothing is
logged.

So it is with the report of a run. Options that differ in the format alone give the same report.
The plain log has the messages of the other's document, with a summary exactly when the report
failed, and so have the programs that show it. Both programs exit alike. They succeed when the
report does, and when help is asked for, which is given in place of a report. -/
theorem messages_are_told_in_one_place (colored : Bool) (options : Options) :
    (∀ (noColor : Bool) (report : Report),
      (Presentation.ofReport { format := .plain, noColor } report).logs =
        report.diagnostics.map (fun entry => ⟨entry.severity.level, entry.message⟩) ++
          (if ∃ entry ∈ report.diagnostics, entry.severity = .error then
            [Presentation.failureRecord report.diagnostics] else []) ∧
      (Presentation.ofReport { format := .json, noColor } report).logs = []) ∧
    let inPlain : Options := { options with format := .plain }
    let inJson : Options := { options with format := .json }
    let plain := Program.runChecked colored inPlain
    let json := Program.runChecked colored inJson
    ∀ run, Report.run inPlain = .ok run →
      Report.run inJson = .ok run ∧ json.exitCode = plain.exitCode ∧
      (plain.exitCode = 0 ↔ Program.wantsUsage options = true ∨ run.report.success = true) ∧
      ((colored && !options.noColor) = false →
        let shownPlain := Presentation.ofReport (Program.displayOf colored inPlain) run.report
        let shownJson := Presentation.ofReport (Program.displayOf colored inJson) run.report
        run.report.ToldOnce shownPlain.logs shownJson.logs shownJson.output ∧
        (Program.wantsUsage options = false →
          run.report.ToldOnce plain.records json.records json.output)) := by
  refine ⟨?_, ?_⟩
  · intro noColor report
    refine ⟨?_, rfl⟩
    change report.diagnostics.map (Presentation.recordOf false) ++
      Presentation.summary report.diagnostics = _
    rw [Presentation.summary_eq, funext Presentation.recordOf_plain]
  · intro inPlain inJson plain json run hrun
    have hsame : Report.run inJson = Report.run inPlain :=
      (Report.run_format options .json).trans (Report.run_format options .plain).symm
    have hjson := hsame.trans hrun
    refine ⟨hjson, ?_, ?_, fun hcolored => ?_⟩
    · exact (Program.exitCode_of_run hjson).trans (Program.exitCode_of_run hrun).symm
    · rw [Program.exitCode_of_run hrun]
      simp only [ite_eq_left_iff, Nat.one_ne_zero, imp_false, not_not]
      rfl
    · have hoff : (Program.displayOf colored inPlain).colored = false := hcolored
      have hjsonFormat : (Program.displayOf colored inJson).format = .json := rfl
      have htold := Report.toldOnce (Report.consistent_of_run hrun).success rfl hoff hjsonFormat
      exact ⟨htold, fun husage => Program.toldOnce hrun hjson husage husage htold⟩

/-- A run with an error and a warning, in both formats. -/
theorem a_verb_given_twice_is_told_once :
    let options : Options := { mode := .bootstrapper, tokens := ["begin", "begin"] }
    let run := Report.ofBootstrap options (Bootstrap.process ["begin", "begin"])
    Report.run options = .ok run ∧ Program.wantsUsage options = false ∧
      (false && !options.noColor) = false ∧
      LogRecord.messages (Program.runChecked false options).records = [
        (Notice.repeated "begin" "").diagnostic, Notice.neitherPhase.diagnostic,
        ⟨.error, "Argument processing failed with 1 error(s) and 1 warning(s)"⟩] ∧
      LogRecord.messages
        (Program.runChecked false { options with format := .json }).records = [] := by
  intro options run
  obtain ⟨-, htold⟩ := messages_are_told_in_one_place false options
  obtain ⟨-, -, -, htold⟩ := htold run rfl
  obtain ⟨hlogged, hquiet, -⟩ := (htold rfl).2 rfl
  have hdiagnostics : run.report.diagnostics =
      [(Notice.repeated "begin" "").diagnostic, Notice.neitherPhase.diagnostic] := by
    decide +kernel
  rw [hdiagnostics] at hlogged
  exact ⟨rfl, rfl, rfl, hlogged, hquiet⟩

end ArgTable
