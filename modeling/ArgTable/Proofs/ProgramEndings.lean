-- How the program ends. It exits with zero exactly when the options go together and either help
-- is asked for or the report has no error. When it fails it says so on the error stream, with the
-- line of a fault or with records of errors, and when it succeeds nothing there looks like one.
import ArgTable.Proofs.LoggedMessages
import ArgTable.Proofs.LogLines

namespace ArgTable

/-! ## Errors in the log -/

namespace LogRecord

/-- The number of records that tell errors. -/
def errorCount (records : List LogRecord) : Nat := records.countP (·.level = .error)

theorem errorCount_append (records more : List LogRecord) :
    errorCount (records ++ more) = errorCount records + errorCount more :=
  List.countP_append

theorem errorCount_cons (record : LogRecord) (records : List LogRecord) :
    errorCount (record :: records) =
      errorCount records + if record.level = .error then 1 else 0 := by
  unfold errorCount
  rw [List.countP_cons]
  simp only [decide_eq_true_eq]

theorem level_ne_of_errorCount_eq_zero {records : List LogRecord} (h : errorCount records = 0) :
    ∀ record ∈ records, record.level ≠ .error := by
  rw [errorCount, List.countP_eq_zero] at h
  simpa using h

theorem errorCount_eq (records : List LogRecord) :
    errorCount records = (messages records).countP (·.severity = .error) := by
  unfold errorCount messages message?
  rw [List.countP_filterMap]
  congr 1
  funext record
  rcases record with ⟨level, message⟩
  cases level <;> rfl

/-- The stream holds the first error and then the records behind it. -/
theorem exists_error_in_stream {records : List LogRecord} {n : Nat} (h : n < errorCount records) :
    ∃ before after later, n ≤ errorCount later ∧
      stream records = before ++ "[ERROR] " ++ after ++ stream later := by
  induction records with
  | nil => cases h
  | cons record records ih =>
    rw [errorCount_cons] at h
    rw [stream_cons]
    by_cases hlevel : record.level = .error
    · obtain ⟨after, hwritten⟩ := opens_written record
      rw [if_pos hlevel] at h
      rw [hlevel] at hwritten
      refine ⟨"", after, records, Nat.lt_succ_iff.mp h, ?_⟩
      rw [hwritten, String.empty_append]
      rfl
    · rw [if_neg hlevel] at h
      obtain ⟨before, after, later, hcount, hstream⟩ := ih h
      refine ⟨record.written ++ before, after, later, hcount, ?_⟩
      rw [hstream]
      simp only [String.append_assoc]

theorem two_errors_in_stream {records : List LogRecord} (h : 2 ≤ errorCount records) :
    ∃ before between after,
      stream records = before ++ "[ERROR] " ++ between ++ "[ERROR] " ++ after := by
  obtain ⟨before, between, later, hcount, hfirst⟩ := exists_error_in_stream h
  obtain ⟨more, after, last, -, hsecond⟩ := exists_error_in_stream hcount
  refine ⟨before, between ++ more, after ++ stream last, ?_⟩
  rw [hfirst, hsecond]
  simp only [String.append_assoc]

end LogRecord

/-! ## Errors of a report -/

namespace Presentation

theorem level_recordOf (colored : Bool) (entry : Diagnostic) :
    (recordOf colored entry).level = entry.severity.level := by
  rcases entry with ⟨severity, message⟩
  cases severity <;> rfl

/-- Coloured or not, each error of a report is logged as one. -/
theorem errorCount_map_recordOf (colored : Bool) (diagnostics : List Diagnostic) :
    LogRecord.errorCount (diagnostics.map (recordOf colored)) =
      diagnostics.countP (·.severity = .error) := by
  unfold LogRecord.errorCount
  rw [List.countP_map]
  congr 1
  funext entry
  rw [Function.comp_apply, level_recordOf]
  rcases entry with ⟨severity, message⟩
  cases severity <;> rfl

/-- In plain format an error is logged, and the summary is logged behind it. -/
theorem two_le_errorCount {display : Display} (hformat : display.format = .plain) {report : Report}
    (h : ∃ entry ∈ report.diagnostics, entry.severity = .error) :
    2 ≤ LogRecord.errorCount (ofReport display report).logs := by
  have hsome : 0 < report.diagnostics.countP (·.severity = .error) := by
    rw [List.countP_pos_iff]
    simpa using h
  have hsummary : LogRecord.errorCount (summary report.diagnostics) = 1 := by
    rw [summary_eq, if_pos h]
    rfl
  rw [ofReport, hformat]
  dsimp only
  rw [LogRecord.errorCount_append, errorCount_map_recordOf, hsummary]
  omega

/-- A report without an error logs none, in either format. -/
theorem errorCount_eq_zero {report : Report} (display : Display)
    (h : ∀ entry ∈ report.diagnostics, entry.severity ≠ .error) :
    LogRecord.errorCount (ofReport display report).logs = 0 := by
  rcases hformat : display.format with _ | _
  · have hnone : report.diagnostics.countP (·.severity = .error) = 0 := by
      rw [List.countP_eq_zero]
      simpa using h
    have hsummary : summary report.diagnostics = [] := by
      rw [summary_eq, if_neg (by simpa using h)]
    rw [ofReport, hformat]
    dsimp only
    rw [hsummary, List.append_nil, errorCount_map_recordOf, hnone]
  · rw [ofReport, hformat]
    rfl

/-- In plain format a failed report puts nothing on the output. -/
theorem output_of_failed {display : Display} (hformat : display.format = .plain) {report : Report}
    (h : report.success = false) : (ofReport display report).output = "" := by
  rw [ofReport, hformat, h]
  rfl

end Presentation

/-! ## What the error stream tells -/

/-- Neither text starts with the other. -/
def OpenApart (lead other : String) : Prop := ¬ Opens lead other ∧ ¬ Opens other lead

instance (lead other : String) : Decidable (OpenApart lead other) :=
  inferInstanceAs (Decidable (_ ∧ _))

/-- No line starts in two ways that are apart. -/
theorem OpenApart.not_opens {lead other line : String} (h : OpenApart lead other)
    (hother : Opens other line) : ¬ Opens lead line := by
  intro hlead
  rcases hlead.comparable hother with hopens | hopens
  · exact h.1 hopens
  · exact h.2 hopens

theorem OpenApart.symm {lead other : String} (h : OpenApart lead other) : OpenApart other lead :=
  And.symm h

theorem LogRecord.header_apart {level other : Level} (h : other ≠ level) :
    OpenApart (header other) (header level) := by
  cases level <;> cases other <;> first | exact absurd rfl h | decide +kernel

theorem LogRecord.error_apart_from_header {level : Level} (h : level ≠ .error) :
    OpenApart "[ERROR] " (header level) := by
  have hself : header .error = "[ERROR] " := by decide +kernel
  rw [← hself]
  exact header_apart (Ne.symm h)

theorem LogRecord.fault_apart_from_header (level : Level) :
    OpenApart "Error: " (header level) := by
  cases level <;> decide +kernel

namespace Program.Ending

/-- A line of the error stream tells of a fault. -/
def TellsFault (ending : Ending) : Prop :=
  ∃ line ∈ linesIn ending.errors, Opens "Error: " line

/-- The error stream tells of errors, in two records at least. -/
def TellsErrors (ending : Ending) : Prop :=
  2 ≤ LogRecord.errorCount ending.records ∧ ∃ before between after,
    ending.errors = before ++ "[ERROR] " ++ between ++ "[ERROR] " ++ after

/-- The error stream tells of no failure, and none of its lines looks as if it did. -/
def TellsNoFailure (ending : Ending) : Prop :=
  LogRecord.errorCount ending.records = 0 ∧ ending.fault = none ∧
    ∀ line ∈ linesIn ending.errors, ¬ Opens "[ERROR] " line ∧ ¬ Opens "Error: " line

/-- A fault has a line of its own behind a log of shown characters. -/
theorem tellsFault {ending : Ending} {fault : Fault} (hfault : ending.fault = some fault)
    (hshown : ∀ record ∈ ending.records, Text.Shown record.message) : ending.TellsFault := by
  have herrors : ending.errors =
      LogRecord.stream ending.records ++ ("Error: " ++ (fault.message ++ "\n")) := by
    rw [errors, hfault, faultLine, String.append_assoc]
  have hsome : ending.errors ≠ "" := by
    intro hempty
    rw [herrors, String.append_eq_empty_iff, String.append_eq_empty_iff] at hempty
    exact absurd hempty.2.1 (by decide)
  let after := ("Error: " ++ (fault.message ++ "\n")).toList
  have hstart : after = ending.errors.toList ∨ '\n' :: after <:+ ending.errors.toList := by
    rw [herrors, String.toList_append]
    rcases LogRecord.ends_stream hshown with hempty | ⟨text, htext⟩
    · exact Or.inl (by rw [hempty]; rfl)
    · refine Or.inr ⟨text.toList, ?_⟩
      rw [htext, String.toList_append, List.append_assoc]
      rfl
  have hline : (String.ofList (after.takeWhile (· ≠ '\n'))).toList =
      after.takeWhile (· ≠ '\n') := String.toList_ofList
  have hlead : "Error: ".toList <+: after := by
    rw [← opens_iff_isPrefix]
    exact ⟨fault.message ++ "\n", rfl⟩
  exact ⟨_, (mem_linesIn_iff hsome _).mpr ⟨after, hline, hstart⟩,
    opens_of_takeWhile (by decide) hline hlead⟩

theorem tellsErrors {ending : Ending} (h : 2 ≤ LogRecord.errorCount ending.records) :
    ending.TellsErrors := by
  obtain ⟨before, between, after, hstream⟩ := LogRecord.two_errors_in_stream h
  refine ⟨h, before, between, after ++ faultLine ending.fault, ?_⟩
  rw [errors, hstream]
  simp only [String.append_assoc]

theorem tellsNoFailure {ending : Ending} (h : LogRecord.errorCount ending.records = 0)
    (hfault : ending.fault = none) : ending.TellsNoFailure := by
  refine ⟨h, hfault, fun line hline => ?_⟩
  have herrors : ending.errors = LogRecord.stream ending.records := by
    rw [errors, hfault, faultLine, String.append_empty]
  rw [herrors] at hline
  rcases LogRecord.line_of_stream hline with rfl | hspaces | ⟨record, hmem, hopens⟩
  · decide
  · have hapart : OpenApart "[ERROR] " "    " ∧ OpenApart "Error: " "    " := by decide +kernel
    exact ⟨hapart.1.not_opens hspaces, hapart.2.not_opens hspaces⟩
  · have hlevel := LogRecord.level_ne_of_errorCount_eq_zero h record hmem
    exact ⟨(LogRecord.error_apart_from_header hlevel).not_opens hopens,
      (LogRecord.fault_apart_from_header record.level).not_opens hopens⟩

end Program.Ending

/-! ## Options and their runs -/

namespace Options

/-- The options ask for the help of a step. -/
def AskForHelp (options : Options) : Prop :=
  options.mode ≠ .generic ∧ ∃ token ∈ options.tokens, token = "/h" ∨ token = "/?"

/-- The run with these options gets a report. -/
def Get (options : Options) (run : Report.Run) : Prop :=
  ∃ checked, options.check = .ok checked ∧ ¬ checked.AskForHelp ∧ Report.run checked = .ok run

/-- The options go together, and either they ask for help or their report has no error. -/
def GoWell (options : Options) : Prop :=
  ∃ checked, options.check = .ok checked ∧ (checked.AskForHelp ∨
    ∃ run, Report.run checked = .ok run ∧ ∀ entry ∈ run.report.diagnostics, entry.severity ≠ .error)

theorem check_eq_ok {options checked : Options} (h : options.check = .ok checked) :
    checked = options := by
  unfold check at h
  split at h
  · cases h
  · exact (Except.ok.inj h).symm

end Options

namespace Program

theorem wantsUsage_iff (options : Options) : wantsUsage options = true ↔ options.AskForHelp := by
  unfold wantsUsage Bootstrap.asksForHelp Options.AskForHelp
  simp

theorem wantsUsage_eq_false {options : Options} (h : ¬ options.AskForHelp) :
    wantsUsage options = false := by
  rwa [← wantsUsage_iff, Bool.not_eq_true] at h

/-- What every run logs first. -/
def openingRecords (options : Options) : List LogRecord :=
  [LogRecord.debug ("Configuration: " ++ options.describe)].filter (·.shownIn options.verbose)

theorem errorCount_openingRecords (options : Options) :
    LogRecord.errorCount (openingRecords options) = 0 := by
  rw [LogRecord.errorCount_eq, openingRecords, LogRecord.messages_shown]
  rfl

theorem shown_opening (options : Options) :
    Text.Shown (LogRecord.debug ("Configuration: " ++ options.describe)).message :=
  (Text.shown_append _ _).mpr ⟨by decide +kernel, options.shown_describe⟩

theorem shown_openingRecords (options : Options) :
    ∀ record ∈ openingRecords options, Text.Shown record.message := by
  intro record hmem
  rw [List.mem_singleton.mp (List.mem_of_mem_filter hmem)]
  exact shown_opening options

theorem runChecked_of_help {options : Options} (colored : Bool) (h : options.AskForHelp) :
    let ending := runChecked colored options
    ending.exitCode = 0 ∧ ending.records = openingRecords options ∧ ending.fault = none := by
  rw [runChecked, (wantsUsage_iff options).mpr h]
  exact ⟨rfl, rfl, rfl⟩

theorem runChecked_of_fault {options : Options} {fault : Fault} (colored : Bool)
    (h : ¬ options.AskForHelp) (hrun : Report.run options = .error fault) :
    runChecked colored options =
      { exitCode := 1, records := openingRecords options, fault := some fault } := by
  rw [runChecked, wantsUsage_eq_false h, hrun]
  rfl

/-- The errors that a run logs are those that its report logs. -/
theorem errorCount_runChecked {colored : Bool} {options : Options} {run : Report.Run}
    (husage : wantsUsage options = false) (hrun : Report.run options = .ok run) :
    LogRecord.errorCount (runChecked colored options).records = LogRecord.errorCount
      (Presentation.ofReport (displayOf colored options) run.report).logs := by
  rw [LogRecord.errorCount_eq, messages_runChecked husage hrun, ← LogRecord.errorCount_eq]

/-! ## The law -/

/-- The ending tells how the run with the options went. The exit code says whether it went well.
If not, in plain format nothing is on the output, and the error stream tells of a fault or of
errors. If it did, the error stream tells of no failure. In JSON format the output is the document
of the report if there is one, be it of a success or of a failure. -/
structure Tells (options : Options) (ending : Ending) : Prop where
  exit : ending.exitCode = 0 ∧ options.GoWell ∨ ending.exitCode = 1 ∧ ¬ options.GoWell
  failure : options.format = .plain → ending.exitCode = 1 →
    ending.output = "" ∧ (ending.TellsFault ∨ ending.TellsErrors)
  success : ending.exitCode = 0 → ending.TellsNoFailure
  document : options.format = .json → ∀ run, options.Get run →
    ending.output = run.report.jsonText ++ "\n" ∧ Json.Spells ending.output run.report.document

/-- A fault tells all when there is no report. -/
theorem tells_of_fault {options : Options} {ending : Ending} {fault : Fault}
    (hwell : ¬ options.GoWell) (hnone : ∀ run, ¬ options.Get run) (hexit : ending.exitCode = 1)
    (houtput : ending.output = "") (hfault : ending.fault = some fault)
    (hshown : ∀ record ∈ ending.records, Text.Shown record.message) : Tells options ending where
  exit := Or.inr ⟨hexit, hwell⟩
  failure _ _ := ⟨houtput, Or.inl (Ending.tellsFault hfault hshown)⟩
  success hzero := by
    rw [hexit] at hzero
    cases hzero
  document _ run hget := absurd hget (hnone run)

theorem tells_of_help {options : Options} (colored : Bool) (hcheck : options.check = .ok options)
    (h : options.AskForHelp) : Tells options (runChecked colored options) := by
  obtain ⟨hexit, hrecords, hfault⟩ := runChecked_of_help colored h
  exact {
    exit := Or.inl ⟨hexit, options, hcheck, Or.inl h⟩
    failure _ hone := by
      rw [hexit] at hone
      cases hone
    success _ := Ending.tellsNoFailure (hrecords ▸ errorCount_openingRecords options) hfault
    document _ run hget := by
      obtain ⟨checked, hchecked, hnot, -⟩ := hget
      rw [Options.check_eq_ok hchecked] at hnot
      exact absurd h hnot }

section
variable {options : Options} {run : Report.Run}

theorem document_of_run (colored : Bool) (h : ¬ options.AskForHelp)
    (hrun : Report.run options = .ok run) (hformat : options.format = .json) :
    ∀ other, options.Get other →
      (runChecked colored options).output = other.report.jsonText ++ "\n" ∧
        Json.Spells (runChecked colored options).output other.report.document := by
  rintro other ⟨checked, hchecked, -, hother⟩
  rw [Options.check_eq_ok hchecked, hrun] at hother
  rw [← Except.ok.inj hother]
  have houtput : (runChecked colored options).output = run.report.jsonText ++ "\n" :=
    (output_of_run (wantsUsage_eq_false h) hrun).trans
      (Presentation.output_of_json hformat run.report)
  exact ⟨houtput, houtput ▸ Json.spells_line run.report.document⟩

theorem tells_of_success (colored : Bool) (hcheck : options.check = .ok options)
    (h : ¬ options.AskForHelp) (hrun : Report.run options = .ok run)
    (hnone : ∀ entry ∈ run.report.diagnostics, entry.severity ≠ .error) :
    Tells options (runChecked colored options) := by
  have husage := wantsUsage_eq_false h
  have hsuccess := (Report.consistent_of_run hrun).success.mpr hnone
  have hexit : (runChecked colored options).exitCode = 0 := by
    rw [exitCode_of_run hrun, if_pos (Or.inr hsuccess)]
  have hcount : LogRecord.errorCount (runChecked colored options).records = 0 :=
    (errorCount_runChecked husage hrun).trans (Presentation.errorCount_eq_zero _ hnone)
  exact {
    exit := Or.inl ⟨hexit, options, hcheck, Or.inr ⟨run, hrun, hnone⟩⟩
    failure _ hone := by
      rw [hexit] at hone
      cases hone
    success _ := Ending.tellsNoFailure hcount (by rw [runChecked_of_run husage hrun])
    document := document_of_run colored h hrun }

theorem tells_of_errors (colored : Bool) (h : ¬ options.AskForHelp)
    (hrun : Report.run options = .ok run)
    (hsome : ∃ entry ∈ run.report.diagnostics, entry.severity = .error) :
    Tells options (runChecked colored options) := by
  have husage := wantsUsage_eq_false h
  have hnone : ¬ ∀ entry ∈ run.report.diagnostics, entry.severity ≠ .error := by
    simpa using hsome
  have hfailed : run.report.success = false := by
    rwa [← (Report.consistent_of_run hrun).success, Bool.not_eq_true] at hnone
  have hexit : (runChecked colored options).exitCode = 1 := by
    rw [exitCode_of_run hrun, if_neg (by simp [husage, hfailed])]
  have hwell : ¬ options.GoWell := by
    rintro ⟨checked, hchecked, hwell⟩
    rw [Options.check_eq_ok hchecked] at hwell
    rcases hwell with hask | ⟨other, hother, hwell⟩
    · exact h hask
    · rw [hrun] at hother
      exact hnone (Except.ok.inj hother ▸ hwell)
  exact {
    exit := Or.inr ⟨hexit, hwell⟩
    failure hformat _ := by
      refine ⟨(output_of_run husage hrun).trans (Presentation.output_of_failed hformat hfailed),
        Or.inr (Ending.tellsErrors ?_)⟩
      rw [errorCount_runChecked husage hrun]
      exact Presentation.two_le_errorCount hformat hsome
    success hzero := by
      rw [hexit] at hzero
      cases hzero
    document := document_of_run colored h hrun }

end

/-- With options that go together, every run tells how it went. -/
theorem tells_runChecked {options : Options} (colored : Bool)
    (hcheck : options.check = .ok options) : Tells options (runChecked colored options) := by
  by_cases hask : options.AskForHelp
  · exact tells_of_help colored hcheck hask
  · rcases hrun : Report.run options with fault | run
    · have hwell : ¬ options.GoWell := by
        rintro ⟨checked, hchecked, hwell⟩
        rw [Options.check_eq_ok hchecked, hrun] at hwell
        rcases hwell with hwell | ⟨run, ⟨⟩, -⟩
        exact hask hwell
      have hnone : ∀ run, ¬ options.Get run := by
        rintro run ⟨checked, hchecked, -, hget⟩
        rw [Options.check_eq_ok hchecked, hrun] at hget
        cases hget
      rw [runChecked_of_fault colored hask hrun]
      exact tells_of_fault hwell hnone rfl rfl rfl (shown_openingRecords options)
    · by_cases hnone : ∀ entry ∈ run.report.diagnostics, entry.severity ≠ .error
      · exact tells_of_success colored hcheck hask hrun hnone
      · exact tells_of_errors colored hask hrun (by simpa using hnone)

theorem tells_runOptions (colored : Bool) (options : Options) :
    Tells options (runOptions colored options) := by
  unfold runOptions
  rcases hcheck : options.check with fault | checked
  · have hwell : ¬ options.GoWell := by
      rintro ⟨checked, hchecked, -⟩
      rw [hcheck] at hchecked
      cases hchecked
    have hnone : ∀ run, ¬ options.Get run := by
      rintro run ⟨checked, hchecked, -⟩
      rw [hcheck] at hchecked
      cases hchecked
    exact tells_of_fault hwell hnone rfl rfl rfl (by simp)
  · obtain rfl := Options.check_eq_ok hcheck
    exact tells_runChecked colored hcheck

/-- Words that are read as options always lead to an ending, and it tells how the run went. The
records of errors are counted in the text and not line by line: a control that a message leaves
open can take along the line break that ends its record. -/
theorem no_run_fails_silently (colored : Bool) (words : List String) (options : Options)
    (h : CommandLine.read words = .ok options) :
    ∃ ending, run colored words = .ok ending ∧ Tells options ending := by
  refine ⟨runOptions colored options, ?_, tells_runOptions colored options⟩
  rw [run, h]

/-- One token too many is told of in two records. -/
theorem an_unknown_token_fails_in_two_records :
    let words := ["-m", "pre-processor", "/k:a", "/x"]
    let options : Options := { mode := .preProcessor, tokens := ["/k:a", "/x"] }
    let ending : Ending := {
      exitCode := 1
      records := [⟨.error, "Unrecognized command line argument: /x"⟩,
        ⟨.error, "Argument processing failed with 1 error(s) and 0 warning(s)"⟩] }
    CommandLine.read words = .ok options ∧ run false words = .ok ending ∧ Tells options ending ∧
      ¬ options.GoWell ∧ ending.errors =
        "[ERROR] Unrecognized command line argument: /x\n" ++
          "[ERROR] Argument processing failed with 1 error(s) and 0 warning(s)\n" := by
  intro words options ending
  have hread : CommandLine.read words = .ok options := by decide +kernel
  have hrun : run false words = .ok ending := by decide +kernel
  obtain ⟨other, hother, htells⟩ := no_run_fails_silently false words options hread
  obtain rfl : ending = other := Except.ok.inj (hrun.symm.trans hother)
  rcases htells.exit with ⟨hexit, -⟩ | ⟨-, hwell⟩
  · cases hexit
  · exact ⟨hread, hrun, htells, hwell, by decide +kernel⟩

end Program

end ArgTable
