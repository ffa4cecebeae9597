-- Which texts reach the log. A record holds words of the program, and texts that the user wrote: a
-- token, a literal, or the part of a token behind a literal or an equals sign. So when the user
-- writes no control, none is logged, and the log reads back as the records that it was made of.
import ArgTable.Proofs.HiddenProperties
import ArgTable.Proofs.ShownRecords
import ArgTable.Proofs.TokenChoices
import ArgTable.Proofs.WrittenProperties

namespace ArgTable

open Text

namespace Text

/-- A part of a shown text is shown. -/
theorem Shown.of_subset {text part : String} (h : Shown text)
    (hpart : part.toList ⊆ text.toList) : Shown part := by
  unfold Shown at *
  rw [List.all_eq_true] at *
  exact fun c hc => h c (hpart hc)

theorem shows_of_isDigit {c : Char} (h : c.isDigit = true) :
    ControlStage.rest.shows c = true := by
  rw [Char.isDigit, Bool.and_eq_true, decide_eq_true_eq, decide_eq_true_eq] at h
  have hspace : ' ' ≤ c := by
    have hzero : 48 ≤ c.val.toNat := h.1
    change 32 ≤ c.val.toNat
    omega
  have hne : c ≠ '\x7f' := by
    rintro rfl
    exact absurd h.2 (by decide)
  simp [ControlStage.shows, hspace, hne]

theorem shown_number (n : Nat) : Shown (toString n) := by
  rw [Shown, Nat.toString_eq_repr, Nat.repr, String.toList_ofList, List.all_eq_true]
  intro c hc
  exact shows_of_isDigit (Nat.isDigit_of_mem_toDigits (by decide) (by decide) hc)

end Text

/-! ## Notices -/

namespace Notice

/-- The notice speaks of shown texts alone. -/
def IsShown (notice : Notice) : Prop := ∀ text ∈ notice.texts, Shown text

/-- The words around the texts are shown. -/
theorem IsShown.message {notice : Notice} (h : notice.IsShown) : Shown notice.message := by
  unfold IsShown texts at h
  unfold Notice.message
  cases notice
  -- what is left behind the texts are closed wordings
  all_goals
    simp only [List.forall_mem_cons] at h
    simp only [shown_append, toString, h, and_true]
    decide +kernel

end Notice

/-! ## Values of tokens -/

theorem Form.shown_valueOf {token : String} (h : Shown token) (form : Form) :
    Shown (form.valueOf token) := by
  unfold valueOf
  split
  · rfl
  · split
    · refine h.of_subset ?_
      rw [String.toList_ofList]
      exact List.drop_subset _ _
    · rfl

namespace Table

variable {ι : Type} {table : Table ι} {tokens : List String}

/-- What a table says of its arguments is shown: their first literals, and what is missing when a
required one is. -/
def IsShown (table : Table ι) : Prop :=
  ∀ name, Shown (table.argument name).id ∧
    ((table.argument name).required = true → Shown (table.argument name).description)

variable [DecidableEq ι]

theorem shown_of_mem_notices (htable : table.IsShown) (htokens : ∀ token ∈ tokens, Shown token)
    {notice : Notice} (h : notice ∈ table.notices tokens) : notice.IsShown := by
  unfold Notice.IsShown
  rcases cases_of_mem_notices h with
    ⟨token, htoken, rfl⟩ | ⟨token, htoken, name, first, hfirst, rfl⟩ | ⟨name, -, hrequired, rfl⟩
  · simpa [Notice.texts] using htokens token htoken
  · have hvalue : Shown (table.valueOf name first) := Form.shown_valueOf (htokens first hfirst) _
    simp [Notice.texts, htokens token htoken, hvalue]
  · simpa [Notice.texts] using (htable name).2 hrequired

theorem shown_of_mem_trace (htable : table.IsShown) (htokens : ∀ token ∈ tokens, Shown token)
    {record : LogRecord} (h : record ∈ table.trace tokens) : Shown record.message := by
  rcases cases_of_mem_trace h with ⟨token, htoken, name, rfl⟩ | ⟨token, htoken, rfl⟩ | rfl
  · simp only [LogRecord.debug, toString, shown_append, htokens token htoken, (htable name).1,
      and_true]
    decide +kernel
  · simp only [LogRecord.debug, toString, shown_append, htokens token htoken, and_true]
    decide +kernel
  · change Shown
      ("Argument parsing failed with " ++ toString (table.notices tokens).length ++ " error(s)")
    simp only [shown_append, shown_number, and_true]
    decide +kernel

theorem shown_of_mem_instances (htokens : ∀ token ∈ tokens, Shown token)
    {found : Instance ι} (h : found ∈ (table.parse tokens).instances) : Shown found.value := by
  rw [instances_eq] at h
  split at h
  · rw [instances_matched] at h
    obtain ⟨token, htoken, hfound⟩ := List.mem_filterMap.mp h
    obtain ⟨name, -, rfl⟩ := Option.map_eq_some_iff.mp hfound
    exact Form.shown_valueOf (htokens token htoken) _
  · cases h

end Table

/-! ## Values of instances -/

section
variable {instances : List (Instance BuildArgument)} {name : BuildArgument}

theorem Instance.shown_of_mem_values (hinstances : ∀ found ∈ instances, Shown found.value)
    {value : String} (h : value ∈ values name instances) : Shown value := by
  obtain ⟨found, hfound, rfl⟩ := List.mem_map.mp h
  exact hinstances found (List.mem_of_mem_filter hfound)

theorem Instance.shown_of_value? (hinstances : ∀ found ∈ instances, Shown found.value)
    {value : String} (h : value? name instances = some value) : Shown value := by
  rw [value?_eq_head?_values] at h
  exact shown_of_mem_values hinstances (List.mem_of_head? h)

end

namespace Property

theorem shown_of_parse? {raw : String} {property : Property} (hraw : Shown raw)
    (h : parse? raw = some property) : Shown property.value := by
  obtain ⟨rfl, -⟩ := (parse?_eq_some_iff raw property).mp h
  rw [Report.propertyText, shown_append] at hraw
  exact hraw.2

/-- Gathering keeps and tells parts of the texts. -/
theorem shown_gather {raws : List String} (h : ∀ raw ∈ raws, Shown raw) :
    (∀ property ∈ (gather raws).kept, Shown property.value) ∧
      ∀ notice ∈ (gather raws).notices, notice.IsShown := by
  induction raws using List.reverseRecOn with
  | nil => simp [gather]
  | append_singleton raws raw ih =>
    rw [List.forall_mem_append, List.forall_mem_singleton] at h
    obtain ⟨hkept, hnotices⟩ := ih h.1
    have hgather : gather (raws ++ [raw]) = (gather raws).take raw := by
      rw [gather, List.foldl_append]
      rfl
    have htold {notice : Notice} (hnotice : notice.IsShown) :
        ∀ other ∈ (gather raws).notices ++ [notice], other.IsShown := by
      rw [List.forall_mem_append, List.forall_mem_singleton]
      exact ⟨hnotices, hnotice⟩
    rw [hgather, Gathering.take]
    split
    · exact ⟨hkept, htold (by simpa [Notice.IsShown, Notice.texts] using h.2)⟩
    · next property hparse =>
      split
      · next existing hfind =>
        have hexisting := hkept existing (List.mem_of_find?_eq_some hfind)
        exact ⟨hkept, htold (by simp [Notice.IsShown, Notice.texts, h.2, hexisting])⟩
      · refine ⟨?_, hnotices⟩
        rw [List.forall_mem_append, List.forall_mem_singleton]
        exact ⟨hkept, shown_of_parse? h.2 hparse⟩

theorem shown_reserved : ∀ entry ∈ reserved, entry.2.IsShown := by
  simp only [reserved, List.forall_mem_cons, Notice.IsShown, Notice.texts]
  decide +kernel

theorem shown_of_mem_noticesOf {raws : List String} (h : ∀ raw ∈ raws, Shown raw) {notice : Notice}
    (hmem : notice ∈ noticesOf raws) : notice.IsShown := by
  rcases List.mem_append.mp hmem with hmem | hmem
  · exact (shown_gather h).2 notice hmem
  · obtain ⟨entry, hentry, rfl⟩ := List.mem_map.mp hmem
    exact shown_reserved entry (List.mem_of_mem_filter hentry)

end Property

/-! ## The steps of a build -/

namespace Bootstrap

theorem isShown_table : table.IsShown := by
  intro name
  cases name <;> decide +kernel

theorem shown_of_mem_notices {tokens : List String} (h : ∀ token ∈ tokens, Shown token)
    {notice : Notice} (hmem : notice ∈ (process tokens).notices) : notice.IsShown := by
  rw [process_notices, List.mem_append, List.mem_append] at hmem
  rcases hmem with (hmem | hmem) | hmem
  · exact Table.shown_of_mem_notices isShown_table h hmem
  · refine Property.shown_of_mem_noticesOf (fun raw hraw => ?_) hmem
    exact Instance.shown_of_mem_values (fun _ => Table.shown_of_mem_instances h) hraw
  · rcases (mem_choosePhase_iff _ _ _).mp hmem with ⟨rfl, -⟩ | ⟨rfl, -⟩
    all_goals simp [Notice.IsShown, Notice.texts]

theorem shown_of_mem_trace {tokens : List String} (h : ∀ token ∈ tokens, Shown token)
    {record : LogRecord} (hmem : record ∈ (process tokens).trace) : Shown record.message := by
  rcases cases_of_mem_trace hmem with hmem | ⟨phase, rfl⟩
  · exact Table.shown_of_mem_trace isShown_table h hmem
  · cases phase <;> decide +kernel

end Bootstrap

namespace Preprocess

theorem isShown_table : table.IsShown := by
  intro name
  cases name <;> decide +kernel

/-- The step tells what the table tells and what is wrong with the values, and then a bad key. -/
theorem mem_judge_notices {outcome : Outcome BuildArgument} {notice : Notice}
    (h : notice ∈ (judge outcome).notices) :
    notice ∈ outcome.notices ++ (chooseInstall outcome.instances).2 ++
        Property.noticesOf (Instance.values .property outcome.instances) ∨
      ∃ key, Instance.value? .projectKey outcome.instances = some key ∧
        notice = .invalidProjectKey key := by
  unfold judge Property.extract at h
  dsimp only at h
  split at h
  · split at h
    · rw [List.append_nil] at h
      exact Or.inl h
    · next key hkey =>
      split at h
      · exact Or.inl h
      · rcases List.mem_append.mp h with h | h
        · exact Or.inl h
        · exact Or.inr ⟨key, hkey, List.mem_singleton.mp h⟩
  · rw [List.append_nil] at h
    exact Or.inl h

theorem shown_of_mem_chooseInstall {instances : List (Instance BuildArgument)}
    (hinstances : ∀ found ∈ instances, Shown found.value) {notice : Notice}
    (h : notice ∈ (chooseInstall instances).2) : notice.IsShown := by
  unfold chooseInstall at h
  split at h
  · cases h
  · next value hvalue =>
    split at h
    · cases h
    · rw [List.mem_singleton.mp h]
      simpa [Notice.IsShown, Notice.texts] using Instance.shown_of_value? hinstances hvalue

theorem shown_of_mem_notices {tokens : List String} (h : ∀ token ∈ tokens, Shown token)
    {notice : Notice} (hmem : notice ∈ (process tokens).notices) : notice.IsShown := by
  have hinstances : ∀ found ∈ (table.parse tokens).instances, Shown found.value :=
    fun _ => Table.shown_of_mem_instances h
  rcases mem_judge_notices hmem with hmem | ⟨key, hkey, rfl⟩
  · rw [List.mem_append, List.mem_append] at hmem
    rcases hmem with (hmem | hmem) | hmem
    · exact Table.shown_of_mem_notices isShown_table h hmem
    · exact shown_of_mem_chooseInstall hinstances hmem
    · exact Property.shown_of_mem_noticesOf
        (fun raw => Instance.shown_of_mem_values hinstances) hmem
  · simpa [Notice.IsShown, Notice.texts] using Instance.shown_of_value? hinstances hkey

theorem shown_of_mem_trace {tokens : List String} (h : ∀ token ∈ tokens, Shown token)
    {record : LogRecord} (hmem : record ∈ (process tokens).trace) : Shown record.message := by
  rw [process, trace_judge] at hmem
  exact Table.shown_of_mem_trace isShown_table h hmem

end Preprocess

/-! ## Runs -/

/-- The texts that the user wrote are shown. -/
def Options.IsShown (options : Options) : Prop :=
  ∀ text ∈ options.prefixes ++ options.verbs ++ options.tokens, Shown text

/-- The arguments that the user names are optional, and their literals are the user's. -/
theorem Options.Names.isShown_table {options : Options} {arguments : List Argument}
    (hnames : options.Names arguments) (h : options.IsShown) (lenient : Bool) :
    (Table.ofList arguments lenient).IsShown := by
  intro name
  constructor
  · have hid : (arguments.get name).id ∈ options.prefixes ++ options.verbs := by
      rw [← hnames.map_id]
      exact List.mem_map_of_mem (List.get_mem arguments name)
    exact h _ (List.mem_append_left _ hid)
  · intro hrequired
    have hoptional : (arguments.get name).required = false := hnames.optional name
    exact absurd (hoptional.symm.trans hrequired) Bool.false_ne_true

namespace Report

theorem shown_processedRecord (options : Options) (success : Bool) :
    Shown (processedRecord options success).message := by
  change Shown ("Processed " ++ toString options.tokens.length ++ " token(s) in " ++
    options.mode.title ++ " mode, " ++ ("success: " ++ Options.boolName success))
  simp only [shown_append, shown_number, Mode.shown_title, Options.shown_boolName, and_true]
  decide +kernel

/-- Nothing but shown texts comes of a run over shown texts. -/
structure Run.IsShown (run : Run) : Prop where
  trace : ∀ record ∈ run.trace, Shown record.message
  diagnostics : ∀ entry ∈ run.report.diagnostics, Shown entry.message

theorem Run.isShown_of_notices {options : Options} {trace : List LogRecord} {success : Bool}
    {notices : List Notice} {run : Run} (htrace : ∀ record ∈ trace, Shown record.message)
    (hnotices : ∀ notice ∈ notices, notice.IsShown)
    (hrun : run.trace = trace ++ [processedRecord options success])
    (hdiagnostics : run.report.diagnostics = notices.map (·.diagnostic)) : run.IsShown where
  trace := by
    rw [hrun, List.forall_mem_append, List.forall_mem_singleton]
    exact ⟨htrace, shown_processedRecord options success⟩
  diagnostics := by
    rw [hdiagnostics, List.forall_mem_map]
    exact fun notice hmem => (hnotices notice hmem).message

theorem Run.isShown_of_run {options : Options} {run : Run} (h : options.IsShown)
    (hrun : Report.run options = .ok run) : run.IsShown := by
  have htokens : ∀ token ∈ options.tokens, Shown token :=
    fun token hmem => h token (List.mem_append_right _ hmem)
  rcases hmode : options.mode with _ | _ | _
  · rw [Report.run, hmode] at hrun
    rw [← Except.ok.inj hrun]
    exact isShown_of_notices (fun _ => Bootstrap.shown_of_mem_trace htokens)
      (fun _ => Bootstrap.shown_of_mem_notices htokens) rfl rfl
  · rw [Report.run, hmode] at hrun
    rw [← Except.ok.inj hrun]
    exact isShown_of_notices (fun _ => Preprocess.shown_of_mem_trace htokens)
      (fun _ => Preprocess.shown_of_mem_notices htokens) rfl rfl
  · obtain ⟨arguments, hnames, rfl⟩ := run_generic_eq_ok hmode hrun
    have htable := hnames.isShown_table h options.allowUnrecognized
    exact isShown_of_notices (fun _ => Table.shown_of_mem_trace htable htokens)
      (fun _ => Table.shown_of_mem_notices htable htokens) rfl rfl

end Report

namespace Presentation

theorem shown_failureRecord (diagnostics : List Diagnostic) :
    Shown (failureRecord diagnostics).message := by
  change Shown ("Argument processing failed with " ++
    toString (diagnostics.countP (·.severity = .error)) ++ " error(s) " ++ ("and " ++
      toString (diagnostics.countP (·.severity = .warning)) ++ " warning(s)"))
  simp only [shown_append, shown_number, and_true]
  decide +kernel

/-- Without colours a report logs its messages as they are. -/
theorem shown_of_mem_logs {display : Display} (hcolored : display.colored = false)
    {report : Report} (h : ∀ entry ∈ report.diagnostics, Shown entry.message) :
    ∀ record ∈ (ofReport display report).logs, Shown record.message := by
  unfold ofReport
  split
  · simp
  · dsimp only
    rw [hcolored, List.forall_mem_append, List.forall_mem_map]
    constructor
    · intro entry hmem
      rw [recordOf_plain]
      exact h entry hmem
    · rw [summary_eq]
      split
      · rw [List.forall_mem_singleton]
        exact shown_failureRecord report.diagnostics
      · simp

end Presentation

namespace Program

theorem shown_reportRecords {colored : Bool} {options : Options} {run : Report.Run}
    (hrun : run.IsShown) (hcolored : (colored && !options.noColor) = false) :
    ∀ record ∈ reportRecords colored options run, Shown record.message := by
  have hdisplay : (displayOf colored options).colored = false := hcolored
  have hclosing : ∀ record ∈ (if run.report.success then []
      else [LogRecord.debug "Argument processing failed"]), Shown record.message := by
    split
    · simp
    · rw [List.forall_mem_singleton]
      decide +kernel
  unfold reportRecords
  rw [List.forall_mem_append, List.forall_mem_append, List.forall_mem_cons]
  exact ⟨⟨⟨shown_opening options, hrun.trace⟩,
    Presentation.shown_of_mem_logs hdisplay hrun.diagnostics⟩, hclosing⟩

/-- A run over shown texts logs shown messages. -/
theorem shown_runChecked {colored : Bool} {options : Options} (h : options.IsShown)
    (hcolored : (colored && !options.noColor) = false) :
    ∀ record ∈ (runChecked colored options).records, Shown record.message := by
  by_cases hask : options.AskForHelp
  · obtain ⟨-, hrecords, -⟩ := runChecked_of_help colored hask
    rw [hrecords]
    exact shown_openingRecords options
  · rcases hrun : Report.run options with fault | run
    · rw [runChecked_of_fault colored hask hrun]
      exact shown_openingRecords options
    · have hrecords := shown_reportRecords (Report.Run.isShown_of_run h hrun) hcolored
      rw [runChecked_of_run (wantsUsage_eq_false hask) hrun]
      exact fun record hmem => hrecords record (List.mem_of_mem_filter hmem)

/-! ## Faults -/

theorem unbroken_of_run_error {options : Options} {fault : Fault}
    (h : Report.run options = .error fault) : Unbroken fault.message := by
  by_cases hempty : options.mode = .generic ∧ "" ∈ options.prefixes ++ options.verbs
  · rw [Report.run_eq_error hempty.1 hempty.2] at h
    cases h
    decide +kernel
  · obtain ⟨run, hrun, -⟩ := Report.run_eq_ok hempty
    rw [hrun] at h
    cases h

theorem unbroken_of_check_error {options : Options} {fault : Fault}
    (h : options.check = .error fault) : Unbroken fault.message := by
  unfold Options.check at h
  split at h
  · next found hfault =>
    cases h
    unfold Options.fault? at hfault
    split at hfault
    all_goals
      split at hfault <;> cases hfault
      decide +kernel
  · cases h

/-- A run at fault logs shown messages at most, and its fault has no line break. -/
theorem fault_of_runOptions {colored : Bool} {options : Options} {fault : Fault}
    (h : (runOptions colored options).fault = some fault) : Unbroken fault.message ∧
      ∀ record ∈ (runOptions colored options).records, Shown record.message := by
  unfold runOptions at *
  rcases hcheck : options.check with found | checked
  · rw [hcheck] at h
    obtain rfl := Option.some.inj h
    exact ⟨unbroken_of_check_error hcheck, by simp⟩
  · rw [hcheck] at h
    by_cases hask : checked.AskForHelp
    · obtain ⟨-, -, hnone⟩ := runChecked_of_help colored hask
      cases hnone.symm.trans h
    · rcases hrun : Report.run checked with found | run
      · dsimp only at h ⊢
        rw [runChecked_of_fault colored hask hrun] at h ⊢
        obtain rfl := Option.some.inj h
        exact ⟨unbroken_of_run_error hrun, shown_openingRecords checked⟩
      · dsimp only at h
        rw [runChecked_of_run (wantsUsage_eq_false hask) hrun] at h
        cases h

/-! ## The law -/

/-- The error stream of the ending reads back, line by line. What is read is what the stream shows
of the records that were logged, and the fault behind them. These are the records as they were logged
exactly when no message has a control. In any case a record that is read starts where one was
logged, at its level. -/
structure Ending.ReadsBack (ending : Ending) : Prop where
  read : Transcript.ofText? ending.errors =
    some ⟨LogRecord.joined ending.records, ending.fault.map Fault.message⟩
  same : Transcript.ofText? ending.errors =
    some ⟨ending.records, ending.fault.map Fault.message⟩ ↔
      ∀ record ∈ ending.records, Shown record.message
  levels : ((LogRecord.joined ending.records).map (·.level)).Sublist
    (ending.records.map (·.level))
  fault : ∀ fault ∈ ending.fault, Unbroken fault.message

theorem read_runOptions (colored : Bool) (options : Options) :
    let ending := runOptions colored options
    Transcript.ofText? ending.errors =
      some ⟨LogRecord.joined ending.records, ending.fault.map Fault.message⟩ := by
  dsimp only
  rcases hfault : (runOptions colored options).fault with _ | fault
  · rw [Ending.errors, hfault, Ending.faultLine, String.append_empty]
    exact Transcript.ofText?_stream _
  · obtain ⟨hunbroken, hshown⟩ := fault_of_runOptions hfault
    rw [(LogRecord.joined_eq_self_iff _).mpr hshown, ← hfault]
    refine Transcript.ofText?_errors hshown fun found hfound => ?_
    rw [hfault] at hfound
    exact Option.some.inj hfound ▸ hunbroken

theorem readsBack_runOptions (colored : Bool) (options : Options) :
    (runOptions colored options).ReadsBack where
  read := read_runOptions colored options
  same := by
    rw [read_runOptions, Option.some.injEq, Transcript.mk.injEq, and_iff_left rfl]
    exact LogRecord.joined_eq_self_iff _
  levels := LogRecord.levels_joined_sublist _
  fault _ hfound := (fault_of_runOptions hfound).1

/-- The log of a run without colours reads back line by line: a header in brackets starts a record,
four spaces go on with it, and the line of a fault stands behind all records. What the tokens and
the literals say makes no difference, line breaks and what looks like a header included, as long as
they have no control. With controls the log reads as the stream shows it. -/
theorem the_log_reads_back_line_by_line (colored : Bool) (words : List String) (options : Options)
    (hread : CommandLine.read words = .ok options)
    (hplain : colored = false ∨ options.noColor = true) :
    ∃ ending, run colored words = .ok ending ∧ ending.ReadsBack ∧
      (options.IsShown → Transcript.ofText? ending.errors =
        some ⟨ending.records, ending.fault.map Fault.message⟩) := by
  have hback := readsBack_runOptions colored options
  refine ⟨runOptions colored options, ?_, hback, fun h => ?_⟩
  · rw [run, hread]
  · have hcolored : (colored && !options.noColor) = false := by
      rcases hplain with rfl | hnoColor
      · rfl
      · rw [hnoColor, Bool.not_true, Bool.and_false]
    have hshown : ∀ record ∈ (runOptions colored options).records, Shown record.message := by
      unfold runOptions
      rcases hcheck : options.check with fault | checked
      · simp
      · obtain rfl := Options.check_eq_ok hcheck
        exact shown_runChecked h hcolored
    exact hback.same.mpr hshown

/-- A token with a line break and a header behind it is one record. -/
theorem a_header_in_a_token_starts_no_record :
    let words := ["-m", "pre-processor", "/k:a", "x\n[ERROR] y\n"]
    let records : List LogRecord := [
      ⟨.error, "Unrecognized command line argument: x\n[ERROR] y\n"⟩,
      ⟨.error, "Argument processing failed with 1 error(s) and 0 warning(s)"⟩]
    ∃ ending, run false words = .ok ending ∧ ending.records = records ∧
      Transcript.ofText? ending.errors = some ⟨records, none⟩ := by
  intro words records
  let options : Options := { mode := .preProcessor, tokens := ["/k:a", "x\n[ERROR] y\n"] }
  have hread : CommandLine.read words = .ok options := by decide +kernel
  have hshown : options.IsShown := by
    unfold Options.IsShown
    decide +kernel
  obtain ⟨ending, hrun, -, hback⟩ :=
    the_log_reads_back_line_by_line false words options hread (Or.inl rfl)
  have hending : run false words = .ok { exitCode := 1, records := records } := by decide +kernel
  obtain rfl := Except.ok.inj (hrun.symm.trans hending)
  exact ⟨_, hrun, rfl, hback hshown⟩

/-- A token that leaves a control open joins its record to the next. -/
theorem an_open_control_joins_two_records :
    let words := ["-m", "pre-processor", "/k:a", "u\x1b]0;open", "z"]
    let records : List LogRecord := [
      ⟨.error, "Unrecognized command line argument: u\x1b]0;open"⟩,
      ⟨.error, "Unrecognized command line argument: z"⟩,
      ⟨.error, "Argument processing failed with 2 error(s) and 0 warning(s)"⟩]
    ∃ options ending, CommandLine.read words = .ok options ∧ run false words = .ok ending ∧
      ending.records = records ∧ ending.fault = none ∧
      Transcript.ofText? ending.errors = some ⟨[
        ⟨.error, "Unrecognized command line argument: u" ++
          "[ERROR] Unrecognized command line argument: z"⟩,
        ⟨.error, "Argument processing failed with 2 error(s) and 0 warning(s)"⟩], none⟩ ∧
      Transcript.ofText? ending.errors ≠ some ⟨records, none⟩ := by
  intro words records
  let ending : Ending := { exitCode := 1, records := records }
  have herrors : ending.errors = LogRecord.stream records := by
    rw [Ending.errors, Ending.faultLine, String.append_empty]
  have hjoined : LogRecord.joined records = [
      ⟨.error, "Unrecognized command line argument: u" ++
        "[ERROR] Unrecognized command line argument: z"⟩,
      ⟨.error, "Argument processing failed with 2 error(s) and 0 warning(s)"⟩] := by
    decide +kernel
  have hread := Transcript.ofText?_stream records
  rw [hjoined, ← herrors] at hread
  refine ⟨{ mode := .preProcessor, tokens := ["/k:a", "u\x1b]0;open", "z"] }, ending,
    by decide +kernel, by decide +kernel, rfl, rfl, hread, ?_⟩
  rw [hread]
  simp [records]

end Program

end ArgTable
