-- What every run gives. A run is at fault only in the generic mode and only over an empty
-- literal. Every other run gives a report, and the parts of a report agree: it succeeds exactly
-- when nothing in it is an error, a failed one shows nothing, and one that succeeds shows the
-- tokens that were recognized and the settings of its mode.
import ArgTable.Proofs.PreparedAnalyses
import ArgTable.Proofs.StartedBuilds
import ArgTable.Proofs.UserTables
import ArgTable.Report

namespace ArgTable

/-! ## What is recognized -/

/-- The forms of the arguments, in matching order. -/
def Table.forms {ι : Type} (table : Table ι) : List Form :=
  table.order.map fun name => (table.argument name).form

/-- The forms that the tokens are read with. -/
def Options.forms (options : Options) : List Form :=
  match options.mode with
  | .bootstrapper => Bootstrap.table.forms
  | .preProcessor => Preprocess.table.forms
  | .generic =>
    options.prefixes.map (fun literal => .prefixed [literal]) ++ options.verbs.map .verb

theorem Options.forms_of_bootstrapper {options : Options} (h : options.mode = .bootstrapper) :
    options.forms = Bootstrap.table.forms := by
  rw [forms, h]

theorem Options.forms_of_preProcessor {options : Options} (h : options.mode = .preProcessor) :
    options.forms = Preprocess.table.forms := by
  rw [forms, h]

/-- The first form that accepts the token, by its first literal, and the value it reads. -/
def shownBy? (forms : List Form) (token : String) : Option Recognized :=
  (forms.find? (·.Accepts token)).map fun form =>
    ⟨form.literals.headD "", form.valueOf token⟩

/-- A table shows tokens by its forms alone. -/
theorem Table.recognized_eq {ι : Type} (table : Table ι) (tokens : List String) :
    Report.recognized table.argument (tokens.filterMap table.recognize?) =
      tokens.filterMap (shownBy? table.forms) := by
  unfold Report.recognized
  rw [List.map_filterMap]
  congr 1
  funext token
  rw [recognize?_eq]
  unfold shownBy? forms owner?
  rw [List.find?_map, Option.map_map, Option.map_map]
  rfl

namespace Options

theorem forms_of_forall₂ {form : String → Form} {multiple : Bool} {literals : List String}
    {arguments : List Argument}
    (h : List.Forall₂ (fun literal => Declares (form literal) multiple) literals arguments) :
    arguments.map (·.form) = literals.map form := by
  induction h with
  | nil => rfl
  | cons hdeclares _ ih => rw [List.map_cons, List.map_cons, hdeclares.form, ih]

/-- The arguments have the forms of their literals. -/
theorem Names.map_form {options : Options} {arguments : List Argument}
    (h : options.Names arguments) : arguments.map (·.form) =
      options.prefixes.map (fun literal => .prefixed [literal]) ++ options.verbs.map .verb := by
  obtain ⟨prefixed, verbs, rfl, hprefixed, hverbs⟩ := h
  rw [List.map_append, forms_of_forall₂ hprefixed, forms_of_forall₂ hverbs]

theorem forms_ofList {options : Options} {arguments : List Argument} (lenient : Bool)
    (hmode : options.mode = .generic) (h : options.Names arguments) :
    (Table.ofList arguments lenient).forms = options.forms := by
  have hforms : (Table.ofList arguments lenient).forms = arguments.map (·.form) := by
    have hall := congrArg (List.map (·.form)) (List.map_get_finRange arguments)
    rwa [List.map_map] at hall
  unfold forms
  rw [hmode, hforms, h.map_form]

end Options

/-! ## Errors of the steps -/

theorem Notice.severity_ne_info (notice : Notice) : notice.severity ≠ .info := by
  cases notice <;> exact Severity.noConfusion

theorem Table.exists_error_of_not_fits {ι : Type} [DecidableEq ι] {table : Table ι}
    {tokens : List String} (h : ¬ table.Fits tokens) :
    ∃ notice ∈ table.notices tokens, notice.severity = .error := by
  rw [← notices_eq_nil_iff] at h
  obtain ⟨notice, hmem⟩ := List.exists_mem_of_ne_nil _ h
  exact ⟨notice, hmem, severity_of_mem_notices hmem⟩

theorem Property.collect?_of_noticesOf_eq_nil {raws : List String} (h : noticesOf raws = []) :
    collect? raws = some (gather raws).kept := by
  rw [collect?, h]
  rfl

theorem Bootstrap.exists_error_of_refused {tokens : List String}
    (h : (process tokens).accepted = none) :
    ∃ notice ∈ (process tokens).notices, notice.severity = .error := by
  by_cases hfits : table.Fits tokens
  · rw [process_notices, choosePhase_parse hfits]
    rcases hproperties : Property.noticesOf
        (Instance.values .property (table.parse tokens).instances) with _ | ⟨first, more⟩
    · by_cases hboth : "begin" ∈ tokens ∧ "end" ∈ tokens
      · exact ⟨.bothPhases, by simp [hboth], rfl⟩
      · -- then the parse, the phase and the properties are in order
        have hsuccess := (Table.success_iff table tokens).mpr hfits
        have hphase := congrArg Prod.fst (choosePhase_parse hfits)
        rw [if_neg hboth] at hphase
        have hcollect := Property.collect?_of_noticesOf_eq_nil hproperties
        have haccepted := (process_accepted_iff tokens ⟨_, _, _, _⟩).mpr
          ⟨hsuccess, hphase, rfl, rfl, hcollect⟩
        rw [h] at haccepted
        cases haccepted
    · have hfirst : first.onProperty = true :=
        Property.onProperty_of_mem_noticesOf (hproperties ▸ List.mem_cons_self)
      exact ⟨first, by simp [hproperties], Notice.severity_of_onProperty hfirst⟩
  · obtain ⟨notice, hmem, hseverity⟩ := Table.exists_error_of_not_fits hfits
    refine ⟨notice, ?_, hseverity⟩
    rw [process_notices]
    exact List.mem_append_left _ (List.mem_append_left _ hmem)

namespace Report

/-! ## Parts that agree -/

/-- What the parts of a report say of each other and of the options. -/
structure Consistent (options : Options) (report : Report) : Prop where
  mode : report.mode = options.mode
  success : report.success = true ↔ ∀ entry ∈ report.diagnostics, entry.severity ≠ .error
  noInfo : ∀ entry ∈ report.diagnostics, entry.severity ≠ .info
  refused : report.success = false →
    report.instances = [] ∧ report.bootstrap = none ∧ report.preprocess = none
  bootstrap : report.success = true →
    (report.bootstrap.isSome = true ↔ options.mode = .bootstrapper)
  preprocess : report.success = true →
    (report.preprocess.isSome = true ↔ options.mode = .preProcessor)
  told : report.success = true → report.diagnostics = [] ∨
    options.mode = .bootstrapper ∧
      report.diagnostics = [⟨.warning, Notice.neitherPhase.message⟩]
  instances : report.success = true →
    report.instances = options.tokens.filterMap (shownBy? options.forms)

section
variable {options : Options} {notices : List Notice}

theorem noInfo_of_notices : ∀ entry ∈ notices.map (·.diagnostic), entry.severity ≠ .info := by
  intro entry hmem
  obtain ⟨notice, -, rfl⟩ := List.mem_map.mp hmem
  exact notice.severity_ne_info

/-- A report that shows nothing agrees with an error. -/
theorem Consistent.of_refused (herror : ∃ notice ∈ notices, notice.severity = .error) :
    Consistent options { mode := options.mode, diagnostics := notices.map (·.diagnostic) } where
  mode := rfl
  success := by
    obtain ⟨notice, hmem, hseverity⟩ := herror
    refine iff_of_false Bool.false_ne_true fun h => ?_
    exact h notice.diagnostic (List.mem_map_of_mem hmem) hseverity
  noInfo := noInfo_of_notices
  refused _ := ⟨rfl, rfl, rfl⟩
  bootstrap := by
    rintro ⟨⟩
  preprocess := by
    rintro ⟨⟩
  told := by
    rintro ⟨⟩
  instances := by
    rintro ⟨⟩

/-- A report that shows what was recognized, with the settings of its mode, agrees with a
warning at most. -/
theorem Consistent.of_accepted {bootstrap : Option Bootstrap.Settings}
    {preprocess : Option Preprocess.Settings}
    (hbootstrap : bootstrap.isSome = true ↔ options.mode = .bootstrapper)
    (hpreprocess : preprocess.isSome = true ↔ options.mode = .preProcessor)
    (hnotices : notices = [] ∨ options.mode = .bootstrapper ∧ notices = [.neitherPhase]) :
    Consistent options {
      mode := options.mode
      success := true
      instances := options.tokens.filterMap (shownBy? options.forms)
      bootstrap, preprocess
      diagnostics := notices.map (·.diagnostic) } where
  mode := rfl
  success := by
    refine iff_of_true rfl ?_
    rcases hnotices with rfl | ⟨-, rfl⟩
    · simp
    · simp [Notice.diagnostic, Notice.severity]
  noInfo := noInfo_of_notices
  refused := by
    rintro ⟨⟩
  bootstrap _ := hbootstrap
  preprocess _ := hpreprocess
  told _ := by
    rcases hnotices with rfl | ⟨hmode, rfl⟩
    · exact Or.inl rfl
    · exact Or.inr ⟨hmode, rfl⟩
  instances _ := rfl

end

/-! ## The three modes -/

theorem consistent_ofBootstrap {options : Options} (hmode : options.mode = .bootstrapper) :
    Consistent options (ofBootstrap options (Bootstrap.process options.tokens)).report := by
  have hshown := Bootstrap.process_instances options.tokens
  unfold ofBootstrap
  rcases haccepted : (Bootstrap.process options.tokens).accepted with _ | settings
  · rw [hshown.instances_eq_nil haccepted]
    exact Consistent.of_refused (Bootstrap.exists_error_of_refused haccepted)
  · obtain ⟨hnotices, hinstances⟩ :=
      Bootstrap.told_of_reads ((Bootstrap.accepted_eq_some_iff _ _).mp haccepted)
    have hrecognized : recognized BuildArgument.argument
        (Bootstrap.process options.tokens).instances =
          options.tokens.filterMap (shownBy? options.forms) := by
      rw [hinstances, Options.forms_of_bootstrapper hmode]
      exact Bootstrap.table.recognized_eq options.tokens
    rw [hrecognized]
    refine Consistent.of_accepted (by simp [hmode]) (by simp [hmode]) ?_
    rw [hnotices]
    split
    · exact Or.inl rfl
    · exact Or.inr ⟨hmode, rfl⟩

theorem consistent_ofPreprocess {options : Options} (hmode : options.mode = .preProcessor) :
    Consistent options (ofPreprocess options (Preprocess.process options.tokens)).report := by
  have hshown := Preprocess.process_instances options.tokens
  have hrefused := Preprocess.accepted_eq_none_iff options.tokens
  unfold ofPreprocess
  rcases haccepted : (Preprocess.process options.tokens).accepted with _ | settings
  · obtain ⟨notice, hmem⟩ := List.exists_mem_of_ne_nil _ (hrefused.mp haccepted)
    rw [hshown.instances_eq_nil haccepted]
    exact Consistent.of_refused ⟨notice, hmem, Preprocess.severity_of_mem_notices hmem⟩
  · have hreads := (Preprocess.accepted_eq_some_iff _ _).mp haccepted
    have hrecognized : recognized BuildArgument.argument
        (Preprocess.process options.tokens).instances =
          options.tokens.filterMap (shownBy? options.forms) := by
      rw [hshown.instances_eq haccepted, Table.instances_eq_filterMap_recognize? hreads.fits,
        Options.forms_of_preProcessor hmode]
      exact Preprocess.table.recognized_eq options.tokens
    have hnotices : (Preprocess.process options.tokens).notices = [] := by
      rw [haccepted] at hrefused
      exact not_not.mp fun htold => absurd (hrefused.mpr htold) (Option.some_ne_none settings)
    rw [hrecognized]
    exact Consistent.of_accepted (by simp [hmode]) (by simp [hmode]) (Or.inl hnotices)

theorem consistent_ofGeneric {ι : Type} [DecidableEq ι] {options : Options} {table : Table ι}
    (hmode : options.mode = .generic) (hforms : table.forms = options.forms) :
    Consistent options (ofGeneric options table.argument (table.parse options.tokens)).report := by
  unfold ofGeneric
  rcases hsuccess : (table.parse options.tokens).success with _ | _
  · have hfits : ¬ table.Fits options.tokens := by
      rw [← Table.success_iff, hsuccess]
      exact Bool.false_ne_true
    rw [Table.instances_of_not_fits hfits]
    exact Consistent.of_refused (Table.exists_error_of_not_fits hfits)
  · have hfits := (Table.success_iff table options.tokens).mp hsuccess
    have hnotices := (Table.notices_eq_nil_iff table options.tokens).mpr hfits
    rw [Table.instances_eq_filterMap_recognize? hfits, table.recognized_eq, hforms]
    exact Consistent.of_accepted (by simp [hmode]) (by simp [hmode]) (Or.inl hnotices)

/-! ## The law -/

theorem run_eq_error {options : Options} (hmode : options.mode = .generic)
    (h : "" ∈ options.prefixes ++ options.verbs) : run options = .error .emptyLiteral := by
  rw [run, hmode]
  dsimp only
  rw [Options.arguments_eq_error h]
  rfl

/-- In the generic mode the tokens are read with the table of the user's arguments. -/
theorem run_of_arguments {options : Options} {arguments : List Argument}
    (hmode : options.mode = .generic) (h : options.arguments = .ok arguments) :
    let table := Table.ofList arguments options.allowUnrecognized
    run options = .ok (ofGeneric options table.argument (table.parse options.tokens)) := by
  rw [run, hmode]
  dsimp only
  rw [h]
  dsimp only [bind, Except.bind]
  rw [Table.build_ofList]
  rfl

/-- In the generic mode the user's table is made unless a literal is empty. -/
theorem run_generic {options : Options} (hmode : options.mode = .generic)
    (h : "" ∉ options.prefixes ++ options.verbs) :
    ∃ outcome, run options = .ok outcome ∧ Consistent options outcome.report := by
  obtain ⟨arguments, harguments, hnames⟩ := Options.arguments_eq_ok h
  have hforms := Options.forms_ofList options.allowUnrecognized hmode hnames
  exact ⟨_, run_of_arguments hmode harguments, consistent_ofGeneric hmode hforms⟩

theorem run_eq_ok {options : Options}
    (h : ¬ (options.mode = .generic ∧ "" ∈ options.prefixes ++ options.verbs)) :
    ∃ outcome, run options = .ok outcome ∧ Consistent options outcome.report := by
  rcases hmode : options.mode with _ | _ | _
  · refine ⟨_, ?_, consistent_ofBootstrap hmode⟩
    rw [run, hmode]
  · refine ⟨_, ?_, consistent_ofPreprocess hmode⟩
    rw [run, hmode]
  · exact run_generic hmode fun hempty => h ⟨hmode, hempty⟩

/-- The same literal twice gives two arguments, and the first takes the tokens. -/
example :
    (run { mode := .generic, prefixes := ["/a:", "/a:"], tokens := ["/a:x"] }).toOption.map
      (·.report.instances) = some [⟨"/a:", "x"⟩] := by
  decide +kernel

/-- The report that a run gives is one whose parts agree. -/
theorem consistent_of_run {options : Options} {outcome : Run} (h : run options = .ok outcome) :
    Consistent options outcome.report := by
  by_cases hempty : options.mode = .generic ∧ "" ∈ options.prefixes ++ options.verbs
  · rw [run_eq_error hempty.1 hempty.2] at h
    cases h
  · obtain ⟨other, hrun, hconsistent⟩ := run_eq_ok hempty
    rw [hrun] at h
    cases h
    exact hconsistent

/-! ## Runs that go through -/

/-- The run goes through with this report. -/
def Succeeds (options : Options) (report : Report) : Prop :=
  (run options).map (·.report) = .ok report ∧ report.success = true

theorem Succeeds.consistent {options : Options} {report : Report} (h : Succeeds options report) :
    Consistent options report := by
  rcases hrun : run options with fault | outcome
  · have hreport := h.1
    rw [hrun] at hreport
    cases hreport
  · have hreport := h.1
    rw [hrun] at hreport
    cases hreport
    exact consistent_of_run hrun

theorem Succeeds.instances_eq {options : Options} {report : Report}
    (h : Succeeds options report) :
    report.instances = options.tokens.filterMap (shownBy? options.forms) :=
  h.consistent.instances h.2

theorem Succeeds.bootstrap {options : Options} {report : Report} (h : Succeeds options report)
    (hmode : options.mode = .bootstrapper) : ∃ settings,
      Bootstrap.Reads options.tokens settings ∧ report.bootstrap = some settings ∧
        report.preprocess = none := by
  obtain ⟨hrun, hsuccess⟩ := h
  rw [run, hmode] at hrun
  cases hrun
  obtain ⟨settings, haccepted⟩ := Option.isSome_iff_exists.mp hsuccess
  exact ⟨settings, (Bootstrap.accepted_eq_some_iff _ _).mp haccepted, haccepted, rfl⟩

theorem Succeeds.preprocess {options : Options} {report : Report} (h : Succeeds options report)
    (hmode : options.mode = .preProcessor) : ∃ settings,
      Preprocess.Reads options.tokens settings ∧ report.preprocess = some settings ∧
        report.bootstrap = none := by
  obtain ⟨hrun, hsuccess⟩ := h
  rw [run, hmode] at hrun
  cases hrun
  obtain ⟨settings, haccepted⟩ := Option.isSome_iff_exists.mp hsuccess
  exact ⟨settings, (Preprocess.accepted_eq_some_iff _ _).mp haccepted, haccepted, rfl⟩

/-- A run over the user's own table has no settings. -/
theorem Succeeds.generic {options : Options} {report : Report} (h : Succeeds options report)
    (hmode : options.mode = .generic) : report.bootstrap = none ∧ report.preprocess = none := by
  have hbootstrap := h.consistent.bootstrap h.2
  have hpreprocess := h.consistent.preprocess h.2
  rw [hmode] at hbootstrap hpreprocess
  simpa using And.intro hbootstrap hpreprocess

end Report

end ArgTable
