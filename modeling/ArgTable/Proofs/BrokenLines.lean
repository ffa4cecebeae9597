-- When a plain text has one line for each item. A value is written as it stands, so a line break
-- in a token breaks its line, and the second half can look like a line of its own. Where no token
-- that is shown holds a line break, the text has one line for each item and its run can be read
-- back from it.
import ArgTable.Proofs.RunReports
import ArgTable.Proofs.WrittenProperties

namespace ArgTable

/-- The mode shows something of the token. A start hands on the tokens that it does not know. -/
def Options.Shows (options : Options) (token : String) : Prop :=
  options.mode = .bootstrapper ∨ ∃ form ∈ options.forms, form.Accepts token

theorem Options.shows_iff {options : Options} (hmode : options.mode ≠ .bootstrapper)
    (token : String) :
    options.Shows token ↔ ∃ form ∈ options.forms, form.Accepts token :=
  or_iff_right hmode

namespace Report

/-- The settings of a report, label after label. -/
def groups (report : Report) : Groups :=
  report.bootstrap.elim [] bootstrapGroups ++ report.preprocess.elim [] preprocessGroups

/-- The text has one line for each recognized argument, then one for each setting, in order,
and no other line. -/
def OneLineEach (report : Report) : Prop :=
  linesIn report.plainText = report.instances.map recognizedLine ++ groupLines report.groups

instance (report : Report) : Decidable (OneLineEach report) :=
  inferInstanceAs (Decidable (_ = _))

/-! ## The lines of a report -/

theorem groups_of_bootstrap {report : Report} {settings : Bootstrap.Settings}
    (h : report.bootstrap = some settings) (hnone : report.preprocess = none) :
    report.groups = bootstrapGroups settings := by
  rw [groups, h, hnone]
  exact List.append_nil _

theorem groups_of_preprocess {report : Report} {settings : Preprocess.Settings}
    (h : report.preprocess = some settings) (hnone : report.bootstrap = none) :
    report.groups = preprocessGroups settings := by
  rw [groups, h, hnone]
  rfl

theorem lines_eq {report : Report} (hsuccess : report.success = true) :
    report.lines = report.instances.map recognizedLine ++ groupLines report.groups := by
  have hbootstrap : linesOf bootstrapLines report.bootstrap =
      groupLines (report.bootstrap.elim [] bootstrapGroups) := by
    cases report.bootstrap with
    | none => rfl
    | some settings => exact bootstrapLines_eq settings
  have hpreprocess : linesOf preprocessLines report.preprocess =
      groupLines (report.preprocess.elim [] preprocessGroups) := by
    cases report.preprocess with
    | none => rfl
    | some settings => exact preprocessLines_eq settings
  have happend : groupLines report.groups = groupLines (report.bootstrap.elim [] bootstrapGroups) ++
      groupLines (report.preprocess.elim [] preprocessGroups) := List.flatMap_append
  rw [lines, if_pos hsuccess, hbootstrap, hpreprocess, happend, List.append_assoc]

theorem line_ne_empty {report : Report} (hsuccess : report.success = true) :
    ∀ line ∈ report.lines, line ≠ "" := by
  intro line hmem
  rw [lines_eq hsuccess, List.mem_append] at hmem
  rcases hmem with hmem | hmem
  · obtain ⟨found, -, rfl⟩ := List.mem_map.mp hmem
    simp [recognizedLine, String.append_eq_empty_iff]
  · obtain ⟨group, -, hline⟩ := List.mem_flatMap.mp hmem
    obtain ⟨value, -, rfl⟩ := List.mem_map.mp hline
    simp [labelled, String.append_eq_empty_iff]

theorem oneLineEach_iff {report : Report} (hsuccess : report.success = true) :
    OneLineEach report ↔ ∀ line ∈ report.lines, Unbroken line := by
  rw [OneLineEach, ← lines_eq hsuccess]
  exact linesIn_intercalate_iff (line_ne_empty hsuccess)

end Report

/-! ## Lines of recognized tokens -/

/-- The literals of the form hold a line break all or none. -/
def Form.BreaksAlike (form : Form) : Prop :=
  ∀ literal ∈ form.literals, (Unbroken literal ↔ Unbroken (form.literals.headD ""))

instance (form : Form) : Decidable form.BreaksAlike := List.decidableBAll _ _

theorem Options.breaksAlike_of_mem_forms (options : Options) :
    ∀ form ∈ options.forms, form.BreaksAlike := by
  have hstart : ∀ form ∈ Bootstrap.table.forms, form.BreaksAlike := by decide +kernel
  have hprepare : ∀ form ∈ Preprocess.table.forms, form.BreaksAlike := by decide +kernel
  rcases hmode : options.mode with _ | _ | _
  · rw [forms_of_bootstrapper hmode]
    exact hstart
  · rw [forms_of_preProcessor hmode]
    exact hprepare
  · intro form hmem
    simp only [forms, hmode, List.mem_append, List.mem_map] at hmem
    -- the user's forms have one literal each
    rcases hmem with ⟨literal, -, rfl⟩ | ⟨literal, -, rfl⟩
    · simp [Form.BreaksAlike, Form.literals]
    · simp [Form.BreaksAlike, Form.literals]

theorem exists_shownBy? {forms : List Form} {token : String}
    (h : ∃ form ∈ forms, form.Accepts token) : ∃ found, shownBy? forms token = some found := by
  obtain ⟨form, hmem, haccepts⟩ := h
  have hsome : (forms.find? (·.Accepts token)).isSome = true :=
    List.find?_isSome.mpr ⟨form, hmem, by simpa using haccepts⟩
  obtain ⟨first, hfirst⟩ := Option.isSome_iff_exists.mp hsome
  exact ⟨_, by rw [shownBy?, hfirst]; rfl⟩

theorem exists_form_of_shownBy? {forms : List Form} {token : String} {found : Recognized}
    (h : shownBy? forms token = some found) : ∃ form ∈ forms, form.Accepts token ∧
      found = ⟨form.literals.headD "", form.valueOf token⟩ := by
  obtain ⟨form, hfirst, rfl⟩ := Option.map_eq_some_iff.mp h
  exact ⟨form, List.mem_of_find?_eq_some hfirst, by simpa using List.find?_some hfirst, rfl⟩

namespace Report

/-- The line of a token is broken when the token is. -/
theorem unbroken_recognizedLine_iff {forms : List Form}
    (hforms : ∀ form ∈ forms, form.BreaksAlike) {token : String} {found : Recognized}
    (h : shownBy? forms token = some found) :
    Unbroken (recognizedLine found) ↔ Unbroken token := by
  obtain ⟨form, hmem, haccepts, rfl⟩ := exists_form_of_shownBy? h
  have halike := hforms form hmem
  have htab : Unbroken "\t" := by decide
  unfold recognizedLine
  rw [unbroken_append, unbroken_append]
  cases form with
  | verb literal =>
    have hvalue : Unbroken "" := by decide
    obtain rfl : token = literal := haccepts
    exact ⟨fun h => h.1.1, fun h => ⟨⟨h, htab⟩, hvalue⟩⟩
  | prefixed literals =>
    obtain ⟨literal, hliteral, htoken⟩ := Form.exists_literal_of_accepts haccepts
    have hlead := halike literal hliteral
    have hsplit := congrArg Unbroken htoken
    rw [unbroken_append] at hsplit
    rw [hsplit, hlead]
    exact ⟨fun h => ⟨h.1.1, h.2⟩, fun h => ⟨⟨h.1, htab⟩, h.2⟩⟩

theorem unbroken_recognized_iff {forms : List Form} (hforms : ∀ form ∈ forms, form.BreaksAlike)
    (tokens : List String) :
    (∀ line ∈ (tokens.filterMap (shownBy? forms)).map recognizedLine, Unbroken line) ↔
      ∀ token ∈ tokens, (∃ form ∈ forms, form.Accepts token) → Unbroken token := by
  rw [List.forall_mem_map]
  constructor
  · intro h token hmem haccepts
    obtain ⟨found, hfound⟩ := exists_shownBy? haccepts
    have hline := h found (List.mem_filterMap.mpr ⟨token, hmem, hfound⟩)
    exact (unbroken_recognizedLine_iff hforms hfound).mp hline
  · intro h found hmem
    obtain ⟨token, htoken, hfound⟩ := List.mem_filterMap.mp hmem
    obtain ⟨form, hform, haccepts, -⟩ := exists_form_of_shownBy? hfound
    exact (unbroken_recognizedLine_iff hforms hfound).mpr (h token htoken ⟨form, hform, haccepts⟩)

/-! ## Lines of settings -/

/-- A value is broken only when a token of its form is. -/
theorem unbroken_of_mem_valuesIn {form : Form} {tokens : List String} {value : String}
    (hmem : value ∈ form.valuesIn tokens)
    (h : ∀ token ∈ tokens, form.Accepts token → Unbroken token) : Unbroken value := by
  obtain ⟨token, htoken, rfl⟩ := List.mem_map.mp hmem
  obtain ⟨htoken, haccepts⟩ := List.mem_filter.mp htoken
  have haccepts := of_decide_eq_true haccepts
  have hunbroken := h token htoken haccepts
  cases form with
  | verb literal => exact List.not_mem_nil
  | prefixed literals =>
    obtain ⟨literal, -, hsplit⟩ := Form.exists_literal_of_accepts haccepts
    rw [hsplit, unbroken_append] at hunbroken
    exact hunbroken.2

/-- Of a start, each token is a setting of its own or holds one, but for the verbs. -/
theorem unbroken_bootstrapGroups_iff {tokens : List String} {settings : Bootstrap.Settings}
    (h : Bootstrap.Reads tokens settings) :
    (∀ group ∈ bootstrapGroups settings, ∀ value ∈ group.2, Unbroken value) ↔
      ∀ token ∈ tokens, Unbroken token := by
  simp only [bootstrapGroups, List.forall_mem_cons, List.not_mem_nil, false_imp_iff,
    implies_true, and_true]
  rw [← h.settingsFile, map_propertyText h.properties.parsed, h.childArgs]
  constructor
  · rintro ⟨-, -, -, hchild⟩ token hmem
    by_cases hverb : token ∈ Bootstrap.verbs
    · have hverbs : ∀ verb ∈ Bootstrap.verbs, Unbroken verb := by decide
      exact hverbs token hverb
    · exact hchild token (List.mem_filter.mpr ⟨hmem, by simpa using hverb⟩)
  · intro htokens
    have hvalues (name : BuildArgument) : ∀ value ∈ name.valuesIn tokens, Unbroken value :=
      fun value hmem => unbroken_of_mem_valuesIn hmem fun token htoken _ => htokens token htoken
    refine ⟨?_, hvalues _, hvalues _, ?_⟩
    · cases settings.phase <;> decide
    · exact fun token hmem => htokens token (List.mem_filter.mp hmem).1

/-- Of a preparation, the settings are unbroken when the accepted tokens are. -/
theorem unbroken_preprocessGroups {tokens : List String} {settings : Preprocess.Settings}
    (h : Preprocess.Reads tokens settings)
    (htokens : ∀ token ∈ tokens, (∃ form ∈ Preprocess.table.forms, form.Accepts token) →
      Unbroken token) :
    ∀ group ∈ preprocessGroups settings, ∀ value ∈ group.2, Unbroken value := by
  have hvalues {name : BuildArgument} (hname : name ∈ Preprocess.table.order) :
      ∀ value ∈ name.valuesIn tokens, Unbroken value := by
    intro value hmem
    refine unbroken_of_mem_valuesIn hmem fun token htoken haccepts => ?_
    exact htokens token htoken ⟨_, List.mem_map_of_mem hname, haccepts⟩
  simp only [preprocessGroups, List.forall_mem_cons, List.not_mem_nil, false_imp_iff,
    implies_true, and_true]
  rw [← h.projectName, ← h.projectVersion, ← h.organization, ← h.settingsFile,
    map_propertyText h.properties.parsed]
  refine ⟨?_, hvalues (by decide), hvalues (by decide), hvalues (by decide),
    hvalues (by decide), ?_, hvalues (by decide)⟩
  · exact hvalues (by decide) _ (h.projectKey ▸ List.mem_singleton_self _)
  · cases settings.installTargets <;> decide

theorem unbroken_lines_iff {options : Options} {report : Report} (h : Succeeds options report) :
    (∀ line ∈ report.lines, Unbroken line) ↔
      ∀ token ∈ options.tokens, options.Shows token → Unbroken token := by
  have hrecognized := unbroken_recognized_iff options.breaksAlike_of_mem_forms options.tokens
  rw [lines_eq h.2, List.forall_mem_append, h.instances_eq, hrecognized]
  rcases hmode : options.mode with _ | _ | _
  · obtain ⟨settings, hreads, hbootstrap, hnone⟩ := h.bootstrap hmode
    have hshows : ∀ token, options.Shows token := fun _ => Or.inl hmode
    rw [groups_of_bootstrap hbootstrap hnone,
      unbroken_groupLines_iff (good_bootstrapGroups settings).known,
      unbroken_bootstrapGroups_iff hreads]
    constructor
    · rintro ⟨-, hall⟩ token hmem -
      exact hall token hmem
    · intro hall
      have hall' : ∀ token ∈ options.tokens, Unbroken token :=
        fun token hmem => hall token hmem (hshows token)
      exact ⟨fun token hmem _ => hall' token hmem, hall'⟩
  · obtain ⟨settings, hreads, hpreprocess, hnone⟩ := h.preprocess hmode
    have hother : options.mode ≠ .bootstrapper := by simp [hmode]
    simp only [Options.shows_iff hother]
    rw [groups_of_preprocess hpreprocess hnone,
      unbroken_groupLines_iff (good_preprocessGroups settings).known]
    refine and_iff_left_of_imp fun htokens => ?_
    rw [Options.forms_of_preProcessor hmode] at htokens
    exact unbroken_preprocessGroups hreads htokens
  · obtain ⟨hbootstrap, hpreprocess⟩ := h.generic hmode
    have hother : options.mode ≠ .bootstrapper := by simp [hmode]
    simp only [Options.shows_iff hother, groups, hbootstrap, hpreprocess]
    exact and_iff_left (List.forall_mem_nil _)

/-! ## Reading a run back -/

/-- The first literals of all arguments of the build. -/
def leads : List String := BuildArgument.all.map fun name => name.argument.id

theorem leads_apart : ∀ lead ∈ leads, ∀ other ∈ leads,
    Opens (lead ++ "\t") (other ++ "\t") → lead = other := by
  decide +kernel

theorem leads_apart_from_labels : ∀ lead ∈ leads, ∀ label ∈ labels,
    ¬ Opens (label ++ ": ") (lead ++ "\t") ∧ ¬ Opens (lead ++ "\t") (label ++ ": ") := by
  decide +kernel

theorem argument_mem_leads {options : Options} {report : Report} (h : Succeeds options report)
    (hmode : options.mode ≠ .generic) : ∀ found ∈ report.instances, found.argument ∈ leads := by
  have hstart : ∀ form ∈ Bootstrap.table.forms, form.literals.headD "" ∈ leads := by
    decide +kernel
  have hprepare : ∀ form ∈ Preprocess.table.forms, form.literals.headD "" ∈ leads := by
    decide +kernel
  have hforms : ∀ form ∈ options.forms, form.literals.headD "" ∈ leads := by
    rcases hcases : options.mode with _ | _ | _
    · rw [Options.forms_of_bootstrapper hcases]
      exact hstart
    · rw [Options.forms_of_preProcessor hcases]
      exact hprepare
    · exact absurd hcases hmode
  intro found hmem
  rw [h.instances_eq] at hmem
  obtain ⟨token, -, hfound⟩ := List.mem_filterMap.mp hmem
  obtain ⟨form, hform, -, rfl⟩ := exists_form_of_shownBy? hfound
  exact hforms form hform

theorem valuesAt_recognized {instances : List Recognized} {label : String}
    (h : ∀ found ∈ instances, found.argument ∈ leads) (hlabel : label ∈ labels) :
    valuesAt label (instances.map recognizedLine) = [] := by
  unfold valuesAt
  rw [List.filterMap_eq_nil_iff]
  intro line hline
  obtain ⟨found, hmem, rfl⟩ := List.mem_map.mp hline
  obtain ⟨hlabelled, hlead⟩ := leads_apart_from_labels _ (h found hmem) label hlabel
  have hopens : Opens (found.argument ++ "\t") (recognizedLine found) := ⟨found.value, rfl⟩
  by_contra hsome
  have hopens' := (isSome_remainder?_iff _ _).mp (Option.ne_none_iff_isSome.mp hsome)
  exact (hopens'.comparable hopens).elim hlabelled hlead

theorem recognizedLine_inj {found other : Recognized} (h : found.argument ∈ leads)
    (h' : other.argument ∈ leads) (hline : recognizedLine found = recognizedLine other) :
    found = other := by
  have hopens : Opens (found.argument ++ "\t") (recognizedLine found) := ⟨found.value, rfl⟩
  have hopens' : Opens (other.argument ++ "\t") (recognizedLine found) := ⟨other.value, hline⟩
  have hargument : found.argument = other.argument := by
    rcases hopens.comparable hopens' with hfirst | hsecond
    · exact leads_apart _ h _ h' hfirst
    · exact (leads_apart _ h' _ h hsecond).symm
  rw [recognizedLine, recognizedLine, hargument, String.append_right_inj] at hline
  cases found
  cases other
  cases hargument
  cases hline
  rfl

theorem map_recognizedLine_inj {instances others : List Recognized}
    (h : ∀ found ∈ instances, found.argument ∈ leads)
    (h' : ∀ found ∈ others, found.argument ∈ leads)
    (hlines : instances.map recognizedLine = others.map recognizedLine) : instances = others := by
  induction instances generalizing others with
  | nil => exact (List.map_eq_nil_iff.mp hlines.symm).symm
  | cons found instances ih =>
    rcases others with _ | ⟨other, others⟩
    · cases hlines
    · obtain ⟨hfirst, hmore⟩ := List.cons.inj hlines
      rw [List.forall_mem_cons] at h h'
      rw [recognizedLine_inj h.1 h'.1 hfirst, ih h.2 h'.2 hmore]

theorem boolName_injective : Function.Injective Options.boolName := by
  intro on other h
  cases on <;> cases other <;> first | rfl | exact absurd h (by decide)

theorem bootstrapGroups_inj {tokens tokens' : List String}
    {settings settings' : Bootstrap.Settings} (h : Bootstrap.Reads tokens settings)
    (h' : Bootstrap.Reads tokens' settings')
    (hgroups : bootstrapGroups settings = bootstrapGroups settings') : settings = settings' := by
  simp only [bootstrapGroups, List.cons.injEq, Prod.mk.injEq, true_and, and_true,
    map_propertyText h.properties.parsed, map_propertyText h'.properties.parsed] at hgroups
  obtain ⟨hphase, hfile, hraws, hchild⟩ := hgroups
  have hproperties := h.properties
  rw [hraws] at hproperties
  have hproperties := hproperties.eq h'.properties
  cases settings
  cases settings'
  cases Phase.name_injective hphase
  cases toList_injective hfile
  cases hproperties
  cases hchild
  rfl

theorem preprocessGroups_inj {tokens tokens' : List String}
    {settings settings' : Preprocess.Settings} (h : Preprocess.Reads tokens settings)
    (h' : Preprocess.Reads tokens' settings')
    (hgroups : preprocessGroups settings = preprocessGroups settings') :
    settings = settings' := by
  simp only [preprocessGroups, List.cons.injEq, Prod.mk.injEq, true_and, and_true,
    map_propertyText h.properties.parsed, map_propertyText h'.properties.parsed] at hgroups
  obtain ⟨hkey, hname, hversion, horganization, hfile, hinstall, hraws⟩ := hgroups
  have hproperties := h.properties
  rw [hraws] at hproperties
  have hproperties := hproperties.eq h'.properties
  cases settings
  cases settings'
  cases hkey
  cases toList_injective hname
  cases toList_injective hversion
  cases toList_injective horganization
  cases toList_injective hfile
  cases boolName_injective hinstall
  cases hproperties
  rfl

/-- Only a start has a line with the phase. -/
theorem valuesAt_phase_ne (settings : Bootstrap.Settings) (settings' : Preprocess.Settings) :
    valuesAt "phase" (groupLines (bootstrapGroups settings)) ≠
      valuesAt "phase" (groupLines (preprocessGroups settings')) := by
  have hphase : ("phase", [settings.phase.name]) ∈ bootstrapGroups settings := List.mem_cons_self
  have hstart := valuesAt_groupLines (good_bootstrapGroups settings) hphase
  have hprepare : valuesAt "phase" (groupLines (preprocessGroups settings')) = [] :=
    valuesAt_groupLines_of_not_mem (good_preprocessGroups settings').known (by decide)
      (by simp [preprocessGroups])
  rw [hprepare]
  exact fun hnil => List.cons_ne_nil _ _ (hstart.symm.trans hnil)

/-- The values behind the labels tell what a run decided. -/
theorem payloads_eq_of_valuesAt {options other : Options} {report report' : Report}
    (h : Succeeds options report) (h' : Succeeds other report') (hmode : options.mode ≠ .generic)
    (hmode' : other.mode ≠ .generic)
    (hvalues : ∀ label ∈ labels,
      valuesAt label (groupLines report.groups) = valuesAt label (groupLines report'.groups)) :
    report.bootstrap = report'.bootstrap ∧ report.preprocess = report'.preprocess := by
  rcases hcases : options.mode with _ | _ | _
  · obtain ⟨settings, hreads, hsome, hnone⟩ := h.bootstrap hcases
    rw [groups_of_bootstrap hsome hnone] at hvalues
    rcases hcases' : other.mode with _ | _ | _
    · obtain ⟨settings', hreads', hsome', hnone'⟩ := h'.bootstrap hcases'
      rw [groups_of_bootstrap hsome' hnone'] at hvalues
      have hgroups := groups_eq_of_valuesAt (good_bootstrapGroups settings)
        (good_bootstrapGroups settings') rfl hvalues
      rw [hsome, hsome', hnone, hnone', bootstrapGroups_inj hreads hreads' hgroups]
      exact ⟨rfl, rfl⟩
    · obtain ⟨settings', -, hsome', hnone'⟩ := h'.preprocess hcases'
      rw [groups_of_preprocess hsome' hnone'] at hvalues
      exact absurd (hvalues "phase" (by decide)) (valuesAt_phase_ne settings settings')
    · exact absurd hcases' hmode'
  · obtain ⟨settings, hreads, hsome, hnone⟩ := h.preprocess hcases
    rw [groups_of_preprocess hsome hnone] at hvalues
    rcases hcases' : other.mode with _ | _ | _
    · obtain ⟨settings', -, hsome', hnone'⟩ := h'.bootstrap hcases'
      rw [groups_of_bootstrap hsome' hnone'] at hvalues
      exact absurd (hvalues "phase" (by decide)).symm (valuesAt_phase_ne settings' settings)
    · obtain ⟨settings', hreads', hsome', hnone'⟩ := h'.preprocess hcases'
      rw [groups_of_preprocess hsome' hnone'] at hvalues
      have hgroups := groups_eq_of_valuesAt (good_preprocessGroups settings)
        (good_preprocessGroups settings') rfl hvalues
      rw [hsome, hsome', hnone, hnone', preprocessGroups_inj hreads hreads' hgroups]
      exact ⟨rfl, rfl⟩
    · exact absurd hcases' hmode'
  · exact absurd hcases hmode

/-- Two runs of the build with the same lines recognized and decided the same. -/
theorem eq_of_lines_eq {options other : Options} {report report' : Report}
    (h : Succeeds options report) (h' : Succeeds other report') (hmode : options.mode ≠ .generic)
    (hmode' : other.mode ≠ .generic) (hlines : report.lines = report'.lines) :
    report.instances = report'.instances ∧ report.bootstrap = report'.bootstrap ∧
      report.preprocess = report'.preprocess := by
  have hleads := argument_mem_leads h hmode
  have hleads' := argument_mem_leads h' hmode'
  rw [lines_eq h.2, lines_eq h'.2] at hlines
  have hvalues : ∀ label ∈ labels,
      valuesAt label (groupLines report.groups) = valuesAt label (groupLines report'.groups) := by
    intro label hlabel
    have hall := congrArg (valuesAt label) hlines
    rw [valuesAt_append, valuesAt_append, valuesAt_recognized hleads hlabel,
      valuesAt_recognized hleads' hlabel] at hall
    exact hall
  obtain ⟨hbootstrap, hpreprocess⟩ := payloads_eq_of_valuesAt h h' hmode hmode' hvalues
  have hgroups : report.groups = report'.groups := by
    rw [groups, groups, hbootstrap, hpreprocess]
  rw [hgroups] at hlines
  exact ⟨map_recognizedLine_inj hleads hleads' (List.append_cancel_right hlines), hbootstrap,
    hpreprocess⟩

/-! ## The law -/

instance (options : Options) (report : Report) : Decidable (Succeeds options report) :=
  inferInstanceAs (Decidable (_ ∧ _))

/-- The plain text of a run that goes through has one line for each item exactly when no token
that is shown holds a line break. Two runs of the build with such texts recognized and decided
the same when their texts are the same. -/
theorem unbroken_tokens_get_one_line_each {options : Options} {report : Report}
    (h : Succeeds options report) :
    (OneLineEach report ↔ ∀ token ∈ options.tokens, options.Shows token → Unbroken token) ∧
      (options.mode ≠ .generic → OneLineEach report → ∀ other report', Succeeds other report' →
        other.mode ≠ .generic → OneLineEach report' → report'.plainText = report.plainText →
          report'.instances = report.instances ∧ report'.bootstrap = report.bootstrap ∧
            report'.preprocess = report.preprocess) := by
  refine ⟨(oneLineEach_iff h.2).trans (unbroken_lines_iff h), ?_⟩
  intro hmode hone other report' h' hmode' hone' htext
  have hlines : report'.lines = report.lines := by
    rw [lines_eq h'.2, ← hone', htext, hone, ← lines_eq h.2]
  exact eq_of_lines_eq h' h hmode' hmode hlines

/-- The report of a start by the verb that hands these tokens on. -/
def handingOn (childArgs : List String) : Report where
  mode := .bootstrapper
  success := true
  instances := [⟨"begin", ""⟩]
  bootstrap := some ⟨.preProcessing, childArgs, none, []⟩

/-- Two tokens that are handed on get a line each. -/
theorem two_unbroken_tokens_get_one_line_each :
    Succeeds { tokens := ["begin", "x", "y"] } (handingOn ["x", "y"]) ∧
      OneLineEach (handingOn ["x", "y"]) ∧
      linesIn (handingOn ["x", "y"]).plainText =
        ["begin\t", "phase: pre-processing", "child argument: x", "child argument: y"] := by
  have hsucceeds : Succeeds { tokens := ["begin", "x", "y"] } (handingOn ["x", "y"]) := by
    decide +kernel
  have hunbroken : ∀ token ∈ ["begin", "x", "y"], Unbroken token := by decide
  refine ⟨hsucceeds, (unbroken_tokens_get_one_line_each hsucceeds).1.mpr ?_, by decide +kernel⟩
  exact fun token hmem _ => hunbroken token hmem

/-- One token with a line break in it and two tokens without give the same text. -/
theorem a_line_break_in_a_token_looks_like_a_line :
    Succeeds { tokens := ["begin", "x\nchild argument: y"] }
        (handingOn ["x\nchild argument: y"]) ∧
      ¬ OneLineEach (handingOn ["x\nchild argument: y"]) ∧
      Succeeds { tokens := ["begin", "x", "y"] } (handingOn ["x", "y"]) ∧
      (handingOn ["x\nchild argument: y"]).plainText = (handingOn ["x", "y"]).plainText ∧
      (handingOn ["x\nchild argument: y"]).bootstrap ≠ (handingOn ["x", "y"]).bootstrap := by
  decide +kernel

end Report

end ArgTable
