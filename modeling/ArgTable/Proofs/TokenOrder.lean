-- The order of the tokens does not decide what becomes of them. Which token is the first of its
-- argument and which property is the repeated one changes with the order, but how many there are
-- of each kind does not. So tokens in another order are accepted or refused alike, with as many
-- errors and warnings, and the same is made of them up to order.
import ArgTable.Proofs.JournalRuns
import ArgTable.Proofs.PreparedAnalyses
import ArgTable.Proofs.StartedBuilds

namespace ArgTable

/-! ## Numbers of notices -/

/-- How many entries of the severity the notices make in a journal. -/
def told (severity : Severity) (notices : List Notice) : Nat :=
  (Journal.recordAll {} (notices.map (·.diagnostic))).count severity

/-- Only the severities count. -/
theorem told_congr {notices others : List Notice}
    (h : notices.map (·.severity) = others.map (·.severity)) (severity : Severity) :
    told severity notices = told severity others := by
  have hcount : ∀ notices : List Notice,
      told severity notices = (notices.map (·.severity)).countP (· = severity) := by
    intro notices
    unfold told
    rw [Journal.count_recordAll, List.countP_map, List.countP_map]
    exact Nat.zero_add _
  rw [hcount, hcount, h]

/-- Of errors only the number counts. -/
theorem severities_eq_of_errors {notices others : List Notice}
    (h : ∀ notice ∈ notices, notice.severity = .error)
    (h' : ∀ notice ∈ others, notice.severity = .error) (hlength : notices.length = others.length) :
    notices.map (·.severity) = others.map (·.severity) := by
  rw [List.map_eq_replicate_iff.mpr h, List.map_eq_replicate_iff.mpr h', hlength]

/-! ## Parsing -/

namespace Table

variable {ι : Type} [DecidableEq ι] (table : Table ι) {tokens others : List String}

theorem length_tokensOf_perm (h : tokens.Perm others) (name : ι) :
    (table.tokensOf tokens name).length = (table.tokensOf others name).length :=
  (h.filter _).length_eq

theorem fits_perm (h : tokens.Perm others) : table.Fits tokens ↔ table.Fits others := by
  have hstep : ∀ {tokens others : List String}, tokens.Perm others → table.Fits tokens →
      table.Fits others := by
    intro tokens others h hfits
    refine ⟨?_, ?_, ?_⟩
    · exact hfits.known.imp_right fun hknown token hmem => hknown token (h.mem_iff.mpr hmem)
    · intro name hname hsingle
      rw [← length_tokensOf_perm table h]
      exact hfits.single name hname hsingle
    · intro name hname hrequired
      rw [← length_tokensOf_perm table h]
      exact hfits.supplied name hname hrequired
  exact ⟨hstep h, hstep h.symm⟩

theorem leftOut_perm (h : tokens.Perm others) : table.leftOut tokens = table.leftOut others := by
  unfold leftOut
  congr 1
  funext name
  congr 1
  exact (h.filter _).isEmpty_eq

theorem length_notices_perm (h : tokens.Perm others) :
    (table.notices tokens).length = (table.notices others).length := by
  rw [length_notices, length_notices, leftOut_perm table h, h.countP_eq]
  simp only [length_tokensOf_perm table h]

theorem severities_perm (h : tokens.Perm others) :
    (table.notices tokens).map (·.severity) = (table.notices others).map (·.severity) :=
  severities_eq_of_errors (fun _ => severity_of_mem_notices) (fun _ => severity_of_mem_notices)
    (length_notices_perm table h)

theorem instances_perm (h : tokens.Perm others) :
    (table.parse tokens).instances.Perm (table.parse others).instances := by
  by_cases hfits : table.Fits tokens
  · have hfits' := (fits_perm table h).mp hfits
    rw [instances_eq_filterMap_recognize? hfits, instances_eq_filterMap_recognize? hfits']
    exact h.filterMap _
  · have hfits' := mt (fits_perm table h).mpr hfits
    rw [instances_of_not_fits hfits, instances_of_not_fits hfits']

theorem values_perm (h : tokens.Perm others) (name : ι) :
    (Instance.values name (table.parse tokens).instances).Perm
      (Instance.values name (table.parse others).instances) :=
  ((instances_perm table h).filter _).map _

/-- The value of an argument that may be supplied once does not depend on the order. -/
theorem value?_perm (h : tokens.Perm others) {name : ι} (hname : name ∈ table.order)
    (hsingle : (table.argument name).multiple = false) :
    Instance.value? name (table.parse tokens).instances =
      Instance.value? name (table.parse others).instances := by
  rw [Instance.value?_eq_head?_values, Instance.value?_eq_head?_values]
  congr 1
  apply perm_eq_of_length_le (values_perm table h name)
  by_cases hfits : table.Fits others
  · rw [values_of_fits hfits, List.length_map]
    exact hfits.single name hname hsingle
  · rw [instances_of_not_fits hfits]
    exact Nat.zero_le 1

end Table

/-! ## Properties -/

namespace Property

variable {raws others : List String}

/-- The kept keys are the same in another order. -/
theorem kept_keys_perm (h : raws.Perm others) :
    ((gather raws).kept.map (·.key)).Perm ((gather others).kept.map (·.key)) := by
  rw [List.perm_ext_iff_of_nodup (gather_of raws).distinct (gather_of others).distinct]
  intro key
  rw [mem_kept_keys_iff, mem_kept_keys_iff]
  exact ((h.filterMap _).map _).mem_iff

theorem reservedNotices_perm (h : raws.Perm others) :
    reservedNotices (gather raws).kept = reservedNotices (gather others).kept := by
  unfold reservedNotices
  congr 2
  funext entry
  rw [Bool.eq_iff_iff, isSome_find?_iff, isSome_find?_iff]
  exact (kept_keys_perm h).mem_iff

theorem length_noticesOf_perm (h : raws.Perm others) :
    (noticesOf raws).length = (noticesOf others).length := by
  have hkept := (kept_keys_perm h).length_eq
  rw [List.length_map, List.length_map] at hkept
  have hcounted := (gather_of raws).counted
  have hcounted' := (gather_of others).counted
  have hlength := h.length_eq
  unfold noticesOf
  rw [List.length_append, List.length_append, reservedNotices_perm h]
  omega

/-- Texts in another order spell the same properties in another order. -/
theorem Spelled.perm {properties : List Property} (hspelled : Spelled raws properties)
    (h : raws.Perm others) : ∃ permuted, Spelled others permuted ∧ properties.Perm permuted := by
  obtain ⟨rfl, hlength⟩ := (map_parse?_eq_iff raws properties).mp hspelled.parsed
  have hperm : (raws.filterMap parse?).Perm (others.filterMap parse?) := h.filterMap _
  refine ⟨others.filterMap parse?, ⟨?_, ?_, ?_⟩, hperm⟩
  · rw [map_parse?_eq_iff]
    exact ⟨rfl, by rw [← hperm.length_eq, hlength, h.length_eq]⟩
  · exact (hperm.map _).nodup_iff.mp hspelled.distinct
  · intro property hmem
    exact hspelled.free property (hperm.mem_iff.mpr hmem)

end Property

/-! ## Values -/

theorem Form.valuesIn_perm (form : Form) {tokens others : List String} (h : tokens.Perm others) :
    (form.valuesIn tokens).Perm (form.valuesIn others) :=
  (h.filter _).map _

theorem BuildArgument.valuesIn_eq_of_perm {name : BuildArgument} {tokens others : List String}
    (h : tokens.Perm others) (hle : (name.valuesIn tokens).length ≤ 1) :
    name.valuesIn others = name.valuesIn tokens :=
  perm_eq_of_length_le (Form.valuesIn_perm _ h.symm) hle

/-! ## Verdicts -/

/-- Both verdicts accept, with results that are alike, or both refuse. They tell as many notices
of each severity, and they show the same instances in some order. -/
structure Verdict.Alike {α : Type} (same : α → α → Prop) (verdict other : Verdict α) : Prop where
  accepted : Option.Rel same verdict.accepted other.accepted
  told : ∀ severity, told severity verdict.notices = told severity other.notices
  instances : verdict.instances.Perm other.instances

/-- A step that reads the tokens accepts them in another order when what it reads is there in
another order. -/
theorem rel_of_reads {α : Type} {accepted : List String → Option α}
    {reads : List String → α → Prop} {same : α → α → Prop}
    (haccepted : ∀ tokens result, accepted tokens = some result ↔ reads tokens result)
    (hperm : ∀ {tokens others result}, reads tokens result → tokens.Perm others →
      ∃ other, reads others other ∧ same result other)
    {tokens others : List String} (h : tokens.Perm others) :
    Option.Rel same (accepted tokens) (accepted others) := by
  rcases hfirst : accepted tokens with _ | result
  · rcases hsecond : accepted others with _ | other
    · exact Option.Rel.none
    · obtain ⟨result, hreads, -⟩ := hperm ((haccepted _ _).mp hsecond) h.symm
      rw [(haccepted _ _).mpr hreads] at hfirst
      cases hfirst
  · obtain ⟨other, hreads, hsame⟩ := hperm ((haccepted _ _).mp hfirst) h
    rw [(haccepted _ _).mpr hreads]
    exact Option.Rel.some hsame

theorem Verdict.ShowsParsed.perm {α : Type} {same : α → α → Prop} {verdict other : Verdict α}
    {parsed parsed' : List (Instance BuildArgument)} (h : verdict.ShowsParsed parsed)
    (h' : other.ShowsParsed parsed') (haccepted : Option.Rel same verdict.accepted other.accepted)
    (hparsed : parsed.Perm parsed') : verdict.instances.Perm other.instances := by
  rcases h with ⟨hnone, hempty⟩ | ⟨hsome, hinstances⟩
  · rcases h' with ⟨-, hempty'⟩ | ⟨hsome', -⟩
    · rw [hempty, hempty']
    · rw [hnone] at haccepted
      generalize other.accepted = accepted at haccepted hsome'
      cases haccepted
      cases hsome'
  · rcases h' with ⟨hnone', -⟩ | ⟨-, hinstances'⟩
    · rw [hnone'] at haccepted
      generalize verdict.accepted = accepted at haccepted hsome
      cases haccepted
      cases hsome
    · rw [hinstances, hinstances']
      exact hparsed

/-! ## The start of a build -/

namespace Bootstrap

variable {tokens others : List String}

/-- The settings are the same but for the order of what is handed on and of the properties. -/
structure Settings.Alike (settings other : Settings) : Prop where
  phase : settings.phase = other.phase
  childArgs : settings.childArgs.Perm other.childArgs
  settingsFile : settings.settingsFile = other.settingsFile
  properties : settings.properties.Perm other.properties

theorem phaseOf_perm (h : tokens.Perm others) : phaseOf tokens = phaseOf others := by
  have hnil : tokens = [] ↔ others = [] := by
    rw [← List.length_eq_zero_iff, ← List.length_eq_zero_iff, h.length_eq]
  unfold phaseOf
  simp only [h.mem_iff, hnil]

theorem Reads.perm {settings : Settings} (hreads : Reads tokens settings)
    (h : tokens.Perm others) :
    ∃ other, Reads others other ∧ settings.Alike other := by
  obtain ⟨permuted, hspelled, hproperties⟩ := hreads.properties.perm (Form.valuesIn_perm _ h)
  have hfile : (BuildArgument.valuesIn .settingsFile tokens).length ≤ 1 :=
    hreads.settingsFile ▸ Option.length_toList_le
  refine ⟨⟨settings.phase, withoutVerbs others, settings.settingsFile, permuted⟩, ?_, ?_⟩
  · exact {
      oneVerb := by
        rw [← h.count_eq, ← h.count_eq]
        exact hreads.oneVerb
      phase := hreads.phase.trans (phaseOf_perm h)
      childArgs := rfl
      settingsFile := (BuildArgument.valuesIn_eq_of_perm h hfile).trans hreads.settingsFile
      properties := hspelled }
  · exact ⟨rfl, hreads.childArgs ▸ h.filter _, rfl, hproperties⟩

theorem choosePhase_perm {instances others : List (Instance BuildArgument)} (tokenCount : Nat)
    (h : instances.Perm others) :
    choosePhase tokenCount instances = choosePhase tokenCount others := by
  unfold choosePhase Instance.supplied
  rw [h.any_eq, h.any_eq]

theorem accepted_perm (h : tokens.Perm others) :
    Option.Rel Settings.Alike (process tokens).accepted (process others).accepted :=
  rel_of_reads accepted_eq_some_iff Reads.perm h

theorem severities_perm (h : tokens.Perm others) :
    (process tokens).notices.map (·.severity) = (process others).notices.map (·.severity) := by
  have hinstances := Table.instances_perm table h
  have hvalues := Table.values_perm table h .property
  have herrors : ∀ raws, ∀ notice ∈ Property.noticesOf raws, notice.severity = .error :=
    fun raws notice hmem =>
      Notice.severity_of_onProperty (Property.onProperty_of_mem_noticesOf hmem)
  rw [process_notices, process_notices, List.map_append, List.map_append, List.map_append,
    List.map_append, Table.severities_perm table h,
    severities_eq_of_errors (herrors _) (herrors _) (Property.length_noticesOf_perm hvalues),
    h.length_eq, choosePhase_perm _ hinstances]

theorem process_perm (h : tokens.Perm others) :
    Verdict.Alike Settings.Alike (process tokens) (process others) where
  accepted := accepted_perm h
  told := told_congr (severities_perm h)
  instances := (process_instances tokens).perm (process_instances others) (accepted_perm h)
    (Table.instances_perm table h)

end Bootstrap

/-! ## The preparation of an analysis -/

namespace Preprocess

variable {tokens others : List String}

/-- The settings are the same but for the order of the properties. -/
structure Settings.Alike (settings other : Settings) : Prop where
  projectKey : settings.projectKey = other.projectKey
  projectName : settings.projectName = other.projectName
  projectVersion : settings.projectVersion = other.projectVersion
  organization : settings.organization = other.organization
  installTargets : settings.installTargets = other.installTargets
  settingsFile : settings.settingsFile = other.settingsFile
  properties : settings.properties.Perm other.properties

theorem Reads.perm {settings : Settings} (hreads : Reads tokens settings)
    (h : tokens.Perm others) :
    ∃ other, Reads others other ∧ settings.Alike other := by
  obtain ⟨-, hoptional, hkey⟩ := (fits_iff tokens).mp hreads.fits
  have hvalue {name : BuildArgument} (hle : (name.valuesIn tokens).length ≤ 1) :
      name.valuesIn others = name.valuesIn tokens :=
    BuildArgument.valuesIn_eq_of_perm h hle
  obtain ⟨permuted, hspelled, hproperties⟩ := hreads.properties.perm (Form.valuesIn_perm _ h)
  refine ⟨{ settings with properties := permuted }, ?_, ⟨rfl, rfl, rfl, rfl, rfl, rfl, hproperties⟩⟩
  exact {
    known := fun token hmem => hreads.known token (h.mem_iff.mpr hmem)
    projectKey := (hvalue hkey.le).trans hreads.projectKey
    goodKey := hreads.goodKey
    projectName := (hvalue (hoptional _ (by decide))).trans hreads.projectName
    projectVersion := (hvalue (hoptional _ (by decide))).trans hreads.projectVersion
    organization := (hvalue (hoptional _ (by decide))).trans hreads.organization
    installTargets := by
      rw [hvalue (hoptional _ (by decide))]
      exact hreads.installTargets
    settingsFile := (hvalue (hoptional _ (by decide))).trans hreads.settingsFile
    properties := hspelled }

theorem accepted_perm (h : tokens.Perm others) :
    Option.Rel Settings.Alike (process tokens).accepted (process others).accepted :=
  rel_of_reads accepted_eq_some_iff Reads.perm h

theorem length_earlierErrors_perm (h : tokens.Perm others) :
    (earlierErrors (table.parse tokens).instances).length =
      (earlierErrors (table.parse others).instances).length := by
  have hinstall : installErrors (table.parse tokens).instances =
      installErrors (table.parse others).instances := by
    unfold installErrors
    rw [Table.value?_perm table h (by decide) rfl]
  unfold earlierErrors propertyErrors Property.extract
  rw [List.length_append, List.length_append, hinstall]
  exact congrArg _ (Property.length_noticesOf_perm (Table.values_perm table h .property))

theorem keyErrors_perm (h : tokens.Perm others) :
    keyErrors (table.parse tokens).instances = keyErrors (table.parse others).instances := by
  unfold keyErrors
  rw [Table.value?_perm table h (by decide) rfl]

theorem length_notices_perm (h : tokens.Perm others) :
    (process tokens).notices.length = (process others).notices.length := by
  by_cases hfits : table.Fits tokens
  · have hfits' := (Table.fits_perm table h).mp hfits
    have hearlier := length_earlierErrors_perm h
    have hnone : earlierErrors (table.parse tokens).instances = [] ↔
        earlierErrors (table.parse others).instances = [] := by
      rw [← List.length_eq_zero_iff, hearlier, List.length_eq_zero_iff]
    rw [(process_of_success ((Table.success_iff table tokens).mpr hfits)).1,
      (process_of_success ((Table.success_iff table others).mpr hfits')).1,
      List.length_append, List.length_append, hearlier, keyErrors_perm h]
    simp only [hnone]
  · have hfits' := mt (Table.fits_perm table h).mpr hfits
    rw [(process_of_not_fits hfits).1, (process_of_not_fits hfits').1,
      Table.length_notices_perm table h]

theorem process_perm (h : tokens.Perm others) :
    Verdict.Alike Settings.Alike (process tokens) (process others) where
  accepted := accepted_perm h
  told := told_congr (severities_eq_of_errors (fun _ => severity_of_mem_notices)
    (fun _ => severity_of_mem_notices) (length_notices_perm h))
  instances := (process_instances tokens).perm (process_instances others) (accepted_perm h)
    (Table.instances_perm table h)

end Preprocess

/-! ## The law -/

/-- Tokens in another order are parsed with the same success, as many errors and the same
instances in another order, by any table. Both steps of the build accept them or refuse them
alike. -/
theorem the_order_of_tokens_does_not_decide {ι : Type} [DecidableEq ι] (table : Table ι)
    {tokens others : List String} (h : tokens.Perm others) :
    ((table.parse tokens).success = (table.parse others).success ∧
        told .error (table.parse tokens).notices = told .error (table.parse others).notices ∧
        (table.parse tokens).instances.Perm (table.parse others).instances) ∧
      Verdict.Alike Bootstrap.Settings.Alike (Bootstrap.process tokens)
        (Bootstrap.process others) ∧
      Verdict.Alike Preprocess.Settings.Alike (Preprocess.process tokens)
        (Preprocess.process others) := by
  refine ⟨⟨?_, ?_, Table.instances_perm table h⟩, Bootstrap.process_perm h,
    Preprocess.process_perm h⟩
  · rw [Bool.eq_iff_iff, Table.success_iff, Table.success_iff, Table.fits_perm table h]
  · exact told_congr (Table.severities_perm table h) .error

/-- Of a command line with two properties, whose order is turned around. -/
theorem two_orders_of_a_command_line_are_alike :
    ["/k:a", "/d:x=1", "/d:y=2"].Perm ["/d:y=2", "/k:a", "/d:x=1"] ∧
      (Preprocess.table.parse ["/k:a", "/d:x=1", "/d:y=2"]).success =
        (Preprocess.table.parse ["/d:y=2", "/k:a", "/d:x=1"]).success ∧
      Verdict.Alike Bootstrap.Settings.Alike
        (Bootstrap.process ["/k:a", "/d:x=1", "/d:y=2"])
        (Bootstrap.process ["/d:y=2", "/k:a", "/d:x=1"]) ∧
      Verdict.Alike Preprocess.Settings.Alike
        (Preprocess.process ["/k:a", "/d:x=1", "/d:y=2"])
        (Preprocess.process ["/d:y=2", "/k:a", "/d:x=1"]) := by
  have h : ["/k:a", "/d:x=1", "/d:y=2"].Perm ["/d:y=2", "/k:a", "/d:x=1"] := by decide
  obtain ⟨⟨hsuccess, -⟩, hstart, hprepare⟩ :=
    the_order_of_tokens_does_not_decide Preprocess.table h
  exact ⟨h, hsuccess, hstart, hprepare⟩

end ArgTable
