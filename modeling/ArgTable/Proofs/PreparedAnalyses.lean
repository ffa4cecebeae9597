-- Which tokens prepare an analysis, and with what settings. Every token starts with a literal of
-- the table, each argument is given once at most and the project key exactly once, and the key,
-- the install value and the properties are well formed. The settings are then the values that
-- the tokens carry. All other tokens are refused with an error.
import ArgTable.Proofs.InstallValues
import ArgTable.Proofs.LenientTables
import ArgTable.Proofs.PropertyLists
import ArgTable.Proofs.ReadValues
import ArgTable.Proofs.ValueNotices

namespace ArgTable

/-- A form with literals in front of a value splits the tokens that it accepts at one of them. -/
theorem Form.exists_literal_of_accepts {literals : List String} {token : String}
    (h : (prefixed literals).Accepts token) :
    ∃ literal ∈ literals, token = literal ++ (prefixed literals).valueOf token := by
  have hvalue : (prefixed literals).accept? token = some ((prefixed literals).valueOf token) := by
    rw [accept?_eq, if_pos h]
  obtain ⟨literal, hmem, hremainder⟩ := List.exists_of_findSome?_eq_some hvalue
  exact ⟨literal, hmem, (remainder?_eq_some_iff _ _ _).mp hremainder⟩

namespace Preprocess

/-! ## What the step reads -/

/-- The literals that a token may start with. -/
def literals : List String :=
  ["/key:", "/k:", "/name:", "/n:", "/version:", "/v:", "/organization:", "/o:", "/install:",
    "/s:", "/d:"]

theorem literals_table :
    (table.order.flatMap fun name => (table.argument name).form.literals) = literals := rfl

/-- The arguments that may be left out and may be given once. -/
def optional : List BuildArgument :=
  [.projectName, .projectVersion, .organization, .installTargets, .settingsFile]

/-- ASCII letters, digits and four marks, and not only digits. -/
def GoodKey (key : String) : Prop :=
  (∀ c ∈ key.toList, c.isAlphanum = true ∨ c ∈ ['-', '_', '.', ':']) ∧
    ∃ c ∈ key.toList, c.isDigit = false

/-- The install switch is on without a value, and else it is what the one value spells. -/
def ReadsSwitch (values : List String) (on : Bool) : Prop :=
  (values = [] ∧ on = true) ∨ ∃ value, values = [value] ∧ SpellsSwitch value on

/-- The settings are what the tokens say. -/
structure Reads (tokens : List String) (settings : Settings) : Prop where
  known : ∀ token ∈ tokens, ∃ literal ∈ literals, Opens literal token
  projectKey : BuildArgument.valuesIn .projectKey tokens = [settings.projectKey]
  goodKey : GoodKey settings.projectKey
  projectName : BuildArgument.valuesIn .projectName tokens = settings.projectName.toList
  projectVersion : BuildArgument.valuesIn .projectVersion tokens = settings.projectVersion.toList
  organization : BuildArgument.valuesIn .organization tokens = settings.organization.toList
  installTargets :
    ReadsSwitch (BuildArgument.valuesIn .installTargets tokens) settings.installTargets
  settingsFile : BuildArgument.valuesIn .settingsFile tokens = settings.settingsFile.toList
  properties : Property.Spelled (BuildArgument.valuesIn .property tokens) settings.properties

/-! ## Tokens that the table reads -/

theorem accepts_iff_opens {name : BuildArgument} (hname : name ∈ table.order) (token : String) :
    (table.argument name).form.Accepts token ↔
      ∃ literal ∈ (table.argument name).form.literals, Opens literal token := by
  have hverbs : ∀ name ∈ table.order, (table.argument name).form.isVerb = false := by decide
  exact Form.accepts_iff_of_not_verb (hverbs name hname) token

theorem owned_iff (token : String) :
    (∃ name, table.owner? token = some name) ↔ ∃ literal ∈ literals, Opens literal token := by
  simp only [table_apart.owner?_eq_some_iff, ← literals_table, List.mem_flatMap]
  constructor
  · rintro ⟨name, hname, haccepts⟩
    obtain ⟨literal, hliteral, hopens⟩ := (accepts_iff_opens hname token).mp haccepts
    exact ⟨literal, ⟨name, hname, hliteral⟩, hopens⟩
  · rintro ⟨literal, ⟨name, hname, hliteral⟩, hopens⟩
    exact ⟨name, hname, (accepts_iff_opens hname token).mpr ⟨literal, hliteral, hopens⟩⟩

theorem length_tokensOf {name : BuildArgument} (hname : name ∈ table.order)
    (tokens : List String) :
    (table.tokensOf tokens name).length = (name.valuesIn tokens).length := by
  rw [table_apart.tokensOf_eq hname, ← List.countP_eq_length_filter]
  exact (Form.length_valuesIn _ tokens).symm

theorem fits_iff (tokens : List String) :
    table.Fits tokens ↔ (∀ token ∈ tokens, ∃ literal ∈ literals, Opens literal token) ∧
      (∀ name ∈ optional, (name.valuesIn tokens).length ≤ 1) ∧
      (BuildArgument.valuesIn .projectKey tokens).length = 1 := by
  have hoptional : ∀ name ∈ optional, name ∈ table.order ∧ (table.argument name).multiple = false :=
    by decide
  constructor
  · intro h
    refine ⟨?_, ?_, ?_⟩
    · intro token hmem
      rcases h.known with hlenient | hknown
      · cases hlenient
      · exact (owned_iff token).mp (hknown token hmem)
    · intro name hmem
      obtain ⟨hname, hsingle⟩ := hoptional name hmem
      rw [← length_tokensOf hname]
      exact h.single name hname hsingle
    · have hkey : BuildArgument.projectKey ∈ table.order := by decide
      have hle := h.single _ hkey rfl
      have hge := h.supplied _ hkey rfl
      rw [← length_tokensOf hkey]
      omega
  · rintro ⟨hknown, hsingle, hkey⟩
    have hcases : ∀ name ∈ table.order, name = .projectKey ∨ name ∈ optional ∨ name = .property :=
      by decide
    refine ⟨Or.inr fun token hmem => (owned_iff token).mpr (hknown token hmem), ?_, ?_⟩
    · intro name hname hmultiple
      rw [length_tokensOf hname]
      rcases hcases name hname with rfl | hmem | rfl
      · exact hkey.le
      · exact hsingle name hmem
      · cases hmultiple
    · intro name hname hrequired
      rw [length_tokensOf hname]
      have honly : ∀ name ∈ table.order, (table.argument name).required = true →
        name = .projectKey := by decide
      rw [honly name hname hrequired, hkey]

/-! ## Values of tokens that the table reads -/

theorem isValid_iff_goodKey (key : String) : ProjectKey.isValid key = true ↔ GoodKey key := by
  have hchar : ∀ c, ProjectKey.isKeyChar c = true ↔
      c.isAlphanum = true ∨ c ∈ ['-', '_', '.', ':'] := by
    intro c
    simp only [ProjectKey.isKeyChar, Bool.or_eq_true, decide_eq_true_eq, List.mem_cons,
      List.not_mem_nil, or_false]
    tauto
  unfold ProjectKey.isValid GoodKey
  simp only [Bool.and_eq_true, List.all_eq_true, List.any_eq_true, hchar, Bool.not_eq_true']

theorem value?_eq_iff {name : BuildArgument} (hname : name ∈ table.order)
    (hsingle : (table.argument name).multiple = false) {tokens : List String}
    (h : table.Fits tokens) (value : Option String) :
    Instance.value? name (table.parse tokens).instances = value ↔
      name.valuesIn tokens = value.toList :=
  table_apart.value?_parse_eq_iff hname hsingle h value

theorem values_property {tokens : List String} (h : table.Fits tokens) :
    Instance.values .property (table.parse tokens).instances =
      BuildArgument.valuesIn .property tokens :=
  table_apart.values_parse (by decide) h

theorem chooseInstall_eq_some_iff (instances : List (Instance BuildArgument)) (on : Bool) :
    (chooseInstall instances).1 = some on ↔
      (Instance.value? BuildArgument.installTargets instances = none ∧ on = true) ∨
        ∃ value, Instance.value? BuildArgument.installTargets instances = some value ∧
          readSwitch? value = some on := by
  unfold chooseInstall
  rcases Instance.value? BuildArgument.installTargets instances with _ | value
  · simp [eq_comm]
  · rcases hswitch : readSwitch? value with _ | read
    · simp [hswitch]
    · simp [hswitch]

/-- The install values of readable tokens decide the switch. -/
theorem chooseInstall_parse {tokens : List String} (h : table.Fits tokens) (on : Bool) :
    (chooseInstall (table.parse tokens).instances).1 = some on ↔
      ReadsSwitch (BuildArgument.valuesIn .installTargets tokens) on := by
  have hmem : BuildArgument.installTargets ∈ table.order := by decide
  have hvalue := value?_eq_iff hmem rfl h
  rw [chooseInstall_eq_some_iff]
  simp only [hvalue, readSwitch?_eq_some_iff]
  rfl

/-! ## Acceptance -/

theorem process_accepted_iff (tokens : List String) (settings : Settings) :
    (process tokens).accepted = some settings ↔
      (table.parse tokens).success = true ∧
        (chooseInstall (table.parse tokens).instances).1 = some settings.installTargets ∧
        Property.collect? (Instance.values .property (table.parse tokens).instances) =
          some settings.properties ∧
        Instance.value? .projectKey (table.parse tokens).instances = some settings.projectKey ∧
        ProjectKey.isValid settings.projectKey = true ∧
        settings = settingsOf (table.parse tokens).instances settings.projectKey
          settings.installTargets settings.properties := by
  unfold process judge Property.extract
  dsimp only
  split
  · next install properties hsuccess hinstall hproperties =>
    rw [hsuccess, hinstall, hproperties]
    split
    · next hkey =>
      simp [hkey]
    · next key hkey =>
      rw [hkey]
      split
      · next hvalid =>
        constructor
        · rintro ⟨⟩
          exact ⟨rfl, rfl, rfl, rfl, hvalid, rfl⟩
        · rintro ⟨-, hinstall', hproperties', hkey', -, hsettings⟩
          cases hinstall'
          cases hproperties'
          cases hkey'
          exact congrArg some hsettings.symm
      · next hvalid =>
        constructor
        · rintro ⟨⟩
        · rintro ⟨-, -, -, hkey', hvalid', -⟩
          cases hkey'
          exact absurd hvalid' hvalid
  · next hrefused =>
    constructor
    · rintro ⟨⟩
    · rintro ⟨hsuccess, hinstall, hproperties, -⟩
      exact absurd hproperties (hrefused _ _ hsuccess hinstall)

theorem ReadsSwitch.length_le {values : List String} {on : Bool} (h : ReadsSwitch values on) :
    values.length ≤ 1 := by
  rcases h with ⟨rfl, -⟩ | ⟨value, rfl, -⟩
  · exact Nat.zero_le 1
  · exact Nat.le_refl 1

theorem Reads.fits {tokens : List String} {settings : Settings} (h : Reads tokens settings) :
    table.Fits tokens := by
  rw [fits_iff]
  refine ⟨h.known, ?_, by rw [h.projectKey]; rfl⟩
  intro name hname
  simp only [optional, List.mem_cons, List.not_mem_nil, or_false] at hname
  rcases hname with rfl | rfl | rfl | rfl | rfl
  · exact h.projectName ▸ Option.length_toList_le
  · exact h.projectVersion ▸ Option.length_toList_le
  · exact h.organization ▸ Option.length_toList_le
  · exact h.installTargets.length_le
  · exact h.settingsFile ▸ Option.length_toList_le

/-- The step accepts tokens with exactly the settings that they say. -/
theorem accepted_eq_some_iff (tokens : List String) (settings : Settings) :
    (process tokens).accepted = some settings ↔ Reads tokens settings := by
  rw [process_accepted_iff, Table.success_iff, Property.collect?_eq_some_iff]
  constructor
  · rintro ⟨hfits, hinstall, hproperties, hkey, hvalid, hsettings⟩
    have hvalue {name : BuildArgument} (hname : name ∈ table.order)
        (hsingle : (table.argument name).multiple = false) {value : Option String}
        (h : value = Instance.value? name (table.parse tokens).instances) :
        name.valuesIn tokens = value.toList :=
      (value?_eq_iff hname hsingle hfits value).mp h.symm
    exact {
      known := ((fits_iff tokens).mp hfits).1
      projectKey := hvalue (by decide) rfl hkey.symm
      goodKey := (isValid_iff_goodKey _).mp hvalid
      projectName := hvalue (by decide) rfl (congrArg Settings.projectName hsettings)
      projectVersion := hvalue (by decide) rfl (congrArg Settings.projectVersion hsettings)
      organization := hvalue (by decide) rfl (congrArg Settings.organization hsettings)
      installTargets := (chooseInstall_parse hfits _).mp hinstall
      settingsFile := hvalue (by decide) rfl (congrArg Settings.settingsFile hsettings)
      properties := values_property hfits ▸ hproperties }
  · intro h
    have hfits := h.fits
    have hvalue {name : BuildArgument} (hname : name ∈ table.order)
        (hsingle : (table.argument name).multiple = false) {value : Option String}
        (h : name.valuesIn tokens = value.toList) :
        Instance.value? name (table.parse tokens).instances = value :=
      (value?_eq_iff hname hsingle hfits value).mpr h
    refine ⟨hfits, (chooseInstall_parse hfits _).mpr h.installTargets, ?_,
      hvalue (by decide) rfl h.projectKey, (isValid_iff_goodKey _).mpr h.goodKey, ?_⟩
    · rw [values_property hfits]
      exact h.properties
    · have hname := hvalue (by decide) rfl h.projectName
      have hversion := hvalue (by decide) rfl h.projectVersion
      have horganization := hvalue (by decide) rfl h.organization
      have hfile := hvalue (by decide) rfl h.settingsFile
      unfold settingsOf
      rw [hname, hversion, horganization, hfile]

/-! ## What is told -/

/-- Tokens that the table cannot read are refused with what the table says of them. -/
theorem process_of_not_fits {tokens : List String} (h : ¬ table.Fits tokens) :
    (process tokens).notices = table.notices tokens ∧ (process tokens).accepted = none := by
  have hinstances := Table.instances_of_not_fits h
  have hfailed : (table.parse tokens).success = false := by
    rw [← Table.success_iff] at h
    simpa using h
  -- without instances there is no value to judge
  have hinstall : chooseInstall [] = (some true, []) := rfl
  have hproperties : Property.extract BuildArgument.property [] = (some [], []) := rfl
  unfold process judge
  simp only [hinstances, hfailed, hinstall, hproperties, List.append_nil, and_true]
  rfl

theorem severity_of_mem_valueErrors {instances : List (Instance BuildArgument)} {notice : Notice}
    (h : notice ∈ installErrors instances ∨ notice ∈ keyErrors instances) :
    notice.severity = .error := by
  unfold installErrors keyErrors at h
  rcases h with h | h
  all_goals
    split at h
    · cases h
    · split at h
      · cases h
      · rw [List.mem_singleton.mp h]
        rfl

theorem severity_of_mem_notices {tokens : List String} {notice : Notice}
    (h : notice ∈ (process tokens).notices) : notice.severity = .error := by
  by_cases hfits : table.Fits tokens
  · rw [(process_of_success ((Table.success_iff table tokens).mpr hfits)).1] at h
    unfold earlierErrors at h
    rw [List.mem_append, List.mem_append] at h
    rcases h with (h | h) | h
    · exact severity_of_mem_valueErrors (Or.inl h)
    · exact Notice.severity_of_onProperty (Property.onProperty_of_mem_noticesOf h)
    · split at h
      · exact severity_of_mem_valueErrors (Or.inr h)
      · cases h
  · rw [(process_of_not_fits hfits).1] at h
    exact Table.severity_of_mem_notices h

theorem accepted_eq_none_iff (tokens : List String) :
    (process tokens).accepted = none ↔ (process tokens).notices ≠ [] := by
  by_cases hfits : table.Fits tokens
  · exact (process_of_success ((Table.success_iff table tokens).mpr hfits)).2
  · obtain ⟨hnotices, hnone⟩ := process_of_not_fits hfits
    rw [hnotices, hnone, Ne, Table.notices_eq_nil_iff]
    exact iff_of_true rfl hfits

/-- A refused step shows no instance, and an accepted one those of the parse. -/
theorem process_instances (tokens : List String) :
    (process tokens).ShowsParsed (table.parse tokens).instances := by
  unfold process judge
  dsimp only
  split
  · split
    · exact Or.inl ⟨rfl, rfl⟩
    · split
      · exact Or.inr ⟨rfl, rfl⟩
      · exact Or.inl ⟨rfl, rfl⟩
  · exact Or.inl ⟨rfl, rfl⟩

/-! ## The law -/

/-- The instance is of an argument of the table, and the token is one of its literals with the
value right behind it. -/
def Shows (token : String) (found : Instance BuildArgument) : Prop :=
  found.name ∈ table.order ∧
    ∃ literal ∈ found.name.argument.form.literals, token = literal ++ found.value

/-- Every token is known, no argument is given too often, the key is given, and the values are
well formed. -/
structure Admits (tokens : List String) : Prop where
  known : ∀ token ∈ tokens, ∃ literal ∈ literals, Opens literal token
  single : ∀ name ∈ optional, (tokens.countP fun token => name.argument.form.Accepts token) ≤ 1
  key : ∃ key, BuildArgument.valuesIn .projectKey tokens = [key] ∧ GoodKey key
  install : ∀ value ∈ BuildArgument.valuesIn .installTargets tokens, ∃ on, SpellsSwitch value on
  properties : ∃ properties,
    Property.Spelled (BuildArgument.valuesIn .property tokens) properties

theorem accepts_iff_admits (tokens : List String) :
    (process tokens).accepted.isSome = true ↔ Admits tokens := by
  rw [Option.isSome_iff_exists]
  simp only [accepted_eq_some_iff]
  constructor
  · rintro ⟨settings, h⟩
    refine ⟨h.known, ?_, ⟨_, h.projectKey, h.goodKey⟩, ?_, ⟨_, h.properties⟩⟩
    · intro name hname
      rw [← Form.length_valuesIn]
      exact ((fits_iff tokens).mp h.fits).2.1 name hname
    · intro value hmem
      rcases h.installTargets with ⟨hnone, -⟩ | ⟨only, hone, hspells⟩
      · rw [hnone] at hmem
        cases hmem
      · rw [hone, List.mem_singleton] at hmem
        exact ⟨_, hmem ▸ hspells⟩
  · rintro ⟨hknown, hsingle, ⟨key, hkey, hgood⟩, hinstall, properties, hproperties⟩
    have hvalue : ∀ name ∈ optional,
        name.valuesIn tokens = (name.valuesIn tokens).head?.toList := by
      intro name hname
      exact (toList_head? ((Form.length_valuesIn _ tokens).trans_le (hsingle name hname))).symm
    obtain ⟨on, hswitch⟩ :
        ∃ on, ReadsSwitch (BuildArgument.valuesIn .installTargets tokens) on := by
      rcases hread : (BuildArgument.valuesIn .installTargets tokens).head? with _ | value
      · refine ⟨true, Or.inl ⟨?_, rfl⟩⟩
        exact List.head?_eq_none_iff.mp hread
      · obtain ⟨on, hspells⟩ := hinstall value (List.mem_of_head? hread)
        refine ⟨on, Or.inr ⟨value, ?_, hspells⟩⟩
        rw [hvalue .installTargets (by decide), hread]
        rfl
    exact ⟨⟨key, _, _, _, on, _, properties⟩, {
      known := hknown
      projectKey := hkey
      goodKey := hgood
      projectName := hvalue .projectName (by decide)
      projectVersion := hvalue .projectVersion (by decide)
      organization := hvalue .organization (by decide)
      installTargets := hswitch
      settingsFile := hvalue .settingsFile (by decide)
      properties := hproperties }⟩

/-- The instance that the table makes of a token splits the token. -/
theorem shows_of_recognize? {token : String} {found : Instance BuildArgument}
    (h : table.recognize? token = some found) : Shows token found := by
  rw [Table.recognize?_eq] at h
  obtain ⟨name, howner, rfl⟩ := Option.map_eq_some_iff.mp h
  obtain ⟨hname, haccepts⟩ := (table_apart.owner?_eq_some_iff token name).mp howner
  refine ⟨hname, ?_⟩
  simp only [table, List.mem_cons, List.not_mem_nil, or_false] at hname
  rcases hname with rfl | rfl | rfl | rfl | rfl | rfl | rfl <;>
    exact Form.exists_literal_of_accepts haccepts

/-- When each token is known, the instances are one for each token. -/
theorem shown_of_known {tokens : List String}
    (h : ∀ token ∈ tokens, ∃ literal ∈ literals, Opens literal token) :
    List.Forall₂ Shows tokens (tokens.filterMap table.recognize?) := by
  have hknown : tokens.filter table.knows = tokens := by
    refine List.filter_eq_self.mpr fun token hmem => ?_
    obtain ⟨name, howner⟩ := (owned_iff token).mpr (h token hmem)
    rw [← Table.isSome_recognize?, Table.recognize?_eq, howner]
    rfl
  have hshown := Table.forall₂_recognize? (fun _ _ => shows_of_recognize?) tokens
  rwa [hknown] at hshown

/-- An analysis is prepared from known tokens with one key, no argument given too often, and well
formed values, and from no others. The table is always made. Nothing is told then, and the
settings are the values that the tokens carry. All other tokens are refused, with an error. -/
theorem an_analysis_is_prepared_from_well_formed_tokens (tokens : List String) :
    Table.build BuildArgument.argument [.projectKey, .projectName, .projectVersion,
        .organization, .installTargets, .settingsFile, .property] false = .ok table ∧
      ((process tokens).accepted.isSome = true ↔ Admits tokens) ∧
      (∀ settings, (process tokens).accepted = some settings →
        (process tokens).notices = [] ∧
          BuildArgument.valuesIn .projectKey tokens = [settings.projectKey] ∧
          BuildArgument.valuesIn .projectName tokens = settings.projectName.toList ∧
          BuildArgument.valuesIn .projectVersion tokens = settings.projectVersion.toList ∧
          BuildArgument.valuesIn .organization tokens = settings.organization.toList ∧
          BuildArgument.valuesIn .settingsFile tokens = settings.settingsFile.toList ∧
          ReadsSwitch (BuildArgument.valuesIn .installTargets tokens) settings.installTargets ∧
          Property.Spelled (BuildArgument.valuesIn .property tokens) settings.properties ∧
          List.Forall₂ Shows tokens (process tokens).instances) ∧
      ((process tokens).accepted = none →
        ∃ notice ∈ (process tokens).notices, notice.severity = .error) := by
  refine ⟨Table.build_eq_ok table, accepts_iff_admits tokens, ?_, ?_⟩
  · intro settings haccepted
    have hreads := (accepted_eq_some_iff tokens settings).mp haccepted
    have hsome : (process tokens).accepted ≠ none := by simp [haccepted]
    refine ⟨?_, hreads.projectKey, hreads.projectName, hreads.projectVersion,
      hreads.organization, hreads.settingsFile, hreads.installTargets, hreads.properties, ?_⟩
    · rw [Ne, accepted_eq_none_iff, not_not] at hsome
      exact hsome
    · rw [(process_instances tokens).instances_eq haccepted,
        Table.instances_eq_filterMap_recognize? hreads.fits]
      exact shown_of_known hreads.known
  · intro hnone
    obtain ⟨notice, hmem⟩ := List.exists_mem_of_ne_nil _ ((accepted_eq_none_iff tokens).mp hnone)
    exact ⟨notice, hmem, severity_of_mem_notices hmem⟩

/-- From a key, an install value with blanks around it and a property, in some order. -/
theorem an_analysis_is_prepared_from_three_tokens :
    Admits ["/d:a=b=c", "/install: FALSE ", "/k:key"] ∧
      (process ["/d:a=b=c", "/install: FALSE ", "/k:key"]).accepted =
        some ⟨"key", none, none, none, false, none, [⟨"a", "b=c"⟩]⟩ ∧
      (process ["/d:a=b=c", "/install: FALSE ", "/k:key"]).notices = [] := by
  have haccepted : (process ["/d:a=b=c", "/install: FALSE ", "/k:key"]).accepted =
      some ⟨"key", none, none, none, false, none, [⟨"a", "b=c"⟩]⟩ := by
    decide +kernel
  obtain ⟨-, hadmits, hread, -⟩ := an_analysis_is_prepared_from_well_formed_tokens
    ["/d:a=b=c", "/install: FALSE ", "/k:key"]
  exact ⟨hadmits.mp (by rw [haccepted]; rfl), haccepted, (hread _ haccepted).1⟩

end Preprocess

end ArgTable
