-- Which tokens start a build, and with what. A start takes one phase verb at most, one settings
-- file at most, and properties that can be set. It hands on every token that the table does not
-- take for a verb, so it leaves out one token at most.
import ArgTable.Proofs.PhaseNotices
import ArgTable.Proofs.PropertyLists
import ArgTable.Proofs.ReadValues

namespace ArgTable.Bootstrap

/-! ## What a start reads -/

/-- The phase of tokens that hold one verb at most. -/
def phaseOf (tokens : List String) : Phase :=
  if "begin" ∈ tokens then .preProcessing
  else if "end" ∈ tokens then .postProcessing
  else if tokens = [] then .postProcessing
  else .preProcessing

/-- The settings are what the tokens say. -/
structure Reads (tokens : List String) (settings : Settings) : Prop where
  oneVerb : tokens.count "begin" + tokens.count "end" ≤ 1
  phase : settings.phase = phaseOf tokens
  childArgs : settings.childArgs = withoutVerbs tokens
  settingsFile : BuildArgument.valuesIn .settingsFile tokens = settings.settingsFile.toList
  properties : Property.Spelled (BuildArgument.valuesIn .property tokens) settings.properties

/-! ## The verbs -/

theorem oneVerb_iff (tokens : List String) :
    tokens.count "begin" + tokens.count "end" ≤ 1 ↔
      tokens.count "begin" ≤ 1 ∧ tokens.count "end" ≤ 1 ∧
        ¬ ("begin" ∈ tokens ∧ "end" ∈ tokens) := by
  have hbegin : 0 < tokens.count "begin" ↔ "begin" ∈ tokens := List.count_pos_iff
  have hend : 0 < tokens.count "end" ↔ "end" ∈ tokens := List.count_pos_iff
  rw [← hbegin, ← hend]
  omega

theorem length_valuesIn_settingsFile (tokens : List String) :
    (BuildArgument.valuesIn .settingsFile tokens).length =
      tokens.countP fun token => Opens "/s:" token := by
  refine (Form.length_valuesIn _ tokens).trans ?_
  congr 1
  funext token
  rw [decide_eq_decide]
  simp [BuildArgument.argument, Form.Accepts]

theorem fits_of_oneVerb {tokens : List String}
    (hverb : tokens.count "begin" + tokens.count "end" ≤ 1)
    (hfile : (tokens.countP fun token => Opens "/s:" token) ≤ 1) : table.Fits tokens := by
  rw [fits_iff_not_crowded]
  unfold Crowded
  omega

/-- When the table can read the tokens, the phase is chosen by the verbs among them. -/
theorem choosePhase_parse {tokens : List String} (h : table.Fits tokens) :
    choosePhase tokens.length (table.parse tokens).instances =
      if "begin" ∈ tokens ∧ "end" ∈ tokens then (none, [.bothPhases])
      else (some (phaseOf tokens),
        if "begin" ∈ tokens ∨ "end" ∈ tokens then [] else [.neitherPhase]) := by
  have hcrowded := (fits_iff_not_crowded tokens).mp h
  have hsupplied {verb : BuildArgument} {word : String}
      (hverb : IsVerb verb word) :
      Instance.supplied verb (table.parse tokens).instances = decide (word ∈ tokens) := by
    rw [Bool.eq_iff_iff, supplied_verb_iff tokens hverb, decide_eq_true_eq]
    exact and_iff_right hcrowded
  unfold choosePhase phaseOf
  rw [hsupplied isVerb_begin, hsupplied isVerb_end]
  by_cases hbegin : "begin" ∈ tokens
  · by_cases hend : "end" ∈ tokens
    · simp [hbegin, hend]
    · simp [hbegin, hend]
  · by_cases hend : "end" ∈ tokens
    · simp [hbegin, hend]
    · simp [hbegin, hend]

/-! ## Acceptance -/

theorem settingsFile_eq_iff {tokens : List String} (h : table.Fits tokens)
    (value : Option String) :
    Instance.value? .settingsFile (table.parse tokens).instances = value ↔
      BuildArgument.valuesIn .settingsFile tokens = value.toList :=
  table_apart.value?_parse_eq_iff (by decide) rfl h value

theorem values_property {tokens : List String} (h : table.Fits tokens) :
    Instance.values .property (table.parse tokens).instances =
      BuildArgument.valuesIn .property tokens :=
  table_apart.values_parse (by decide) h

theorem process_accepted_iff (tokens : List String) (settings : Settings) :
    (process tokens).accepted = some settings ↔
      (table.parse tokens).success = true ∧
        (choosePhase tokens.length (table.parse tokens).instances).1 = some settings.phase ∧
        settings.childArgs = withoutVerbs tokens ∧
        settings.settingsFile =
          Instance.value? .settingsFile (table.parse tokens).instances ∧
        Property.collect? (Instance.values .property (table.parse tokens).instances) =
          some settings.properties := by
  unfold process judge Property.extract
  dsimp only
  split
  · next properties phase hproperties hphase hsuccess =>
    rw [hproperties, hphase, hsuccess]
    constructor
    · rintro ⟨⟩
      simp
    · rintro ⟨-, hphase', hchild, hfile, hproperties'⟩
      cases settings
      cases hphase'
      cases hproperties'
      cases hchild
      cases hfile
      rfl
  · next hrefused =>
    constructor
    · rintro ⟨⟩
    · rintro ⟨hsuccess, hphase, -, -, hproperties⟩
      exact absurd hsuccess (hrefused _ _ hproperties hphase)

/-- The step accepts tokens with exactly the settings that they say. -/
theorem accepted_eq_some_iff (tokens : List String) (settings : Settings) :
    (process tokens).accepted = some settings ↔ Reads tokens settings := by
  rw [process_accepted_iff, Table.success_iff, Property.collect?_eq_some_iff]
  constructor
  · rintro ⟨hfits, hphase, hchild, hfile, hproperties⟩
    have hcrowded := (fits_iff_not_crowded tokens).mp hfits
    unfold Crowded at hcrowded
    rw [choosePhase_parse hfits] at hphase
    refine ⟨?_, ?_, hchild, ?_, ?_⟩
    · rw [oneVerb_iff]
      refine ⟨by omega, by omega, ?_⟩
      intro hboth
      rw [if_pos hboth] at hphase
      cases hphase
    · split at hphase
      · cases hphase
      · exact (Option.some.inj hphase).symm
    · exact (settingsFile_eq_iff hfits _).mp hfile.symm
    · exact values_property hfits ▸ hproperties
  · rintro ⟨hverb, hphase, hchild, hfile, hproperties⟩
    have hfileCount := congrArg List.length hfile
    rw [length_valuesIn_settingsFile] at hfileCount
    have hfits := fits_of_oneVerb hverb (hfileCount ▸ Option.length_toList_le)
    refine ⟨hfits, ?_, hchild, ?_, ?_⟩
    · rw [choosePhase_parse hfits, if_neg ((oneVerb_iff tokens).mp hverb).2.2, hphase]
    · exact ((settingsFile_eq_iff hfits _).mpr hfile).symm
    · rw [values_property hfits]
      exact hproperties

/-! ## What is told -/

theorem process_instances (tokens : List String) :
    (process tokens).ShowsParsed (table.parse tokens).instances := by
  unfold process judge
  dsimp only
  split
  · exact Or.inr ⟨rfl, rfl⟩
  · exact Or.inl ⟨rfl, rfl⟩

/-- What an accepted start says, and which instances it shows. -/
theorem told_of_reads {tokens : List String} {settings : Settings} (h : Reads tokens settings) :
    (process tokens).notices =
        (if "begin" ∈ tokens ∨ "end" ∈ tokens then [] else [.neitherPhase]) ∧
      (process tokens).instances = tokens.filterMap table.recognize? := by
  have haccepted := (accepted_eq_some_iff tokens settings).mpr h
  have hfits : table.Fits tokens :=
    (Table.success_iff table tokens).mp ((process_accepted_iff tokens settings).mp haccepted).1
  constructor
  · rw [process_notices, (Table.notices_eq_nil_iff table tokens).mpr hfits, values_property hfits,
      Property.noticesOf_of_spelled h.properties, choosePhase_parse hfits,
      if_neg ((oneVerb_iff tokens).mp h.oneVerb).2.2]
    rfl
  · rw [← Table.instances_eq_filterMap_recognize? hfits]
    exact (process_instances tokens).instances_eq haccepted

/-- An accepted start tells no error, and it warns of nothing but a missing verb. -/
theorem severities_of_reads {tokens : List String} {settings : Settings}
    (h : Reads tokens settings) :
    (∀ notice ∈ (process tokens).notices, notice.severity ≠ .error) ∧
      ((∃ notice ∈ (process tokens).notices, notice.severity = .warning) ↔
        "begin" ∉ tokens ∧ "end" ∉ tokens) := by
  rw [(told_of_reads h).1, ← not_or]
  by_cases hverb : "begin" ∈ tokens ∨ "end" ∈ tokens
  · simp [hverb]
  · simp [hverb, Notice.severity]

/-! ## What is handed on -/

/-- The table takes the token for a phase verb. -/
def TakenForVerb (token : String) : Prop :=
  ∃ found, table.recognize? token = some found ∧
    (found.name = .beginVerb ∨ found.name = .endVerb)

/-- The rest is the tokens in order without the one that the table takes for a verb, if there
is one. -/
def HandedOn (tokens rest : List String) : Prop :=
  ∃ before removed after, tokens = before ++ removed ++ after ∧ rest = before ++ after ∧
    removed.length ≤ 1 ∧ (∀ token ∈ removed, TakenForVerb token) ∧
    ∀ token ∈ rest, ¬ TakenForVerb token

theorem mem_verbs_iff (token : String) : token ∈ verbs ↔ token = "begin" ∨ token = "end" := by
  have hverbs : verbs = ["begin", "end"] := rfl
  rw [hverbs, List.mem_cons, List.mem_singleton]

/-- The table takes for a verb just what the step leaves out. -/
theorem takenForVerb_iff (token : String) : TakenForVerb token ↔ token ∈ verbs := by
  rw [mem_verbs_iff, ← isVerb_begin.owner?_eq_iff, ← isVerb_end.owner?_eq_iff]
  unfold TakenForVerb
  rw [Table.recognize?_eq]
  rcases table.owner? token with _ | owner
  · simp
  · simp

theorem count_verbs (tokens : List String) :
    tokens.count "begin" + tokens.count "end" = tokens.countP (· ∈ verbs) := by
  induction tokens with
  | nil => rfl
  | cons token tokens ih =>
    rw [List.count_cons, List.count_cons, List.countP_cons, ← ih]
    simp only [mem_verbs_iff, beq_iff_eq, decide_eq_true_eq]
    by_cases hbegin : token = "begin"
    · simp [hbegin]
      omega
    · simp [hbegin]
      omega

theorem withoutVerbs_append (before after : List String) :
    withoutVerbs (before ++ after) = withoutVerbs before ++ withoutVerbs after :=
  List.filter_append before after

theorem withoutVerbs_eq_self {tokens : List String} (h : tokens.countP (· ∈ verbs) = 0) :
    withoutVerbs tokens = tokens := by
  unfold withoutVerbs
  rw [List.filter_eq_self]
  intro token hmem
  simpa using List.countP_eq_zero.mp h token hmem

/-- Of tokens with one verb at most, leaving out the verbs leaves out one token at most. -/
theorem withoutVerbs_split {tokens : List String}
    (h : tokens.count "begin" + tokens.count "end" ≤ 1) :
    ∃ before removed after, tokens = before ++ removed ++ after ∧
      withoutVerbs tokens = before ++ after ∧ removed.length ≤ 1 ∧
      ∀ token ∈ removed, token ∈ verbs := by
  rw [count_verbs] at h
  rcases Nat.eq_zero_or_pos (tokens.countP (· ∈ verbs)) with hzero | hpos
  · exact ⟨tokens, [], [], by simp, by simp [withoutVerbs_eq_self hzero], Nat.zero_le 1, by simp⟩
  · obtain ⟨verb, hmem, hverb⟩ := List.countP_pos_iff.mp hpos
    obtain ⟨before, after, rfl⟩ := List.append_of_mem hmem
    rw [List.countP_append, List.countP_cons, if_pos hverb] at h
    -- the one verb is found, so there is none before it and none after it
    have hbefore : withoutVerbs before = before := withoutVerbs_eq_self (by omega)
    have hafter : withoutVerbs after = after := withoutVerbs_eq_self (by omega)
    refine ⟨before, [verb], after, by simp, ?_, Nat.le_refl 1, by simpa using hverb⟩
    have hcons : withoutVerbs (verb :: after) = withoutVerbs after :=
      List.filter_cons_of_neg (by simpa using hverb)
    rw [withoutVerbs_append, hcons, hbefore, hafter]

theorem handedOn_withoutVerbs {tokens : List String}
    (h : tokens.count "begin" + tokens.count "end" ≤ 1) :
    HandedOn tokens (withoutVerbs tokens) := by
  obtain ⟨before, removed, after, htokens, hrest, hlength, hremoved⟩ := withoutVerbs_split h
  refine ⟨before, removed, after, htokens, hrest, hlength, ?_, ?_⟩
  · intro token hmem
    exact (takenForVerb_iff token).mpr (hremoved token hmem)
  · intro token hmem
    rw [takenForVerb_iff]
    simpa using (List.mem_filter.mp hmem).2

/-! ## The law -/

/-- One verb at most, one settings file at most, and properties that can be set. -/
structure Admits (tokens : List String) : Prop where
  oneVerb : tokens.count "begin" + tokens.count "end" ≤ 1
  oneSettingsFile : (tokens.countP fun token => Opens "/s:" token) ≤ 1
  properties : ∃ properties,
    Property.Spelled (BuildArgument.valuesIn .property tokens) properties

theorem accepts_iff_admits (tokens : List String) :
    (process tokens).accepted.isSome = true ↔ Admits tokens := by
  rw [Option.isSome_iff_exists]
  simp only [accepted_eq_some_iff]
  constructor
  · rintro ⟨settings, h⟩
    refine ⟨h.oneVerb, ?_, settings.properties, h.properties⟩
    rw [← length_valuesIn_settingsFile, h.settingsFile]
    exact Option.length_toList_le
  · rintro ⟨hverb, hfile, properties, hproperties⟩
    have hvalue := (settingsFile_eq_iff (fits_of_oneVerb hverb hfile) _).mp rfl
    exact ⟨⟨_, _, _, properties⟩, hverb, rfl, rfl, hvalue, hproperties⟩

/-- A build is started by tokens with one verb at most, one settings file at most and
properties that can be set, and by no others. The table is always made. The settings are then
what the tokens say, and nothing is told but that a verb is missing. -/
theorem a_build_starts_with_one_verb_at_most (tokens : List String) :
    Table.build BuildArgument.argument [.beginVerb, .endVerb, .settingsFile, .property] true =
        .ok table ∧
      ((process tokens).accepted.isSome = true ↔ Admits tokens) ∧
      ∀ settings, (process tokens).accepted = some settings →
        settings.phase = phaseOf tokens ∧
          (process tokens).instances = tokens.filterMap table.recognize? ∧
          HandedOn tokens settings.childArgs ∧
          BuildArgument.valuesIn .settingsFile tokens = settings.settingsFile.toList ∧
          Property.Spelled (BuildArgument.valuesIn .property tokens) settings.properties ∧
          (∀ notice ∈ (process tokens).notices, notice.severity ≠ .error) ∧
          ((∃ notice ∈ (process tokens).notices, notice.severity = .warning) ↔
            "begin" ∉ tokens ∧ "end" ∉ tokens) := by
  refine ⟨Table.build_eq_ok table, accepts_iff_admits tokens, ?_⟩
  intro settings haccepted
  have hreads := (accepted_eq_some_iff tokens settings).mp haccepted
  have hhanded := handedOn_withoutVerbs hreads.oneVerb
  rw [← hreads.childArgs] at hhanded
  exact ⟨hreads.phase, (told_of_reads hreads).2, hhanded, hreads.settingsFile, hreads.properties,
    severities_of_reads hreads⟩

/-- With the verb between two tokens that are handed on. -/
theorem a_build_starts_with_a_verb_between_tokens :
    Admits ["/s:f", "end", "x"] ∧
      (process ["/s:f", "end", "x"]).accepted =
        some ⟨.postProcessing, ["/s:f", "x"], some "f", []⟩ ∧
      HandedOn ["/s:f", "end", "x"] ["/s:f", "x"] := by
  have haccepted : (process ["/s:f", "end", "x"]).accepted =
      some ⟨.postProcessing, ["/s:f", "x"], some "f", []⟩ := by
    decide +kernel
  obtain ⟨-, hadmits, hread⟩ := a_build_starts_with_one_verb_at_most ["/s:f", "end", "x"]
  exact ⟨hadmits.mp (by rw [haccepted]; rfl), haccepted, (hread _ haccepted).2.2.1⟩

end ArgTable.Bootstrap
