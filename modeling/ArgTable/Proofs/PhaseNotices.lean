-- When the messages about the phase are given. The phase is judged on the instances of the
-- parse, and a parse that fails has none. So a verb or a settings file that is supplied twice
-- hides both verbs: the step then says that there is no verb, whatever verbs there are. On all
-- other tokens the two messages say what the tokens hold.
import ArgTable.Proofs.Apart

namespace ArgTable.Bootstrap

/-! ## Whose the tokens are -/

/-- The argument stands in the table, and it is the verb of the word. -/
def IsVerb (name : BuildArgument) (word : String) : Prop :=
  name ∈ table.order ∧ (table.argument name).form = .verb word

theorem isVerb_begin : IsVerb .beginVerb "begin" := ⟨by decide, rfl⟩

theorem isVerb_end : IsVerb .endVerb "end" := ⟨by decide, rfl⟩

theorem IsVerb.owner?_eq_iff {name : BuildArgument} {word : String} (h : IsVerb name word)
    (token : String) : table.owner? token = some name ↔ token = word := by
  rw [table_apart.owner?_eq_some_iff, h.2]
  exact and_iff_right h.1

theorem IsVerb.length_tokensOf {name : BuildArgument} {word : String} (h : IsVerb name word)
    (tokens : List String) : (table.tokensOf tokens name).length = tokens.count word := by
  apply Table.length_tokensOf
  intro token
  rw [h.owner?_eq_iff, beq_iff_eq]

theorem owner?_eq_settingsFile_iff (token : String) :
    table.owner? token = some .settingsFile ↔ Opens "/s:" token := by
  rw [table_apart.owner?_eq_some_iff]
  have haccepts : (table.argument .settingsFile).form.Accepts token ↔ Opens "/s:" token := by
    simp [table, BuildArgument.argument, Form.Accepts]
  rw [haccepts]
  exact and_iff_right (by decide)

/-! ## Tokens that cannot be read -/

/-- A verb or the settings file is supplied more than once. -/
def Crowded (tokens : List String) : Prop :=
  1 < tokens.count "begin" ∨ 1 < tokens.count "end" ∨
    1 < tokens.countP fun token => Opens "/s:" token

/-- Only an argument that is supplied again keeps the table from reading the tokens: tokens
it does not know are passed over, and no argument is required. -/
theorem fits_iff_not_crowded (tokens : List String) :
    table.Fits tokens ↔ ¬ Crowded tokens := by
  have hfiles : (table.tokensOf tokens .settingsFile).length =
      tokens.countP fun token => Opens "/s:" token := by
    apply Table.length_tokensOf
    intro token
    rw [owner?_eq_settingsFile_iff, decide_eq_true_eq]
  unfold Crowded
  rw [← isVerb_begin.length_tokensOf, ← isVerb_end.length_tokensOf, ← hfiles]
  constructor
  · intro h
    have hbegin := h.single .beginVerb (by decide) rfl
    have hend := h.single .endVerb (by decide) rfl
    have hsettings := h.single .settingsFile (by decide) rfl
    omega
  · intro h
    refine ⟨Or.inl rfl, ?_, ?_⟩
    · intro name hname hsingle
      simp only [table, List.mem_cons, List.not_mem_nil, or_false] at hname
      rcases hname with rfl | rfl | rfl | rfl
      · omega
      · omega
      · omega
      · cases hsingle
    · intro name hname hrequired
      simp only [table, List.mem_cons, List.not_mem_nil, or_false] at hname
      rcases hname with rfl | rfl | rfl | rfl <;> cases hrequired

theorem supplied_verb_iff (tokens : List String) {name : BuildArgument} {word : String}
    (h : IsVerb name word) :
    Instance.supplied name (table.parse tokens).instances = true ↔
      ¬ Crowded tokens ∧ word ∈ tokens := by
  rw [← fits_iff_not_crowded]
  by_cases hfits : table.Fits tokens
  · rw [Table.supplied_of_fits hfits]
    simp [hfits, h.owner?_eq_iff]
  · rw [Table.instances_of_not_fits hfits]
    simp [hfits, Instance.supplied]

/-! ## The messages about the phase -/

theorem mem_choosePhase_iff (tokenCount : Nat) (instances : List (Instance BuildArgument))
    (notice : Notice) : notice ∈ (choosePhase tokenCount instances).2 ↔
      (notice = .neitherPhase ∧ ¬ Instance.supplied .beginVerb instances = true ∧
        ¬ Instance.supplied .endVerb instances = true) ∨
      notice = .bothPhases ∧ Instance.supplied .beginVerb instances = true ∧
        Instance.supplied .endVerb instances = true := by
  unfold choosePhase
  split <;> simp [*]

theorem process_notices (tokens : List String) :
    (process tokens).notices = table.notices tokens ++
      Property.noticesOf (Instance.values .property (table.parse tokens).instances) ++
      (choosePhase tokens.length (table.parse tokens).instances).2 := by
  unfold process judge
  dsimp only
  split <;> rfl

/-- A notice of another kind than those of the parse and of the properties is one about the
phase. -/
theorem mem_process_notices_iff (tokens : List String) {notice : Notice}
    (h1 : notice.onTokens = false) (h2 : notice.onProperty = false) :
    notice ∈ (process tokens).notices ↔
      notice ∈ (choosePhase tokens.length (table.parse tokens).instances).2 := by
  rw [process_notices, List.mem_append, List.mem_append]
  constructor
  · rintro ((h | h) | h)
    · rw [Table.onTokens_of_mem_notices h] at h1
      cases h1
    · rw [Property.onProperty_of_mem_noticesOf h] at h2
      cases h2
    · exact h
  · exact Or.inr

theorem neitherPhase_told_iff (tokens : List String) :
    Notice.neitherPhase.diagnostic ∈ (process tokens).notices.map (·.diagnostic) ↔
      Crowded tokens ∨ "begin" ∉ tokens ∧ "end" ∉ tokens := by
  rw [Notice.neitherPhase_mem_diagnostics, mem_process_notices_iff tokens rfl rfl,
    mem_choosePhase_iff, supplied_verb_iff tokens isVerb_begin,
    supplied_verb_iff tokens isVerb_end]
  by_cases h : Crowded tokens <;> simp [h]

theorem bothPhases_told_iff (tokens : List String) :
    Notice.bothPhases.diagnostic ∈ (process tokens).notices.map (·.diagnostic) ↔
      ¬ Crowded tokens ∧ "begin" ∈ tokens ∧ "end" ∈ tokens := by
  rw [Notice.bothPhases_mem_diagnostics, mem_process_notices_iff tokens rfl rfl,
    mem_choosePhase_iff, supplied_verb_iff tokens isVerb_begin,
    supplied_verb_iff tokens isVerb_end]
  by_cases h : Crowded tokens <;> simp [h]

/-- The messages about the phase say what the tokens hold. -/
structure TellsTheVerbs (tokens : List String) : Prop where
  neither : Notice.neitherPhase.diagnostic ∈ (process tokens).notices.map (·.diagnostic) ↔
    "begin" ∉ tokens ∧ "end" ∉ tokens
  both : Notice.bothPhases.diagnostic ∈ (process tokens).notices.map (·.diagnostic) ↔
    "begin" ∈ tokens ∧ "end" ∈ tokens

/-- The step says that there is no verb when there is none, and also whenever a verb or the
settings file is supplied twice. It says that there are both verbs when there are, unless one
of these is supplied twice. So its messages say what the tokens hold, except on crowded tokens
with a verb. -/
theorem crowded_tokens_hide_the_verbs (tokens : List String) :
    (Notice.neitherPhase.diagnostic ∈ (process tokens).notices.map (·.diagnostic) ↔
      Crowded tokens ∨ "begin" ∉ tokens ∧ "end" ∉ tokens) ∧
    (Notice.bothPhases.diagnostic ∈ (process tokens).notices.map (·.diagnostic) ↔
      ¬ Crowded tokens ∧ "begin" ∈ tokens ∧ "end" ∈ tokens) ∧
    (TellsTheVerbs tokens ↔ ¬ (Crowded tokens ∧ ("begin" ∈ tokens ∨ "end" ∈ tokens))) := by
  have hneither := neitherPhase_told_iff tokens
  have hboth := bothPhases_told_iff tokens
  refine ⟨hneither, hboth, ?_, fun h => ⟨hneither.trans ?_, hboth.trans ?_⟩⟩
  · rintro ⟨neither, -⟩ ⟨hcrowded, hverb⟩
    have hnone := neither.mp (hneither.mpr (Or.inl hcrowded))
    rcases hverb with hbegin | hend
    · exact hnone.1 hbegin
    · exact hnone.2 hend
  · constructor
    · rintro (hcrowded | hnone)
      · exact ⟨fun hbegin => h ⟨hcrowded, Or.inl hbegin⟩, fun hend => h ⟨hcrowded, Or.inr hend⟩⟩
      · exact hnone
    · exact Or.inr
  · constructor
    · exact And.right
    · intro hverbs
      exact ⟨fun hcrowded => h ⟨hcrowded, Or.inl hverbs.1⟩, hverbs⟩

/-- A verb that is given twice is told as if there were none. -/
theorem a_verb_given_twice_is_told_as_none : ¬ TellsTheVerbs ["begin", "begin"] := by
  intro h
  exact absurd h.neither (by decide +kernel)

end ArgTable.Bootstrap
