-- The step that starts a build and the step that prepares an analysis read the same command
-- line alike. A settings file and the properties mean the same to both, and the verb that chooses
-- the phase is the only thing that the first step keeps from the second.
import ArgTable.Proofs.PreparedAnalyses
import ArgTable.Proofs.StartedBuilds

namespace ArgTable

/-! ## Tokens with and without verbs -/

namespace Bootstrap

/-- The arguments of both steps. -/
def shared : List BuildArgument := [.settingsFile, .property]

theorem valuesIn_withoutVerbs {name : BuildArgument} (h : name ∈ shared) (tokens : List String) :
    name.valuesIn (withoutVerbs tokens) = name.valuesIn tokens := by
  have hverbs : ∀ name ∈ shared, ∀ verb ∈ verbs, ¬ name.argument.form.Accepts verb := by decide
  apply Form.valuesIn_filter
  intro token haccepts
  rw [decide_eq_true_eq]
  exact fun hverb => hverbs name h token hverb haccepts

end Bootstrap

namespace Preprocess

theorem Reads.not_mem_verbs {tokens : List String} {settings : Settings}
    (h : Reads tokens settings) {token : String} (hmem : token ∈ tokens) :
    token ∉ Bootstrap.verbs := by
  have hapart : ∀ verb ∈ Bootstrap.verbs, ¬ ∃ literal ∈ literals, Opens literal verb := by decide
  exact fun hverb => hapart token hverb (h.known token hmem)

theorem Reads.countP_verbs {tokens : List String} {settings : Settings}
    (h : Reads tokens settings) : tokens.countP (· ∈ Bootstrap.verbs) = 0 := by
  rw [List.countP_eq_zero]
  intro token hmem
  rw [decide_eq_true_eq]
  exact h.not_mem_verbs hmem

theorem Reads.ne_nil {tokens : List String} {settings : Settings} (h : Reads tokens settings) :
    tokens ≠ [] := by
  rintro rfl
  cases h.projectKey

end Preprocess

/-! ## One verb put in -/

/-- At most one verb, which can be put in anywhere. -/
def insertions : List (List String) := [[], ["begin"], ["end"]]

theorem countP_insertion_le : ∀ inserted ∈ insertions,
    inserted.countP (· ∈ Bootstrap.verbs) ≤ 1 := by decide

theorem withoutVerbs_insertion : ∀ inserted ∈ insertions,
    Bootstrap.withoutVerbs inserted = [] := by decide

/-- Put into tokens of a prepared analysis, the verb chooses the phase. Without it the phase is the
one before the build, since there are tokens. -/
theorem phaseOf_inserted {before after : List String} {analysis : Preprocess.Settings}
    (h : Preprocess.Reads (before ++ after) analysis) {inserted : List String}
    (hinserted : inserted ∈ insertions) :
    Bootstrap.phaseOf (before ++ inserted ++ after) =
      if inserted = ["end"] then .postProcessing else .preProcessing := by
  have hverb : ∀ verb ∈ Bootstrap.verbs, verb ∉ before ∧ verb ∉ after := by
    intro verb hverb
    constructor
    · exact fun hmem => h.not_mem_verbs (List.mem_append_left after hmem) hverb
    · exact fun hmem => h.not_mem_verbs (List.mem_append_right before hmem) hverb
  have hbegin := hverb "begin" (by decide)
  have hend := hverb "end" (by decide)
  have hne := h.ne_nil
  unfold Bootstrap.phaseOf
  simp only [insertions, List.mem_cons, List.not_mem_nil, or_false] at hinserted
  rcases hinserted with rfl | rfl | rfl
  · simp_all
  · simp
  · simp [hbegin]

/-- The start reads tokens of a prepared analysis as they are, whichever verb is put in. -/
theorem reads_inserted {before after : List String} {analysis : Preprocess.Settings}
    (h : Preprocess.Reads (before ++ after) analysis) {inserted : List String}
    (hinserted : inserted ∈ insertions) :
    Bootstrap.Reads (before ++ inserted ++ after)
      { phase := if inserted = ["end"] then .postProcessing else .preProcessing
        childArgs := before ++ after
        settingsFile := analysis.settingsFile
        properties := analysis.properties } := by
  have hnone := h.countP_verbs
  rw [List.countP_append] at hnone
  have hwithout : Bootstrap.withoutVerbs (before ++ inserted ++ after) = before ++ after := by
    have hbefore : Bootstrap.withoutVerbs before = before :=
      Bootstrap.withoutVerbs_eq_self (by omega)
    have hafter : Bootstrap.withoutVerbs after = after :=
      Bootstrap.withoutVerbs_eq_self (by omega)
    rw [Bootstrap.withoutVerbs_append, Bootstrap.withoutVerbs_append, hbefore, hafter,
      withoutVerbs_insertion inserted hinserted, List.append_nil]
  exact {
    oneVerb := by
      have hone := countP_insertion_le inserted hinserted
      rw [Bootstrap.count_verbs, List.countP_append, List.countP_append]
      omega
    phase := (phaseOf_inserted h hinserted).symm
    childArgs := hwithout.symm
    settingsFile := by
      rw [← Bootstrap.valuesIn_withoutVerbs (by decide), hwithout]
      exact h.settingsFile
    properties := by
      rw [← Bootstrap.valuesIn_withoutVerbs (by decide), hwithout]
      exact h.properties }

/-! ## The law -/

/-- When both steps accept a command line, the second on what the first hands on, they read the
same settings file and the same properties. And a command line that the second accepts is
accepted by the first without an error, with one verb at most put in anywhere: it is handed on
as it was, and the phase is the one after the build exactly with `end`. -/
theorem both_steps_read_the_same_tokens (tokens : List String) :
    (∀ settings analysis, (Bootstrap.process tokens).accepted = some settings →
        (Preprocess.process settings.childArgs).accepted = some analysis →
        analysis.settingsFile = settings.settingsFile ∧
          analysis.properties = settings.properties) ∧
      (∀ analysis before after inserted,
        (Preprocess.process tokens).accepted = some analysis → tokens = before ++ after →
        inserted ∈ insertions →
        ∃ settings,
          (Bootstrap.process (before ++ inserted ++ after)).accepted = some settings ∧
            (∀ notice ∈ (Bootstrap.process (before ++ inserted ++ after)).notices,
              notice.severity ≠ .error) ∧
            settings.childArgs = tokens ∧
            settings.settingsFile = analysis.settingsFile ∧
            settings.properties = analysis.properties ∧
            (settings.phase = .postProcessing ↔ inserted = ["end"])) := by
  constructor
  · intro settings analysis hstarted hprepared
    have hstart := (Bootstrap.accepted_eq_some_iff _ _).mp hstarted
    have hprepare := (Preprocess.accepted_eq_some_iff _ _).mp hprepared
    rw [hstart.childArgs] at hprepare
    constructor
    · apply toList_injective
      rw [← hprepare.settingsFile, ← hstart.settingsFile,
        Bootstrap.valuesIn_withoutVerbs (by decide)]
    · have hproperties := hprepare.properties
      rw [Bootstrap.valuesIn_withoutVerbs (by decide)] at hproperties
      exact hproperties.eq hstart.properties
  · rintro analysis before after inserted hprepared rfl hinserted
    have hprepare := (Preprocess.accepted_eq_some_iff _ _).mp hprepared
    have hreads := reads_inserted hprepare hinserted
    refine ⟨_, (Bootstrap.accepted_eq_some_iff _ _).mpr hreads,
      (Bootstrap.severities_of_reads hreads).1, rfl, rfl, rfl, ?_⟩
    dsimp only
    split <;> simp [*]

/-- Of a command line with a settings file and a property on either side of a verb. -/
theorem both_steps_read_a_command_line_with_a_verb :
    (∃ settings analysis,
        (Bootstrap.process ["/s:f", "begin", "/d:a=b", "/k:key"]).accepted = some settings ∧
          (Preprocess.process settings.childArgs).accepted = some analysis ∧
          analysis.settingsFile = settings.settingsFile ∧
          analysis.properties = settings.properties) ∧
      ∃ analysis settings,
        (Preprocess.process ["/k:key", "/d:a=b"]).accepted = some analysis ∧
          (Bootstrap.process ["/k:key", "end", "/d:a=b"]).accepted = some settings ∧
          settings.childArgs = ["/k:key", "/d:a=b"] ∧
          settings.settingsFile = analysis.settingsFile ∧
          settings.properties = analysis.properties ∧
          settings.phase = .postProcessing := by
  constructor
  · have hstarted : (Bootstrap.process ["/s:f", "begin", "/d:a=b", "/k:key"]).accepted =
        some ⟨.preProcessing, ["/s:f", "/d:a=b", "/k:key"], some "f", [⟨"a", "b"⟩]⟩ := by
      decide +kernel
    have hprepared : (Preprocess.process ["/s:f", "/d:a=b", "/k:key"]).accepted =
        some ⟨"key", none, none, none, true, some "f", [⟨"a", "b"⟩]⟩ := by
      decide +kernel
    exact ⟨_, _, hstarted, hprepared,
      (both_steps_read_the_same_tokens _).1 _ _ hstarted hprepared⟩
  · have hprepared : (Preprocess.process ["/k:key", "/d:a=b"]).accepted =
        some ⟨"key", none, none, none, true, none, [⟨"a", "b"⟩]⟩ := by
      decide +kernel
    obtain ⟨settings, hstarted, -, hchild, hfile, hproperties, hphase⟩ :=
      (both_steps_read_the_same_tokens _).2 _ ["/k:key"] ["/d:a=b"] ["end"] hprepared rfl
        (by decide)
    exact ⟨_, settings, hprepared, hstarted, hchild, hfile, hproperties, hphase.mpr rfl⟩

end ArgTable
