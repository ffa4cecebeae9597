-- What a step of the build adds to a parse. Of a parse it looks only at whether it went through
-- and at the instances. What it tells goes behind what the parse told, and is of other kinds.
import ArgTable.Proofs.PhaseNotices

namespace ArgTable

/-- Two parses with the same success and the same instances give the same result, and the same is
added to what they told and to their logs. What is added to the notices is of other kinds. -/
def JudgesByInstances {α : Type} (judge : Outcome BuildArgument → Verdict α) : Prop :=
  ∀ outcome other : Outcome BuildArgument, outcome.success = other.success →
    outcome.instances = other.instances → ∃ accepted shown more records,
      (∀ notice ∈ more, notice.onTokens = false) ∧
        judge outcome = ⟨accepted, shown, outcome.notices ++ more, outcome.trace ++ records⟩ ∧
        judge other = ⟨accepted, shown, other.notices ++ more, other.trace ++ records⟩

theorem Notice.onTokens_of_onProperty {notice : Notice} (h : notice.onProperty = true) :
    notice.onTokens = false := by
  cases notice with
  | unrecognized | repeated | missing => cases h
  | _ => rfl

theorem Property.onTokens_of_mem_extract {instances : List (Instance BuildArgument)}
    {notice : Notice} (h : notice ∈ (extract .property instances).2) : notice.onTokens = false :=
  Notice.onTokens_of_onProperty (onProperty_of_mem_noticesOf h)

/-! ## The start of a build -/

namespace Bootstrap

theorem onTokens_of_mem_choosePhase {tokenCount : Nat}
    {instances : List (Instance BuildArgument)} {notice : Notice}
    (h : notice ∈ (choosePhase tokenCount instances).2) : notice.onTokens = false := by
  rcases (mem_choosePhase_iff _ _ _).mp h with ⟨rfl, -⟩ | ⟨rfl, -⟩
  · rfl
  · rfl

theorem judgesByInstances (tokens : List String) : JudgesByInstances (judge tokens) := by
  rintro ⟨success, instances, notices, trace⟩ ⟨success', instances', notices', trace'⟩ hsuccess
    hinstances
  obtain rfl : success = success' := hsuccess
  obtain rfl : instances = instances' := hinstances
  have hmore : ∀ notice ∈ (Property.extract .property instances).2 ++
      (choosePhase tokens.length instances).2, notice.onTokens = false := by
    intro notice hmem
    rcases List.mem_append.mp hmem with hmem | hmem
    · exact Property.onTokens_of_mem_extract hmem
    · exact onTokens_of_mem_choosePhase hmem
  unfold judge
  dsimp only
  simp only [List.append_assoc]
  split
  · exact ⟨_, _, _, _, hmore, rfl, rfl⟩
  · exact ⟨_, _, _, [], hmore, by rw [List.append_nil], by rw [List.append_nil]⟩

end Bootstrap

/-! ## The preparation of an analysis -/

namespace Preprocess

theorem onTokens_of_mem_chooseInstall {instances : List (Instance BuildArgument)}
    {notice : Notice} (h : notice ∈ (chooseInstall instances).2) : notice.onTokens = false := by
  unfold chooseInstall at h
  split at h
  · cases h
  · split at h
    · cases h
    · rw [List.mem_singleton.mp h]
      rfl

theorem judgesByInstances : JudgesByInstances judge := by
  rintro ⟨success, instances, notices, trace⟩ ⟨success', instances', notices', trace'⟩ hsuccess
    hinstances
  obtain rfl : success = success' := hsuccess
  obtain rfl : instances = instances' := hinstances
  have hmore : ∀ last : List Notice, (∀ notice ∈ last, notice.onTokens = false) →
      ∀ notice ∈ (chooseInstall instances).2 ++ ((Property.extract .property instances).2 ++ last),
        notice.onTokens = false := by
    intro last hlast notice hmem
    rw [List.mem_append, List.mem_append] at hmem
    rcases hmem with hmem | hmem | hmem
    · exact onTokens_of_mem_chooseInstall hmem
    · exact Property.onTokens_of_mem_extract hmem
    · exact hlast notice hmem
  have hvalues := hmore [] (by simp)
  unfold judge
  dsimp only
  split
  · next _ _ install properties _ _ =>
    split
    · exact ⟨none, [], _, [], hvalues, by simp, by simp⟩
    · next key _ =>
      have hkey := hmore [.invalidProjectKey key] (by simp [Notice.onTokens])
      split
      · exact ⟨some (settingsOf instances key install properties), instances, _, [], hvalues,
          by simp, by simp⟩
      · exact ⟨none, [], _, [], hkey, by simp, by simp⟩
  · exact ⟨none, [], _, [], hvalues, by simp, by simp⟩

end Preprocess

end ArgTable
