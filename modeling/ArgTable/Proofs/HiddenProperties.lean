-- Which problems with properties are told when a build is started. The properties are judged on
-- the instances of the parse, and a parse that fails has none. So a verb or a settings file that
-- is supplied twice hides every problem with the properties. On all other tokens each problem
-- is told.
import ArgTable.Proofs.StartedBuilds

namespace ArgTable.Bootstrap

/-- The step tells what the parse tells, then all that is wrong with the properties of the
tokens, and after that nothing but a message about the phase. -/
def TellsEveryProperty (tokens : List String) : Prop :=
  ∃ onPhase : List Notice, (∀ notice ∈ onPhase, notice = .neitherPhase ∨ notice = .bothPhases) ∧
    (process tokens).notices.map (·.diagnostic) =
      (table.notices tokens ++ Property.noticesOf (BuildArgument.valuesIn .property tokens) ++
        onPhase).map (·.diagnostic)

/-! ## What is told after the parse -/

theorem noticesOf_nil : Property.noticesOf [] = [] := rfl

theorem process_notices_of_fits {tokens : List String} (h : table.Fits tokens) :
    (process tokens).notices = table.notices tokens ++
      Property.noticesOf (BuildArgument.valuesIn .property tokens) ++
      (choosePhase tokens.length (table.parse tokens).instances).2 := by
  rw [process_notices, values_property h]

/-- When the table cannot read the tokens, there is no property to judge and no verb to see. -/
theorem process_notices_of_not_fits {tokens : List String} (h : ¬ table.Fits tokens) :
    (process tokens).notices = table.notices tokens ++ [.neitherPhase] := by
  have hnone : Instance.values BuildArgument.property [] = [] := rfl
  have hphase : (choosePhase tokens.length []).2 = [.neitherPhase] := rfl
  rw [process_notices, Table.instances_of_not_fits h, hnone, noticesOf_nil, hphase,
    List.append_nil]

/-- The message that stands where the first problem with a property should stand is about the
phase, so none of the problems is told. -/
theorem noticesOf_eq_nil_of_tells {tokens : List String} (h : ¬ table.Fits tokens)
    (htells : TellsEveryProperty tokens) :
    Property.noticesOf (BuildArgument.valuesIn .property tokens) = [] := by
  obtain ⟨onPhase, -, htold⟩ := htells
  rw [process_notices_of_not_fits h, List.append_assoc, List.map_append, List.map_append,
    List.append_cancel_left_eq] at htold
  rcases hproperties : Property.noticesOf (BuildArgument.valuesIn .property tokens) with
    _ | ⟨first, more⟩
  · rfl
  · have hfirst : first.onProperty = true :=
      Property.onProperty_of_mem_noticesOf (hproperties ▸ List.mem_cons_self)
    rw [hproperties, List.cons_append, List.map_cons, List.map_cons] at htold
    have hseverity : Notice.neitherPhase.severity = first.severity :=
      congrArg Diagnostic.severity (List.cons.inj htold).1
    rw [Notice.severity_of_onProperty hfirst] at hseverity
    cases hseverity

/-! ## The law -/

instance (tokens : List String) : Decidable (Crowded tokens) :=
  inferInstanceAs (Decidable (_ ∨ _ ∨ _))

/-- On tokens that are not crowded the step tells all that is wrong with the properties, right
after what the parse tells. On crowded tokens it tells nothing of the properties. So each
problem with a property is told, unless the tokens are crowded. -/
theorem crowded_tokens_hide_the_properties (tokens : List String) :
    (∃ onPhase : List Notice,
      (∀ notice ∈ onPhase, notice = .neitherPhase ∨ notice = .bothPhases) ∧
        (process tokens).notices = table.notices tokens ++
          (if Crowded tokens then []
            else Property.noticesOf (BuildArgument.valuesIn .property tokens)) ++ onPhase) ∧
      (TellsEveryProperty tokens ↔
        ¬ (Crowded tokens ∧
          Property.noticesOf (BuildArgument.valuesIn .property tokens) ≠ [])) := by
  by_cases hcrowded : Crowded tokens
  · have hfits : ¬ table.Fits tokens := by
      rw [fits_iff_not_crowded, not_not]
      exact hcrowded
    have htold := process_notices_of_not_fits hfits
    refine ⟨⟨[.neitherPhase], by simp, by simp [htold, hcrowded]⟩, ?_⟩
    constructor
    · intro htells hboth
      exact hboth.2 (noticesOf_eq_nil_of_tells hfits htells)
    · intro hnot
      have hnil : Property.noticesOf (BuildArgument.valuesIn .property tokens) = [] := by
        by_contra hne
        exact hnot ⟨hcrowded, hne⟩
      exact ⟨[.neitherPhase], by simp, by rw [htold, hnil, List.append_nil]⟩
  · have hfits := (fits_iff_not_crowded tokens).mpr hcrowded
    have htold := process_notices_of_fits hfits
    have hphase : ∀ notice ∈ (choosePhase tokens.length (table.parse tokens).instances).2,
        notice = .neitherPhase ∨ notice = .bothPhases := by
      intro notice hmem
      exact ((mem_choosePhase_iff _ _ _).mp hmem).imp And.left And.left
    refine ⟨⟨_, hphase, by rw [htold, if_neg hcrowded]⟩, ?_⟩
    constructor
    · rintro - ⟨hcrowded', -⟩
      exact hcrowded hcrowded'
    · intro _
      exact ⟨_, hphase, by rw [htold]⟩

/-- The property `x` has no equals sign, and only the second settings file is told. -/
theorem a_second_settings_file_hides_a_malformed_property :
    Property.noticesOf (BuildArgument.valuesIn .property ["/s:a", "/s:b", "/d:x"]) =
        [.malformedProperty "x"] ∧
      (process ["/s:a", "/s:b", "/d:x"]).notices = [.repeated "/s:b" "a", .neitherPhase] ∧
      ¬ TellsEveryProperty ["/s:a", "/s:b", "/d:x"] := by
  have hcrowded : ¬ table.Fits ["/s:a", "/s:b", "/d:x"] := by
    rw [fits_iff_not_crowded, not_not]
    decide
  refine ⟨by decide +kernel, by decide +kernel, ?_⟩
  intro h
  exact absurd (noticesOf_eq_nil_of_tells hcrowded h) (by decide +kernel)

end ArgTable.Bootstrap
