-- Which problems with values the step that prepares an analysis tells, once the table has read
-- the tokens. The install value and the properties are judged first, and all that is wrong
-- with them is told. The project key is judged last, and only when nothing was wrong before,
-- so an earlier problem hides a key that is not valid.
import ArgTable.Preprocess
import ArgTable.Proofs.Acceptance

namespace ArgTable.Preprocess

/-! ## What is wrong with the values -/

/-- The text is `true` or `false` in any ASCII letter case, once the blanks at its ends are cut
off. -/
def IsSwitch (value : String) : Prop :=
  (Text.trimmed value.toList).map Char.toLower = "true".toList ∨
    (Text.trimmed value.toList).map Char.toLower = "false".toList

instance (value : String) : Decidable (IsSwitch value) :=
  inferInstanceAs (Decidable (_ ∨ _))

/-- What is wrong with the install value, if there is one. -/
def installErrors (instances : List (Instance BuildArgument)) : List Notice :=
  match Instance.value? .installTargets instances with
  | none => []
  | some value => if IsSwitch value then [] else [.invalidInstall value]

/-- What is wrong with the properties. -/
def propertyErrors (instances : List (Instance BuildArgument)) : List Notice :=
  (Property.extract .property instances).2

/-- What is wrong with the project key, if there is one. -/
def keyErrors (instances : List (Instance BuildArgument)) : List Notice :=
  match Instance.value? .projectKey instances with
  | none => []
  | some key => if ProjectKey.isValid key then [] else [.invalidProjectKey key]

theorem readSwitch?_eq_none_iff (value : String) : readSwitch? value = none ↔ ¬ IsSwitch value := by
  unfold readSwitch? IsSwitch
  generalize (Text.trimmed value.toList).map Char.toLower = word
  generalize "true".toList = yes
  generalize "false".toList = no
  dsimp only
  split
  · simp [*]
  · split <;> simp [*]

theorem chooseInstall_told (instances : List (Instance BuildArgument)) :
    (chooseInstall instances).2 = installErrors instances := by
  unfold chooseInstall installErrors
  rcases Instance.value? BuildArgument.installTargets instances with _ | value
  · rfl
  · have hnone := readSwitch?_eq_none_iff value
    rcases hswitch : readSwitch? value with _ | install
    · rw [hswitch] at hnone
      simp [hswitch, hnone.mp rfl]
    · have hspelled : IsSwitch value := by simpa [hswitch] using hnone
      simp [hswitch, hspelled]

theorem chooseInstall_eq_none_iff (instances : List (Instance BuildArgument)) :
    (chooseInstall instances).1 = none ↔ (chooseInstall instances).2 ≠ [] := by
  unfold chooseInstall
  split
  · simp
  · split <;> simp

theorem extract_eq_none_iff (instances : List (Instance BuildArgument)) :
    (Property.extract .property instances).1 = none ↔
      (Property.extract .property instances).2 ≠ [] := by
  simp [Property.extract, Property.collect?]

/-! ## The step after a parse that went through -/

/-- A parse that goes through has a project key, since the table requires it. -/
theorem key_of_success {tokens : List String} (h : (table.parse tokens).success = true) :
    ∃ key, Instance.value? .projectKey (table.parse tokens).instances = some key := by
  have hfits := (Table.success_iff table tokens).mp h
  have hkey := hfits.supplied .projectKey (by decide) rfl
  rw [Instance.value?_eq_head?_values, Table.values_of_fits hfits]
  rcases hown : table.tokensOf tokens .projectKey with _ | ⟨token, more⟩
  · simp [hown] at hkey
  · exact ⟨_, rfl⟩

/-- Everything that is wrong with the values but the project key. -/
def earlierErrors (instances : List (Instance BuildArgument)) : List Notice :=
  installErrors instances ++ propertyErrors instances

theorem process_of_success {tokens : List String} (h : (table.parse tokens).success = true) :
    (process tokens).notices = earlierErrors (table.parse tokens).instances ++
        (if earlierErrors (table.parse tokens).instances = [] then
          keyErrors (table.parse tokens).instances else []) ∧
      ((process tokens).accepted = none ↔ (process tokens).notices ≠ []) := by
  obtain ⟨key, hkey⟩ := key_of_success h
  have hnotices : (table.parse tokens).notices = [] := by
    rwa [Table.success_eq, List.isEmpty_iff] at h
  have hinstallNone := chooseInstall_eq_none_iff (table.parse tokens).instances
  have hpropertyNone := extract_eq_none_iff (table.parse tokens).instances
  unfold process judge earlierErrors propertyErrors keyErrors
  rw [← chooseInstall_told]
  rcases hinstall : (chooseInstall (table.parse tokens).instances).1 with _ | install
  · have hwrong := hinstallNone.mp hinstall
    simp [hinstall, hwrong, hnotices]
  · have hright : (chooseInstall (table.parse tokens).instances).2 = [] := by
      simpa [hinstall] using hinstallNone
    rcases hproperty : (Property.extract .property (table.parse tokens).instances).1 with
      _ | properties
    · have hwrong := hpropertyNone.mp hproperty
      simp [hinstall, hproperty, hwrong, hnotices]
    · have hright' : (Property.extract .property (table.parse tokens).instances).2 = [] := by
        simpa [hproperty] using hpropertyNone
      -- the only case that looks at the key
      by_cases hvalid : ProjectKey.isValid key = true
      · simp [h, hinstall, hproperty, hkey, hvalid, hright, hright', hnotices]
      · simp [h, hinstall, hproperty, hkey, hvalid, hright, hright', hnotices]

/-- Each problem with a value is told, whatever the others are, and nothing else. -/
def TellsEveryValue (tokens : List String) : Prop :=
  (process tokens).notices.Perm
    (earlierErrors (table.parse tokens).instances ++ keyErrors (table.parse tokens).instances)

/-- After a parse that goes through, the step tells every problem with the install value and
with the properties, and a bad project key when there is none of these. It refuses the tokens
exactly when it tells a problem. So each problem is told, except a bad key next to another
problem. -/
theorem an_earlier_problem_hides_a_bad_key (tokens : List String)
    (h : (table.parse tokens).success = true) :
    let instances := (table.parse tokens).instances
    (process tokens).notices = earlierErrors instances ++
        (if earlierErrors instances = [] then keyErrors instances else []) ∧
      ((process tokens).accepted = none ↔ (process tokens).notices ≠ []) ∧
      (TellsEveryValue tokens ↔ ¬ (earlierErrors instances ≠ [] ∧ keyErrors instances ≠ [])) := by
  obtain ⟨hnotices, hnone⟩ := process_of_success h
  refine ⟨hnotices, hnone, ?_⟩
  unfold TellsEveryValue
  rw [hnotices, List.perm_append_left_iff]
  by_cases hearlier : earlierErrors (table.parse tokens).instances = []
  · simp [hearlier]
  · simp [hearlier, List.nil_perm]

/-- A bad install value and a bad property are both told, and hide the bad key. -/
theorem two_problems_hide_a_bad_key :
    (table.parse ["/k:1", "/install:x", "/d:y"]).success = true ∧
      (process ["/k:1", "/install:x", "/d:y"]).notices =
        [.invalidInstall "x", .malformedProperty "y"] ∧
      ¬ TellsEveryValue ["/k:1", "/install:x", "/d:y"] := by
  have hsuccess : (table.parse ["/k:1", "/install:x", "/d:y"]).success = true := by
    decide +kernel
  obtain ⟨hnotices, -, hevery⟩ := an_earlier_problem_hides_a_bad_key _ hsuccess
  refine ⟨hsuccess, ?_, ?_⟩
  · rw [hnotices]
    decide +kernel
  · rw [hevery]
    decide +kernel

/-- The key `1` has no character but digits, and only the install value is told. -/
theorem a_bad_install_hides_a_bad_key :
    (table.parse ["/k:1", "/install:x"]).success = true ∧
      ¬ TellsEveryValue ["/k:1", "/install:x"] := by
  refine ⟨by decide +kernel, ?_⟩
  intro h
  exact absurd h.length_eq (by decide +kernel)

end ArgTable.Preprocess
