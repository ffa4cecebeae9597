-- Which part of a step says what. Reading tokens with a table and gathering properties each
-- have notices of their own, and all of them are errors. The two messages about the phase are
-- told apart from every other message by their severity and their text.
import ArgTable.Property
import ArgTable.Proofs.Belonging
import Mathlib.Data.List.Induction

namespace ArgTable

namespace Notice

/-- The notice is about the tokens as a table reads them. -/
def onTokens : Notice → Bool
  | unrecognized _ | repeated _ _ | missing _ => true
  | _ => false

/-- The notice is about the text of a property. -/
def onProperty : Notice → Bool
  | malformedProperty _ | repeatedProperty _ _ | dedicatedProperty _ _ | automaticProperty _ =>
    true
  | _ => false

theorem severity_of_onTokens {notice : Notice} (h : notice.onTokens = true) :
    notice.severity = .error := by
  cases notice with
  | unrecognized | repeated | missing => rfl
  | _ => cases h

theorem severity_of_onProperty {notice : Notice} (h : notice.onProperty = true) :
    notice.severity = .error := by
  cases notice with
  | malformedProperty | repeatedProperty | dedicatedProperty | automaticProperty => rfl
  | _ => cases h

end Notice

/-! ## Reading tokens -/

section
variable {ι : Type} [DecidableEq ι] {table : Table ι} {tokens : List String} {notice : Notice}

theorem Table.exists_token_of_mem_repeats (h : notice ∈ table.repeats (table.matched tokens)) :
    ∃ token ∈ tokens, ∃ name, ∃ first ∈ tokens,
      notice = .repeated token (table.valueOf name first) := by
  obtain ⟨name, -, hname⟩ := List.mem_flatMap.mp h
  rw [repeatsOf_matched] at hname
  split at hname
  · simp at hname
  · split at hname
    · simp at hname
    · next first later hfound =>
      have hmem : ∀ token ∈ first :: later, token ∈ tokens :=
        hfound ▸ fun _ => List.mem_of_mem_filter
      obtain ⟨token, htoken, rfl⟩ := List.mem_map.mp hname
      exact ⟨token, hmem token (List.mem_cons_of_mem _ htoken), name, first,
        hmem first List.mem_cons_self, rfl⟩

theorem Table.exists_name_of_mem_missing (h : notice ∈ table.missing (table.matched tokens)) :
    ∃ name ∈ table.order, (table.argument name).required = true ∧
      notice = .missing (table.argument name).description := by
  obtain ⟨name, hname, rfl⟩ := List.mem_map.mp h
  obtain ⟨hmem, hrequired⟩ := List.mem_filter.mp hname
  exact ⟨name, hmem, (Bool.and_eq_true_iff.mp hrequired).1, rfl⟩

/-- A table tells unknown tokens, repeated tokens and required arguments that are left out. -/
theorem Table.cases_of_mem_notices (h : notice ∈ table.notices tokens) :
    (∃ token ∈ tokens, notice = .unrecognized token) ∨
      (∃ token ∈ tokens, ∃ name, ∃ first ∈ tokens,
        notice = .repeated token (table.valueOf name first)) ∨
      ∃ name ∈ table.order, (table.argument name).required = true ∧
        notice = .missing (table.argument name).description := by
  rw [notices_eq, List.mem_append, List.mem_append] at h
  rcases h with (h | h) | h
  · split at h
    · simp at h
    · obtain ⟨token, htoken, rfl⟩ := List.mem_map.mp h
      exact Or.inl ⟨token, List.mem_of_mem_filter htoken, rfl⟩
  · exact Or.inr (Or.inl (exists_token_of_mem_repeats h))
  · exact Or.inr (Or.inr (exists_name_of_mem_missing h))

theorem Table.onTokens_of_mem_notices (h : notice ∈ table.notices tokens) :
    notice.onTokens = true := by
  rcases cases_of_mem_notices h with ⟨_, -, rfl⟩ | ⟨_, -, _, _, -, rfl⟩ | ⟨_, -, -, rfl⟩
  · rfl
  · rfl
  · rfl

end

/-- Everything that a table says of the tokens is an error. -/
theorem Table.severity_of_mem_notices {ι : Type} [DecidableEq ι] {table : Table ι}
    {tokens : List String} {notice : Notice} (h : notice ∈ table.notices tokens) :
    notice.severity = .error :=
  Notice.severity_of_onTokens (onTokens_of_mem_notices h)

/-! ## Gathering properties -/

namespace Property

theorem take_notices (gathering : Gathering) (raw : String)
    (h : ∀ notice ∈ gathering.notices, notice.onProperty = true) :
    ∀ notice ∈ (gathering.take raw).notices, notice.onProperty = true := by
  have hsnoc : ∀ last : Notice, last.onProperty = true →
      ∀ notice ∈ gathering.notices ++ [last], notice.onProperty = true := by
    intro last hlast notice hmem
    rcases List.mem_append.mp hmem with hmem | hmem
    · exact h notice hmem
    · rw [List.mem_singleton.mp hmem]
      exact hlast
  unfold Gathering.take
  split
  · exact hsnoc _ rfl
  · split
    · exact hsnoc _ rfl
    · exact h

theorem gather_notices (raws : List String) :
    ∀ notice ∈ (gather raws).notices, notice.onProperty = true := by
  induction raws using List.reverseRecOn with
  | nil => simp [gather]
  | append_singleton raws raw ih =>
    unfold gather at *
    rw [List.foldl_append]
    exact take_notices _ raw ih

theorem reserved_onProperty : ∀ entry ∈ reserved, entry.2.onProperty = true := by decide

theorem onProperty_of_mem_noticesOf {raws : List String} {notice : Notice}
    (h : notice ∈ noticesOf raws) : notice.onProperty = true := by
  rcases List.mem_append.mp h with h | h
  · exact gather_notices raws notice h
  · obtain ⟨entry, hentry, rfl⟩ := List.mem_map.mp h
    exact reserved_onProperty entry (List.mem_filter.mp hentry).1

end Property

/-! ## The messages about the phase -/

namespace Notice

theorem message_ne_of_opens {notice other : Notice} (lead : String)
    (h : Opens lead notice.message) (hother : ¬ Opens lead other.message) :
    notice.message ≠ other.message := by
  intro heq
  rw [heq] at h
  exact hother h

/-- Only the notice of a missing argument starts with its words. -/
theorem missing_of_opens {notice : Notice} (h : notice.onTokens = true)
    (hopens : Opens "A required argument is missing: " notice.message) :
    ∃ description, notice = .missing description := by
  cases notice with
  | unrecognized token =>
    have hown : Opens "Unrecognized command line argument: " (unrecognized token).message :=
      (Opens.refl _).append _
    exact absurd (hopens.comparable hown) (by decide)
  | repeated token existing =>
    have hown : Opens "A value has already been supplied for this argument: "
        (repeated token existing).message :=
      ((((Opens.refl _).append _).append _).append _).append _
    exact absurd (hopens.comparable hown) (by decide)
  | missing description => exact ⟨description, rfl⟩
  | _ => cases h

/-- No other message has the text of the one about both phases. Each starts with words that
this one does not start with. -/
theorem message_ne_bothPhases {notice : Notice} (h : notice ≠ .bothPhases) :
    notice.message ≠ bothPhases.message := by
  cases notice with
  | bothPhases => exact absurd rfl h
  | unrecognized token =>
    exact message_ne_of_opens "Unrecognized command line argument: "
      ((Opens.refl _).append _) (by decide)
  | repeated token existing =>
    exact message_ne_of_opens "A value has already been supplied for this argument: "
      (((((Opens.refl _).append _).append _).append _).append _) (by decide)
  | missing description =>
    exact message_ne_of_opens "A required argument is missing: "
      ((Opens.refl _).append _) (by decide)
  | malformedProperty raw =>
    exact message_ne_of_opens "The format of the analysis property "
      (((Opens.refl _).append _).append _) (by decide)
  | repeatedProperty raw existing =>
    exact message_ne_of_opens "A value has already been supplied for this property. "
      ((Opens.refl _).append _) (by decide)
  | dedicatedProperty literal key =>
    exact message_ne_of_opens "Please use the parameter prefix '"
      ((((((Opens.refl _).append _).append _).append _).append _).append _) (by decide)
  | automaticProperty key =>
    exact message_ne_of_opens "The property '"
      (((Opens.refl _).append _).append _) (by decide)
  | neitherPhase =>
    exact message_ne_of_opens "Neither 'begin' nor 'end' was specified. "
      (((Opens.refl _).append _).append _) (by decide)
  | invalidInstall value =>
    exact message_ne_of_opens "Invalid value for /install: "
      (((Opens.refl _).append _).append _) (by decide)
  | invalidProjectKey key =>
    exact message_ne_of_opens "Invalid project key '"
      ((((Opens.refl _).append _).append _).append _) (by decide)

theorem bothPhases_mem_diagnostics (notices : List Notice) :
    bothPhases.diagnostic ∈ notices.map (·.diagnostic) ↔ bothPhases ∈ notices := by
  refine ⟨fun h => ?_, fun h => List.mem_map_of_mem h⟩
  obtain ⟨notice, hmem, heq⟩ := List.mem_map.mp h
  by_cases hboth : notice = .bothPhases
  · rw [← hboth]
    exact hmem
  · exact absurd (congrArg Diagnostic.message heq) (message_ne_bothPhases hboth)

/-- The message about no phase is the only warning. -/
theorem neitherPhase_mem_diagnostics (notices : List Notice) :
    neitherPhase.diagnostic ∈ notices.map (·.diagnostic) ↔ neitherPhase ∈ notices := by
  refine ⟨fun h => ?_, fun h => List.mem_map_of_mem h⟩
  obtain ⟨notice, hmem, heq⟩ := List.mem_map.mp h
  have hwarning : notice.severity = .warning := congrArg Diagnostic.severity heq
  cases notice with
  | neitherPhase => exact hmem
  | _ => cases hwarning

end Notice

end ArgTable
