-- When a parse succeeds, and with which instances. A table accepts a list of tokens exactly
-- when the tokens fit it: no token is unknown to a strict table, no argument that may be
-- supplied once is supplied twice, and no required argument is left out.
import ArgTable.Proofs.NoticeKinds

namespace ArgTable.Table

variable {ι : Type}

theorem no_stranger_iff (table : Table ι) (tokens : List String) :
    (if table.lenient then [] else (table.strangers tokens).map Notice.unrecognized) = [] ↔
      table.lenient = true ∨ ∀ token ∈ tokens, ∃ name, table.owner? token = some name := by
  rw [strangers_eq]
  rcases table.lenient
  · simp [List.filter_eq_nil_iff, Option.ne_none_iff_exists']
  · simp

variable [DecidableEq ι]

/-- The tokens are what the table asks for. -/
structure Fits (table : Table ι) (tokens : List String) : Prop where
  known : table.lenient = true ∨ ∀ token ∈ tokens, ∃ name, table.owner? token = some name
  single : ∀ name ∈ table.order, (table.argument name).multiple = false →
    (table.tokensOf tokens name).length ≤ 1
  supplied : ∀ name ∈ table.order, (table.argument name).required = true →
    1 ≤ (table.tokensOf tokens name).length

/-! ## Nothing to say -/

theorem repeatsOf_eq_nil_iff (table : Table ι) (tokens : List String) (name : ι) :
    table.repeatsOf (table.matched tokens) name = [] ↔
      ((table.argument name).multiple = false → (table.tokensOf tokens name).length ≤ 1) := by
  rw [repeatsOf_matched]
  rcases (table.argument name).multiple
  · rcases table.tokensOf tokens name with _ | ⟨first, _ | ⟨second, later⟩⟩ <;> simp
  · simp

theorem repeats_eq_nil_iff (table : Table ι) (tokens : List String) :
    table.repeats (table.matched tokens) = [] ↔
      ∀ name ∈ table.order, (table.argument name).multiple = false →
        (table.tokensOf tokens name).length ≤ 1 := by
  unfold repeats
  rw [List.flatMap_eq_nil_iff]
  simp only [repeatsOf_eq_nil_iff]

theorem missing_eq_nil_iff (table : Table ι) (tokens : List String) :
    table.missing (table.matched tokens) = [] ↔
      ∀ name ∈ table.order, (table.argument name).required = true →
        1 ≤ (table.tokensOf tokens name).length := by
  rw [missing_matched, List.map_eq_nil_iff, List.filter_eq_nil_iff]
  simp [Nat.one_le_iff_ne_zero]

/-- There is nothing to say of tokens that fit, and of no others. -/
theorem notices_eq_nil_iff (table : Table ι) (tokens : List String) :
    table.notices tokens = [] ↔ table.Fits tokens := by
  rw [notices_eq]
  rw [List.append_eq_nil_iff, List.append_eq_nil_iff, no_stranger_iff, repeats_eq_nil_iff,
    missing_eq_nil_iff]
  constructor
  · rintro ⟨⟨known, single⟩, supplied⟩
    exact ⟨known, single, supplied⟩
  · rintro ⟨known, single, supplied⟩
    exact ⟨⟨known, single⟩, supplied⟩

/-! ## The parse -/

theorem success_iff (table : Table ι) (tokens : List String) :
    (table.parse tokens).success = true ↔ table.Fits tokens := by
  rw [success_eq, List.isEmpty_iff, notices_eq_nil_iff]

theorem instances_of_fits {table : Table ι} {tokens : List String} (h : table.Fits tokens) :
    (table.parse tokens).instances =
      tokens.filterMap fun token =>
        (table.owner? token).map fun name => ⟨name, table.valueOf name token⟩ := by
  rw [instances_eq, (notices_eq_nil_iff table tokens).mpr h, ← instances_matched]
  rfl

theorem instances_eq_filterMap_recognize? {table : Table ι} {tokens : List String}
    (h : table.Fits tokens) :
    (table.parse tokens).instances = tokens.filterMap table.recognize? := by
  rw [instances_of_fits h]
  congr 1
  funext token
  exact (recognize?_eq table token).symm

theorem instances_of_not_fits {table : Table ι} {tokens : List String}
    (h : ¬ table.Fits tokens) : (table.parse tokens).instances = [] := by
  rw [← notices_eq_nil_iff, ← List.isEmpty_iff] at h
  rw [instances_eq, if_neg h]

/-- The values of an argument are those of its tokens. -/
theorem values_of_fits {table : Table ι} {tokens : List String} (h : table.Fits tokens)
    (name : ι) : Instance.values name (table.parse tokens).instances =
      (table.tokensOf tokens name).map (table.valueOf name) := by
  rw [instances_of_fits h, ← instances_matched]
  unfold Instance.values
  rw [List.filter_map, List.map_map]
  have hmatched := congrArg (List.map fun pair => pair.2.value) (matched_filter table tokens name)
  rw [List.map_map] at hmatched
  exact hmatched

theorem supplied_of_fits {table : Table ι} {tokens : List String} (h : table.Fits tokens)
    (name : ι) : Instance.supplied name (table.parse tokens).instances = true ↔
      ∃ token ∈ tokens, table.owner? token = some name := by
  rw [Instance.supplied_eq_isSome_value?, Instance.value?_eq_head?_values, values_of_fits h]
  simp [tokensOf]

/-- A parse succeeds exactly when it adds no error to the journal. -/
theorem success_iff_no_error_added (table : Table ι) (tokens : List String) :
    (table.parse tokens).success = true ↔
      ∀ entry ∈ (table.parse tokens).notices.map (·.diagnostic), entry.severity ≠ .error := by
  have hnotices : (table.parse tokens).notices = table.notices tokens := rfl
  rw [success_iff, ← notices_eq_nil_iff, hnotices]
  constructor
  · intro h
    simp [h]
  · intro h
    rw [List.eq_nil_iff_forall_not_mem]
    intro notice hmem
    exact h _ (List.mem_map_of_mem hmem) (severity_of_mem_notices hmem)

/-- Over any journal, a parse goes through exactly when the tokens fit the table, and exactly
when it adds no error. It then gives one instance for each token that belongs to an argument,
in token order, with that argument and the value of the token. A parse that fails gives no
instance. -/
theorem a_parse_accepts_the_tokens_that_fit (table : Table ι) (journal : Journal)
    (tokens : List String) :
    let run := table.parseInto journal tokens
    (run.1.success = true ↔ table.Fits tokens) ∧
      (run.1.success = true → run.1.instances =
        tokens.filterMap fun token =>
          (table.owner? token).map fun name => ⟨name, table.valueOf name token⟩) ∧
      (run.1.success = false → run.1.instances = []) ∧
      ∃ added, run.2.entries = journal.entries ++ added ∧
        (run.1.success = true ↔ ∀ entry ∈ added, entry.severity ≠ .error) := by
  simp only [parseInto]
  refine ⟨success_iff table tokens, ?_, ?_, _, rfl, success_iff_no_error_added table tokens⟩
  · intro h
    exact instances_of_fits ((success_iff table tokens).mp h)
  · intro h
    apply instances_of_not_fits
    rw [← success_iff, h]
    exact Bool.false_ne_true

end ArgTable.Table
