-- Lenient tables. A lenient table passes over the tokens that it does not know, and they leave no
-- trace: it reads the others as if they had been given alone, to a strict table. A strict table
-- tells the unknown tokens first and then what the lenient one tells.
import ArgTable.Proofs.Acceptance

namespace ArgTable.Table

variable {ι : Type}

/-- Some argument of the table accepts the token. -/
def knows (table : Table ι) (token : String) : Bool :=
  table.order.any fun name => ((table.argument name).accept? token).isSome

/-- The same table, which passes over unknown tokens. -/
def asLenient (table : Table ι) : Table ι := { table with lenient := true }

/-- The same table, which tells every unknown token. -/
def asStrict (table : Table ι) : Table ι := { table with lenient := false }

/-! ## Known tokens -/

theorem isSome_recognize? (table : Table ι) (token : String) :
    (table.recognize? token).isSome = table.knows token := by
  unfold recognize? knows
  induction table.order with
  | nil => rfl
  | cons name names ih =>
    rw [List.findSome?_cons, List.any_cons, ← ih]
    cases (table.argument name).accept? token <;> rfl

theorem recognize?_of_not_knows {table : Table ι} {token : String}
    (h : ¬ table.knows token = true) : table.recognize? token = none := by
  rwa [← isSome_recognize?, Option.isSome_iff_ne_none, not_not] at h

/-- The tokens that a table knows are recognized one by one, in their order. -/
theorem forall₂_recognize? {table : Table ι} {P : String → Instance ι → Prop}
    (h : ∀ token found, table.recognize? token = some found → P token found)
    (tokens : List String) :
    List.Forall₂ P (tokens.filter table.knows) (tokens.filterMap table.recognize?) := by
  induction tokens with
  | nil => exact List.Forall₂.nil
  | cons token tokens ih =>
    have hknows := isSome_recognize? table token
    rcases hfound : table.recognize? token with _ | found
    · rw [hfound] at hknows
      rw [List.filter_cons_of_neg (by simp [← hknows]), List.filterMap_cons_none hfound]
      exact ih
    · rw [hfound] at hknows
      rw [List.filter_cons_of_pos hknows.symm, List.filterMap_cons_some hfound]
      exact List.Forall₂.cons (h token found hfound) ih

theorem matched_known (table : Table ι) (tokens : List String) :
    table.matched (tokens.filter table.knows) = table.matched tokens := by
  unfold matched
  induction tokens with
  | nil => rfl
  | cons token tokens ih =>
    by_cases h : table.knows token = true
    · rw [List.filter_cons_of_pos h, List.filterMap_cons, List.filterMap_cons, ih]
    · rw [List.filter_cons_of_neg h, ih, List.filterMap_cons, recognize?_of_not_knows h]
      rfl

theorem strangers_eq_filter_knows (table : Table ι) (tokens : List String) :
    table.strangers tokens = tokens.filter fun token => !table.knows token := by
  unfold strangers
  simp only [← isSome_recognize?, Option.not_isSome]

theorem strangers_known (table : Table ι) (tokens : List String) :
    table.strangers (tokens.filter table.knows) = [] := by
  rw [strangers_eq_filter_knows, List.filter_filter, List.filter_eq_nil_iff]
  simp

/-! ## What is told -/

variable [DecidableEq ι]

theorem notices_asStrict (table : Table ι) (tokens : List String) :
    table.asStrict.notices tokens =
      (tokens.filter fun token => !table.knows token).map .unrecognized ++
        table.asLenient.notices tokens := by
  rw [notices_eq, notices_eq, ← strangers_eq_filter_knows]
  exact List.append_assoc ..

theorem notices_known (table : Table ι) (tokens : List String) :
    table.notices (tokens.filter table.knows) = table.asLenient.notices tokens := by
  rw [notices_eq, notices_eq, matched_known, strangers_known, List.map_nil, ite_self]
  rfl

/-- Of known tokens any table reads what the lenient one reads. -/
theorem parse_known (table : Table ι) (tokens : List String) :
    (table.parse (tokens.filter table.knows)).notices = (table.asLenient.parse tokens).notices ∧
      (table.parse (tokens.filter table.knows)).instances =
        (table.asLenient.parse tokens).instances := by
  have hnotices := notices_known table tokens
  constructor
  · exact hnotices
  · rw [instances_eq, instances_eq, hnotices, matched_known]
    rfl

/-- Tokens that can be read are read the same without the unknown ones among them. -/
theorem parse_known_of_success {table : Table ι} {tokens : List String}
    (h : (table.parse tokens).success = true) :
    (table.parse (tokens.filter table.knows)).notices = [] ∧
      (table.parse (tokens.filter table.knows)).instances = (table.parse tokens).instances := by
  rw [success_eq, List.isEmpty_iff] at h
  have hnotices : table.notices (tokens.filter table.knows) = [] := by
    rw [notices_eq, List.append_assoc] at h
    rw [notices_known, notices_eq, List.append_assoc]
    exact (List.append_eq_nil_iff.mp h).2
  refine ⟨hnotices, ?_⟩
  rw [instances_eq, instances_eq, hnotices, h, matched_known]

/-- A strict parse goes through when the lenient one does and every token is known. -/
theorem success_asStrict_iff (table : Table ι) (tokens : List String) :
    (table.asStrict.parse tokens).success = true ↔
      (table.asLenient.parse tokens).success = true ∧
        ∀ token ∈ tokens, table.knows token = true := by
  have hempty : table.asStrict.notices tokens = [] ↔
      (∀ token ∈ tokens, table.knows token = true) ∧ table.asLenient.notices tokens = [] := by
    rw [notices_asStrict, List.append_eq_nil_iff, List.map_eq_nil_iff, List.filter_eq_nil_iff]
    simp
  rw [success_eq, success_eq, List.isEmpty_iff, List.isEmpty_iff, and_comm]
  exact hempty

/-- What a lenient table reads of the tokens, over any journal, is what the strict table reads of
the tokens that some argument accepts, with the same entries in the journal. The strict table
reads all the tokens when the lenient one does and every token is accepted, and then it reads the
same. It always tells the unknown tokens, in their order, and then what the lenient one tells. -/
theorem a_lenient_table_reads_the_known_tokens (table : Table ι) (journal : Journal)
    (tokens : List String) :
    let lenient := table.asLenient.parseInto journal tokens
    let strict := table.asStrict.parseInto journal tokens
    let known := table.asStrict.parseInto journal (tokens.filter table.knows)
    (lenient.1.success = known.1.success ∧ lenient.1.instances = known.1.instances ∧
        lenient.1.notices = known.1.notices ∧ lenient.2 = known.2) ∧
      (strict.1.success = true ↔
        lenient.1.success = true ∧ ∀ token ∈ tokens, table.knows token = true) ∧
      strict.1.instances = (if strict.1.success then lenient.1.instances else []) ∧
      ∃ told, lenient.2.entries = journal.entries ++ told ∧
        strict.2.entries = journal.entries ++
          ((tokens.filter fun token => !table.knows token).map fun token =>
            (Notice.unrecognized token).diagnostic) ++ told := by
  obtain ⟨hnotices, hinstances⟩ := parse_known table.asStrict tokens
  refine ⟨⟨?_, hinstances.symm, hnotices.symm, ?_⟩, success_asStrict_iff table tokens, ?_, _, rfl,
    ?_⟩
  · change (table.asLenient.parse tokens).success = (table.asStrict.parse _).success
    rw [success_eq, success_eq]
    exact congrArg List.isEmpty hnotices.symm
  · exact congrArg (fun notices => journal.recordAll (notices.map (·.diagnostic))) hnotices.symm
  · by_cases hsuccess : (table.asStrict.parse tokens).success = true
    · -- every token is known then, so leaving out the unknown ones leaves out none
      obtain ⟨-, hknown⟩ := (success_asStrict_iff table tokens).mp hsuccess
      have hall : tokens.filter table.asStrict.knows = tokens := List.filter_eq_self.mpr hknown
      rw [hall] at hinstances
      exact hinstances.trans (if_pos hsuccess).symm
    · have hnot : ¬ table.asStrict.Fits tokens := by rwa [← success_iff]
      exact (instances_of_not_fits hnot).trans (if_neg hsuccess).symm
  · have htold := congrArg (List.map (·.diagnostic)) (notices_asStrict table tokens)
    rw [List.map_append, List.map_map] at htold
    exact (congrArg (journal.entries ++ ·) htold).trans (List.append_assoc ..).symm

end ArgTable.Table
