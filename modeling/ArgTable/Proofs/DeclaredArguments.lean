-- Arguments as they are declared. A declaration fails exactly when something is wrong with its
-- literals or its description, and it tells the first fault in a fixed order. The argument of a
-- declaration keeps both under any marks. It reads the tokens that its first fitting literal opens,
-- and since no literal is empty, the value is shorter than the token.
import ArgTable.Proofs.MarkedVerbs
import ArgTable.Proofs.QuotedTexts

namespace ArgTable

namespace Form

/-! ## Faults -/

/-- What a declaration has to have. -/
structure Declarable (form : Form) (description : String) : Prop where
  named : form.literals ≠ []
  full : "" ∉ form.literals
  distinct : form.literals.Nodup
  described : ∃ c ∈ description.toList, Text.isBlank c = false

/-- The fault is the first of a declaration. A fault of the literals counts before one of the
description, an empty literal before one that equals an earlier one, and of these the first. -/
def FirstFault (form : Form) (description : String) : Fault → Prop
  | .noLiteral => form.literals = []
  | .emptyLiteral => "" ∈ form.literals
  | .repeatedLiteral literal => "" ∉ form.literals ∧ ∃ before after,
      form.literals = before ++ literal :: after ∧ literal ∈ before ∧ before.Nodup
  | .noDescription literal => "" ∉ form.literals ∧ form.literals.Nodup ∧
      (∀ c ∈ description.toList, Text.isBlank c = true) ∧ form.literals.head? = some literal
  | _ => False

theorem fault?_eq_some_iff (form : Form) (description : String) (fault : Fault) :
    form.fault? description = some fault ↔ form.FirstFault description fault := by
  have hrepeats := firstRepeat?_eq_some_iff form.literals
  have hdistinct := firstRepeat?_eq_none_iff form.literals
  unfold fault?
  rcases hliterals : form.literals with _ | ⟨first, others⟩
  · cases fault <;> simp [FirstFault, hliterals]
  · rw [hliterals] at hrepeats hdistinct
    dsimp only
    by_cases hempty : "" ∈ first :: others
    · rw [if_pos hempty]
      cases fault <;> simp [FirstFault, hliterals, hempty]
    · rw [if_neg hempty]
      cases hrepeat : firstRepeat? (first :: others) with
      | some repeated =>
        rw [hrepeat] at hrepeats hdistinct
        cases fault with
        | repeatedLiteral literal =>
          rw [FirstFault, hliterals, ← hrepeats]
          simp [hempty]
        | _ => simp [FirstFault, hliterals, hempty, ← hdistinct]
      | none =>
        rw [hrepeat] at hrepeats hdistinct
        cases fault with
        | repeatedLiteral literal =>
          rw [FirstFault, hliterals, ← hrepeats]
          simp
        | _ => simp [FirstFault, hliterals, hempty, ← hdistinct, Text.allBlank_iff]

theorem fault?_eq_none_iff_declarable (form : Form) (description : String) :
    form.fault? description = none ↔ form.Declarable description := by
  constructor
  · intro h
    have hnot : ∀ fault, ¬ form.FirstFault description fault := by
      intro fault hfault
      rw [← fault?_eq_some_iff, h] at hfault
      cases hfault
    have hfull : "" ∉ form.literals := hnot .emptyLiteral
    have hdistinct : form.literals.Nodup := by
      rw [← firstRepeat?_eq_none_iff, Option.eq_none_iff_forall_ne_some]
      intro literal hrepeat
      exact hnot (.repeatedLiteral literal) ⟨hfull, (firstRepeat?_eq_some_iff _ _).mp hrepeat⟩
    refine ⟨hnot .noLiteral, hfull, hdistinct, ?_⟩
    by_contra hblank
    obtain ⟨first, others, hliterals⟩ := List.exists_cons_of_ne_nil (hnot .noLiteral)
    refine hnot (.noDescription first) ⟨hfull, hdistinct, by simpa using hblank, ?_⟩
    simp [hliterals]
  · intro h
    rw [Option.eq_none_iff_forall_ne_some]
    intro fault hfault
    rw [fault?_eq_some_iff] at hfault
    cases fault with
    | noLiteral => exact h.named hfault
    | emptyLiteral => exact h.full hfault
    | repeatedLiteral literal =>
      obtain ⟨-, hrepeat⟩ := hfault
      rw [← firstRepeat?_eq_some_iff, (firstRepeat?_eq_none_iff _).mpr h.distinct] at hrepeat
      cases hrepeat
    | noDescription literal =>
      obtain ⟨c, hmem, hc⟩ := h.described
      rw [hfault.2.2.1 c hmem] at hc
      cases hc
    | _ => exact hfault

/-! ## Values -/

/-- What the form gives for a token. A verb gives the empty value for its word, and any other form
gives what stands behind the first of its literals that the token starts with. -/
def Gives : Form → String → String → Prop
  | verb word, token, value => token = word ∧ value = ""
  | prefixed literals, token, value => ∃ before literal after,
      literals = before ++ literal :: after ∧ token = literal ++ value ∧
        ∀ earlier ∈ before, ¬ Opens earlier token

theorem accept?_eq_some_iff (form : Form) (token value : String) :
    form.accept? token = some value ↔ form.Gives token value := by
  cases form with
  | verb word => simp [accept?, Gives, eq_comm]
  | prefixed literals =>
    have hnone (earlier : String) : remainder? earlier token = none ↔ ¬ Opens earlier token := by
      rw [← isSome_remainder?_iff, Option.not_isSome_iff_eq_none]
    rw [accept?, List.findSome?_eq_some_iff]
    simp only [remainder?_eq_some_iff, hnone, Gives]

/-- A token that a form gives a value for is a literal of the form with the value behind it. -/
theorem Gives.exists_literal {form : Form} {token value : String} (h : form.Gives token value) :
    ∃ literal ∈ form.literals, token = literal ++ value := by
  cases form with
  | verb word =>
    obtain ⟨rfl, rfl⟩ := h
    exact ⟨token, List.mem_singleton_self token, by simp⟩
  | prefixed literals =>
    obtain ⟨before, literal, after, rfl, htoken, -⟩ := h
    exact ⟨literal, by simp [literals], htoken⟩

end Form

namespace Argument

theorem declare_eq_error_iff (form : Form) (description : String) (fault : Fault) :
    declare form description = .error fault ↔ form.fault? description = some fault := by
  constructor
  · intro h
    cases hfault : form.fault? description with
    | none =>
      rw [declare_eq_ok hfault] at h
      cases h
    | some other =>
      rw [declare_eq_error hfault] at h
      cases h
      rfl
  · exact declare_eq_error

theorem exists_declare_iff (form : Form) (description : String) :
    (∃ plain, declare form description = .ok plain) ↔ form.fault? description = none := by
  constructor
  · rintro ⟨plain, h⟩
    cases hfault : form.fault? description with
    | none => rfl
    | some fault =>
      rw [declare_eq_error hfault] at h
      cases h
  · intro h
    exact ⟨_, declare_eq_ok h⟩

theorem description_of_declare {form : Form} {description : String} {plain : Argument}
    (h : declare form description = .ok plain) : plain.description = description := by
  have hfault := (exists_declare_iff form description).mp ⟨plain, h⟩
  rw [declare_eq_ok hfault] at h
  cases h
  rfl

/-- No literal is empty, so the value is shorter than the token. -/
theorem length_lt_of_accept? {argument : Argument} {token value : String}
    (h : argument.accept? token = some value) : value.length < token.length := by
  obtain ⟨literal, hmem, rfl⟩ := ((Form.accept?_eq_some_iff _ _ _).mp h).exists_literal
  have hne : literal ≠ "" := fun heq => argument.empty_not_mem_literals (heq ▸ hmem)
  have hpos : literal.length ≠ 0 := by simpa using hne
  rw [String.length_append]
  omega

theorem accept?_empty (argument : Argument) : argument.accept? "" = none := by
  rw [Option.eq_none_iff_forall_ne_some]
  intro value h
  have hlt := length_lt_of_accept? h
  simp at hlt

end Argument

theorem Table.recognize?_empty {ι : Type} (table : Table ι) : table.recognize? "" = none := by
  unfold recognize?
  simp [Argument.accept?_empty]

/-! ## The law -/

/-- How a fault of a declaration reads. It names the literal that equals an earlier one, or the
first literal of an argument that is not described. -/
def Fault.Reads : Fault → String → Prop
  | .noLiteral, text =>
    text = "Invalid argument descriptor: " ++ "at least one prefix must be supplied"
  | .emptyLiteral, text => text = "Invalid argument descriptor: " ++ "prefixes must not be empty"
  | .repeatedLiteral literal, text =>
    text = "Invalid argument descriptor: " ++ ("prefix '" ++ literal ++ "' is listed more than once")
  | .noDescription literal, text =>
    text = "Invalid argument descriptor: " ++ ("a description is required for '" ++ literal ++ "'")
  | _, _ => False

/-- The argument has the form and the description, and it reads a token as the form says. -/
structure Argument.ReadsAs (argument : Argument) (form : Form) (description : String) : Prop where
  keepsForm : argument.form = form
  keepsDescription : argument.description = description
  accepts : ∀ token, (argument.accept? token).isSome = true ↔ form.Accepts token
  gives : ∀ token value, argument.accept? token = some value ↔ form.Gives token value
  shorter : ∀ token value, argument.accept? token = some value → value.length < token.length

theorem Argument.readsAs_marked {form : Form} {description : String} {plain : Argument}
    (h : declare form description = .ok plain) (marks : List Mark) :
    (plain.marked marks).ReadsAs form description := by
  obtain ⟨hform, hdescription⟩ := keeps_marked plain marks
  rw [(unmarked_of_declare h).1] at hform
  refine ⟨hform, ?_, ?_, ?_, fun _ _ => length_lt_of_accept?⟩
  · rw [hdescription, description_of_declare h]
  · intro token
    rw [accept?, hform, Form.accept?_eq, Option.isSome_ite]
  · intro token value
    rw [accept?, hform, Form.accept?_eq_some_iff]

/-- A declaration succeeds exactly when it has all it needs, and else it fails with its first fault,
in a text that says which fault it is and holds the literal that it is about. The argument of a
declaration keeps its form and its description under any marks. It reads exactly the tokens that its
form accepts, each with the value that the form gives, and that value is shorter than the token. So
nothing in a table recognizes the empty token. -/
theorem a_declared_argument_reads_behind_its_literals (form : Form) (description : String) :
    ((∃ plain, Argument.declare form description = .ok plain) ↔ form.Declarable description) ∧
      (∀ fault, Argument.declare form description = .error fault ↔
        form.FirstFault description fault) ∧
      (∀ fault, Argument.declare form description = .error fault →
        fault.kind = .argument ∧ fault.Reads fault.message ∧
          ∀ text ∈ fault.texts, Journal.mentions fault.message text = true) ∧
      (∀ plain marks, Argument.declare form description = .ok plain →
        (plain.marked marks).ReadsAs form description) ∧
      ∀ (ι : Type) (table : Table ι), table.recognize? "" = none ∧
        ∀ name, (table.argument name).accept? "" = none := by
  have hfault (fault : Fault) : Argument.declare form description = .error fault ↔
      form.FirstFault description fault := by
    rw [Argument.declare_eq_error_iff, Form.fault?_eq_some_iff]
  refine ⟨?_, hfault, ?_, fun plain marks h => Argument.readsAs_marked h marks, ?_⟩
  · rw [Argument.exists_declare_iff, Form.fault?_eq_none_iff_declarable]
  · intro fault h
    rw [hfault] at h
    refine ⟨?_, ?_, fault.mentions_of_mem_texts⟩
    all_goals
      cases fault with
      | noLiteral | emptyLiteral | repeatedLiteral | noDescription => rfl
      | _ => exact h.elim
  · intro ι table
    exact ⟨table.recognize?_empty, fun name => (table.argument name).accept?_empty⟩

/-- A version behind a short literal or behind a longer one that starts with it. -/
def versionArgument : Argument where
  form := .prefixed ["/v", "/version:"]
  description := "Version of the project"
  faultless := by decide

/-- The short literal is declared first, so the long one is never in front of a value. Declared
again, it is named in the error. -/
theorem a_short_literal_reads_in_front_of_a_long_one :
    Argument.declare (.prefixed ["/v", "/version:"]) "Version of the project" =
        .ok versionArgument ∧
      (versionArgument.marked [.required]).ReadsAs (.prefixed ["/v", "/version:"])
        "Version of the project" ∧
      (versionArgument.marked [.required]).accept? "/version:1.0" = some "ersion:1.0" ∧
      Argument.declare (.prefixed ["/v", "/version:", "/v"]) "Version of the project" =
        .error (.repeatedLiteral "/v") ∧
      (Fault.repeatedLiteral "/v").message =
        "Invalid argument descriptor: " ++ ("prefix '" ++ "/v" ++ "' is listed more than once") := by
  have hdeclare : Argument.declare (.prefixed ["/v", "/version:"]) "Version of the project" =
      .ok versionArgument := Argument.declare_eq_ok _
  have hrepeat : Argument.declare (.prefixed ["/v", "/version:", "/v"]) "Version of the project" =
      .error (.repeatedLiteral "/v") := Argument.declare_eq_error (by decide)
  obtain ⟨-, -, -, hreads, -⟩ := a_declared_argument_reads_behind_its_literals
    (.prefixed ["/v", "/version:"]) "Version of the project"
  obtain ⟨-, -, htold, -⟩ := a_declared_argument_reads_behind_its_literals
    (.prefixed ["/v", "/version:", "/v"]) "Version of the project"
  obtain ⟨-, hmessage, -⟩ := htold _ hrepeat
  exact ⟨hdeclare, hreads versionArgument [.required] hdeclare, by decide +kernel, hrepeat,
    hmessage⟩

end ArgTable
