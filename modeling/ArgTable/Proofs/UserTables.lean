-- Tables made of the literals that the user names. Each literal gives one argument, and only the
-- empty literal gives none. A literal that is named again gives an argument of its own, so no
-- argument is ever listed twice.
import ArgTable.Options
import Mathlib.Data.List.Nodup

namespace ArgTable

/-! ## Declarations -/

/-- A declaration with nothing wrong gives the optional argument that was asked for. -/
theorem Argument.declare_eq_ok {form : Form} {description : String}
    (h : form.fault? description = none) :
    declare form description = .ok { form, description, faultless := h } := by
  unfold declare
  split
  · next fault hfault =>
    rw [h] at hfault
    cases hfault
  · rfl

theorem Argument.declare_eq_error {form : Form} {description : String} {fault : Fault}
    (h : form.fault? description = some fault) : declare form description = .error fault := by
  unfold declare
  split
  · next other hother =>
    rw [h] at hother
    rw [Option.some.inj hother]
  · next hnone =>
    rw [h] at hnone
    cases hnone

/-- A described form of one literal is at fault only when the literal is empty. -/
theorem Form.fault?_of_singleton {form : Form} {literal description : String}
    (hform : form.literals = [literal]) (hdescription : Text.allBlank description = false) :
    form.fault? description = if literal = "" then some .emptyLiteral else none := by
  have hrepeat : firstRepeat? [literal] = none :=
    (firstRepeat?_eq_none_iff _).mpr (List.nodup_singleton literal)
  unfold fault?
  rw [hform]
  simp only [List.mem_singleton, hrepeat, hdescription, eq_comm]
  rfl

theorem Text.allBlank_append {lead : String} (h : allBlank lead = false) (more : String) :
    allBlank (lead ++ more) = false := by
  unfold allBlank at *
  rw [String.toList_append, List.all_append, h, Bool.false_and]

namespace Options

/-! ## One literal -/

/-- The argument is the optional one of the form. -/
structure Declares (form : Form) (multiple : Bool) (argument : Argument) : Prop where
  form : argument.form = form
  optional : argument.required = false
  multiple : argument.multiple = multiple

theorem fault?_named {form : Form} {lead literal : String} (hform : form.literals = [literal])
    (hlead : Text.allBlank lead = false) :
    form.fault? s!"{lead}{literal}'" = if literal = "" then some .emptyLiteral else none :=
  Form.fault?_of_singleton hform (Text.allBlank_append (Text.allBlank_append hlead literal) "'")

theorem prefixArgument_empty (multiple : Bool) :
    prefixArgument multiple "" = .error .emptyLiteral := by
  unfold prefixArgument
  rw [Argument.declare_eq_error ((fault?_named rfl (by decide)).trans (if_pos rfl))]
  rfl

theorem prefixArgument_declares (multiple : Bool) {literal : String} (h : literal ≠ "") :
    ∃ argument, prefixArgument multiple literal = .ok argument ∧
      Declares (.prefixed [literal]) multiple argument := by
  unfold prefixArgument
  rw [Argument.declare_eq_ok ((fault?_named rfl (by decide)).trans (if_neg h))]
  cases multiple with
  | false => exact ⟨_, rfl, rfl, rfl, rfl⟩
  | true => exact ⟨_, rfl, rfl, rfl, rfl⟩

theorem verbArgument_empty : verbArgument "" = .error .emptyLiteral :=
  Argument.declare_eq_error ((fault?_named rfl (by decide)).trans (if_pos rfl))

theorem verbArgument_declares {literal : String} (h : literal ≠ "") :
    ∃ argument, verbArgument literal = .ok argument ∧ Declares (.verb literal) false argument :=
  ⟨_, Argument.declare_eq_ok ((fault?_named rfl (by decide)).trans (if_neg h)), rfl, rfl, rfl⟩

/-! ## All literals -/

section
variable {declare : String → Except Fault Argument} {form : String → Form} {multiple : Bool}

/-- The empty literal is told wherever it stands. -/
theorem mapM_declare_eq_error (hempty : declare "" = .error .emptyLiteral)
    (hdeclares : ∀ {literal : String}, literal ≠ "" →
      ∃ argument, declare literal = .ok argument ∧ Declares (form literal) multiple argument)
    {literals : List String} (h : "" ∈ literals) :
    literals.mapM declare = .error .emptyLiteral := by
  induction literals with
  | nil => cases h
  | cons literal literals ih =>
    rw [List.mapM_cons]
    by_cases hliteral : literal = ""
    · rw [hliteral, hempty]
      rfl
    · obtain ⟨argument, hargument, -⟩ := hdeclares hliteral
      rw [hargument, ih (List.mem_of_ne_of_mem (Ne.symm hliteral) h)]
      rfl

/-- Other literals give one argument each, in order. -/
theorem mapM_declare_eq_ok
    (hdeclares : ∀ {literal : String}, literal ≠ "" →
      ∃ argument, declare literal = .ok argument ∧ Declares (form literal) multiple argument)
    {literals : List String} (h : "" ∉ literals) :
    ∃ arguments, literals.mapM declare = .ok arguments ∧
      List.Forall₂ (fun literal => Declares (form literal) multiple) literals arguments := by
  induction literals with
  | nil => exact ⟨[], rfl, List.Forall₂.nil⟩
  | cons literal literals ih =>
    rw [List.mem_cons, not_or] at h
    obtain ⟨argument, hargument, hdeclared⟩ := hdeclares (Ne.symm h.1)
    obtain ⟨arguments, harguments, hall⟩ := ih h.2
    refine ⟨argument :: arguments, ?_, List.Forall₂.cons hdeclared hall⟩
    rw [List.mapM_cons, hargument, harguments]
    rfl

end

/-- The arguments are those of the literals that the user names, prefixes first. -/
def Names (options : Options) (arguments : List Argument) : Prop :=
  ∃ prefixed verbs, arguments = prefixed ++ verbs ∧
    List.Forall₂ (fun literal => Declares (.prefixed [literal]) options.allowMultiple)
      options.prefixes prefixed ∧
    List.Forall₂ (fun literal => Declares (.verb literal) false) options.verbs verbs

theorem arguments_eq_error {options : Options} (h : "" ∈ options.prefixes ++ options.verbs) :
    options.arguments = .error .emptyLiteral := by
  have hprefixed := @prefixArgument_declares options.allowMultiple
  unfold arguments
  by_cases hempty : "" ∈ options.prefixes
  · rw [mapM_declare_eq_error (prefixArgument_empty _) hprefixed hempty]
    rfl
  · obtain ⟨prefixed, hall, -⟩ := mapM_declare_eq_ok hprefixed hempty
    have hverb := (List.mem_append.mp h).resolve_left hempty
    rw [hall, mapM_declare_eq_error verbArgument_empty verbArgument_declares hverb]
    rfl

theorem arguments_eq_ok {options : Options} (h : "" ∉ options.prefixes ++ options.verbs) :
    ∃ arguments, options.arguments = .ok arguments ∧ options.Names arguments := by
  rw [List.mem_append, not_or] at h
  obtain ⟨prefixed, hprefixed, hall⟩ :=
    mapM_declare_eq_ok (@prefixArgument_declares options.allowMultiple) h.1
  obtain ⟨verbs, hverbs, hall'⟩ := mapM_declare_eq_ok verbArgument_declares h.2
  refine ⟨prefixed ++ verbs, ?_, prefixed, verbs, rfl, hall, hall'⟩
  unfold arguments
  rw [hprefixed, hverbs]
  rfl

end Options

/-- A list of arguments always makes a table, since each is known by its place. -/
theorem Table.build_ofList (arguments : List Argument) (lenient : Bool) :
    build arguments.get (List.finRange arguments.length) lenient =
      .ok (ofList arguments lenient) :=
  build_eq_ok (ofList arguments lenient)

end ArgTable
