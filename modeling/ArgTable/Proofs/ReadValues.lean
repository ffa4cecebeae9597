-- What is read off the tokens. When the arguments of a table stay out of each other's way, the
-- values of an argument are those of the tokens that it accepts, whatever the other arguments
-- are. A step of the build reads its settings off these values, and what it shows are the
-- instances of the parse.
import ArgTable.Proofs.Apart

namespace ArgTable

/-! ## Values of a form -/

/-- The values that the tokens of the form carry, in token order. -/
def Form.valuesIn (form : Form) (tokens : List String) : List String :=
  (tokens.filter fun token => form.Accepts token).map form.valueOf

theorem Form.length_valuesIn (form : Form) (tokens : List String) :
    (form.valuesIn tokens).length = tokens.countP fun token => form.Accepts token := by
  unfold valuesIn
  rw [List.length_map, List.countP_eq_length_filter]

theorem Form.valuesIn_append (form : Form) (tokens more : List String) :
    form.valuesIn (tokens ++ more) = form.valuesIn tokens ++ form.valuesIn more := by
  unfold valuesIn
  rw [List.filter_append, List.map_append]

/-- Tokens that the form does not accept can be left out. -/
theorem Form.valuesIn_filter {form : Form} {keep : String → Bool} (tokens : List String)
    (h : ∀ token, form.Accepts token → keep token = true) :
    form.valuesIn (tokens.filter keep) = form.valuesIn tokens := by
  unfold valuesIn
  rw [List.filter_filter]
  congr 2
  funext token
  by_cases haccepts : form.Accepts token
  · simp [haccepts, h token haccepts]
  · simp [haccepts]

/-! ## Values of an argument -/

namespace Table.Apart

variable {ι : Type} [DecidableEq ι] {table : Table ι} {name : ι}

theorem tokensOf_eq (h : table.Apart) (hname : name ∈ table.order) (tokens : List String) :
    table.tokensOf tokens name =
      tokens.filter fun token => (table.argument name).form.Accepts token := by
  unfold tokensOf
  congr 1
  funext token
  rw [decide_eq_decide, h.owner?_eq_some_iff]
  exact and_iff_right hname

theorem values_parse (h : table.Apart) (hname : name ∈ table.order) {tokens : List String}
    (hfits : table.Fits tokens) :
    Instance.values name (table.parse tokens).instances =
      (table.argument name).form.valuesIn tokens := by
  rw [values_of_fits hfits, h.tokensOf_eq hname]
  rfl

omit [DecidableEq ι] in
/-- Tokens of one argument carry no values of another one. -/
theorem valuesIn_eq_nil (h : table.Apart) (hname : name ∈ table.order) {other : ι}
    (hother : other ∈ table.order) (hne : name ≠ other) {tokens : List String}
    (htokens : ∀ token ∈ tokens, (table.argument name).form.Accepts token) :
    (table.argument other).form.valuesIn tokens = [] := by
  unfold Form.valuesIn
  rw [List.map_eq_nil_iff, List.filter_eq_nil_iff]
  intro token hmem haccepts
  exact hne (h.accepts_unique hname hother (htokens token hmem) (of_decide_eq_true haccepts))

/-- An argument that may be supplied once has a value exactly when its tokens carry that value
and no other. -/
theorem value?_parse_eq_iff (h : table.Apart) (hname : name ∈ table.order)
    (hsingle : (table.argument name).multiple = false) {tokens : List String}
    (hfits : table.Fits tokens) (value : Option String) :
    Instance.value? name (table.parse tokens).instances = value ↔
      (table.argument name).form.valuesIn tokens = value.toList := by
  rw [Instance.value?_eq_head?_values, h.values_parse hname hfits]
  constructor
  · rintro rfl
    refine (toList_head? ?_).symm
    rw [← h.values_parse hname hfits, values_of_fits hfits, List.length_map]
    exact hfits.single name hname hsingle
  · intro hvalues
    rw [hvalues, Option.head?_toList]

end Table.Apart

/-! ## Steps of the build -/

/-- The values that the tokens give to an argument of the build, in token order. -/
def BuildArgument.valuesIn (name : BuildArgument) (tokens : List String) : List String :=
  name.argument.form.valuesIn tokens

/-- A refused verdict shows no instance, and an accepted one shows those that were parsed. -/
def Verdict.ShowsParsed {α : Type} (verdict : Verdict α)
    (parsed : List (Instance BuildArgument)) : Prop :=
  (verdict.accepted = none ∧ verdict.instances = []) ∨
    (verdict.accepted.isSome = true ∧ verdict.instances = parsed)

theorem Verdict.ShowsParsed.instances_eq {α : Type} {verdict : Verdict α}
    {parsed : List (Instance BuildArgument)} (h : verdict.ShowsParsed parsed) {result : α}
    (haccepted : verdict.accepted = some result) : verdict.instances = parsed := by
  rcases h with ⟨hnone, -⟩ | ⟨-, hinstances⟩
  · rw [haccepted] at hnone
    cases hnone
  · exact hinstances

theorem Verdict.ShowsParsed.instances_eq_nil {α : Type} {verdict : Verdict α}
    {parsed : List (Instance BuildArgument)} (h : verdict.ShowsParsed parsed)
    (hrefused : verdict.accepted = none) : verdict.instances = [] := by
  rcases h with ⟨-, hinstances⟩ | ⟨hsome, -⟩
  · exact hinstances
  · rw [hrefused] at hsome
    cases hsome

end ArgTable
