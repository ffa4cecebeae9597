-- What is looked up in a parse that goes through. The look-ups of an argument find the values of
-- its own tokens, all of them and no others, and look-ups that go over the whole table find each
-- instance once. Arguments that look the same are told apart by their names.
import ArgTable.Proofs.Acceptance
import Mathlib.Algebra.GroupWithZero.Nat
import Mathlib.Data.List.Nodup

namespace ArgTable

/-! ## Look-ups -/

namespace Instance

variable {ι : Type} [DecidableEq ι]

theorem supplied_iff_values_ne_nil (name : ι) (instances : List (Instance ι)) :
    supplied name instances = true ↔ values name instances ≠ [] := by
  rw [supplied_eq_isSome_value?, value?_eq_head?_values, List.isSome_head?]

theorem values_ne_nil_iff (name : ι) (instances : List (Instance ι)) :
    values name instances ≠ [] ↔ ∃ value, value? name instances = some value := by
  rw [← supplied_iff_values_ne_nil, supplied_eq_isSome_value?, Option.isSome_iff_exists]

/-- Distinct names that cover the instances part them: each instance stands with one name. -/
theorem parted_perm {names : List ι} (hdistinct : names.Nodup) {instances : List (Instance ι)}
    (h : ∀ found ∈ instances, found.name ∈ names) :
    (names.flatMap fun name => instances.filter (·.name = name)).Perm instances := by
  induction instances with
  | nil => simp
  | cons found instances ih =>
    have hrest := ih fun other hmem => h other (List.mem_cons_of_mem _ hmem)
    obtain ⟨before, after, rfl⟩ := List.append_of_mem (h found List.mem_cons_self)
    -- the names around the one of `found` keep the instances that they have
    have haround : ∀ others : List ι, found.name ∉ others →
        (others.flatMap fun name => (found :: instances).filter (·.name = name)) =
          others.flatMap fun name => instances.filter (·.name = name) := by
      intro others hnot
      apply List.flatMap_congr
      intro name hmem
      exact List.filter_cons_of_neg (by simpa using fun heq : found.name = name => hnot (heq ▸ hmem))
    obtain ⟨-, hafter, hbefore⟩ := List.nodup_append.mp hdistinct
    rw [List.flatMap_append, List.flatMap_cons] at hrest ⊢
    rw [haround before fun hmem => hbefore _ hmem _ List.mem_cons_self rfl,
      haround after (List.nodup_cons.mp hafter).1, List.filter_cons_of_pos (by simp),
      List.cons_append]
    exact List.perm_middle.trans (hrest.cons found)

end Instance

/-! ## Parses -/

namespace Table

variable {ι : Type} [DecidableEq ι]

theorem name_mem_of_mem_instances {table : Table ι} {tokens : List String} {found : Instance ι}
    (h : found ∈ (table.parse tokens).instances) : found.name ∈ table.order := by
  by_cases hfits : table.Fits tokens
  · rw [instances_of_fits hfits] at h
    obtain ⟨token, -, howner⟩ := List.mem_filterMap.mp h
    obtain ⟨name, hname, rfl⟩ := Option.map_eq_some_iff.mp howner
    exact List.mem_of_find?_eq_some hname
  · rw [instances_of_not_fits hfits] at h
    cases h

/-- The look-ups of the argument read the tokens that belong to it. -/
structure LooksUp (table : Table ι) (tokens : List String) (name : ι) : Prop where
  values : Instance.values name (table.parse tokens).instances =
    (tokens.filter fun token => table.owner? token = some name).map (table.valueOf name)
  supplied : Instance.supplied name (table.parse tokens).instances = true ↔
    Instance.values name (table.parse tokens).instances ≠ []
  found : Instance.values name (table.parse tokens).instances ≠ [] ↔
    ∃ value, Instance.value? name (table.parse tokens).instances = some value
  first : Instance.value? name (table.parse tokens).instances =
    (Instance.values name (table.parse tokens).instances).head?
  single : (table.argument name).multiple = false →
    (Instance.values name (table.parse tokens).instances).length ≤ 1
  required : (table.argument name).required = true →
    1 ≤ (Instance.values name (table.parse tokens).instances).length

theorem Fits.looksUp {table : Table ι} {tokens : List String} (h : table.Fits tokens) {name : ι}
    (hname : name ∈ table.order) : table.LooksUp tokens name where
  values := values_of_fits h name
  supplied := Instance.supplied_iff_values_ne_nil name _
  found := Instance.values_ne_nil_iff name _
  first := Instance.value?_eq_head?_values name _
  single := by
    rw [values_of_fits h, List.length_map]
    exact h.single name hname
  required := by
    rw [values_of_fits h, List.length_map]
    exact h.supplied name hname

/-! ## The law -/

/-- When a parse goes through, the look-ups of each argument read the tokens that belong to it.
Each instance is one of exactly one argument of the table, and the instances that the arguments
look up are all instances, each once. So the numbers of values add up to that of the instances. -/
theorem each_argument_looks_up_its_own_tokens (table : Table ι) {tokens : List String}
    (h : (table.parse tokens).success = true) :
    (∀ name ∈ table.order, table.LooksUp tokens name) ∧
      (∀ found ∈ (table.parse tokens).instances,
        ∃! name, name ∈ table.order ∧ Instance.supplied name [found] = true) ∧
      (table.order.flatMap fun name =>
        (table.parse tokens).instances.filter (·.name = name)).Perm
          (table.parse tokens).instances ∧
      (table.order.map fun name =>
        (Instance.values name (table.parse tokens).instances).length).sum =
          (table.parse tokens).instances.length := by
  have hparted : (table.order.flatMap fun name =>
      (table.parse tokens).instances.filter (·.name = name)).Perm (table.parse tokens).instances :=
    Instance.parted_perm table.distinct fun _ => name_mem_of_mem_instances
  refine ⟨fun name hname => ((success_iff table tokens).mp h).looksUp hname, ?_, hparted, ?_⟩
  · intro found hmem
    refine ⟨found.name, ⟨name_mem_of_mem_instances hmem, by simp [Instance.supplied]⟩, ?_⟩
    rintro name ⟨-, hsupplied⟩
    simpa [Instance.supplied, eq_comm] using hsupplied
  · rw [← hparted.length_eq, List.length_flatMap]
    congr 2
    funext name
    exact List.length_map _

/-- Two arguments that look the same. The first one is the one that is required. -/
def alike : Table Bool where
  argument name :=
    { form := .prefixed ["/a:"], description := "an item", required := name, multiple := true,
      faultless := by decide }
  order := [true, false]
  distinct := by decide
  lenient := true

/-- The first of the two has all tokens, and the other one none. -/
theorem alike_arguments_look_up_their_own_tokens :
    (alike.parse ["/a:x", "go", "/a:y"]).success = true ∧
      alike.LooksUp ["/a:x", "go", "/a:y"] true ∧ alike.LooksUp ["/a:x", "go", "/a:y"] false ∧
      Instance.values true (alike.parse ["/a:x", "go", "/a:y"]).instances = ["x", "y"] ∧
      Instance.values false (alike.parse ["/a:x", "go", "/a:y"]).instances = [] ∧
      (alike.order.map fun name =>
        (Instance.values name (alike.parse ["/a:x", "go", "/a:y"]).instances).length).sum =
          (alike.parse ["/a:x", "go", "/a:y"]).instances.length := by
  have hsuccess : (alike.parse ["/a:x", "go", "/a:y"]).success = true := by decide +kernel
  obtain ⟨hlooks, -, -, hsum⟩ := each_argument_looks_up_its_own_tokens alike hsuccess
  exact ⟨hsuccess, hlooks true (by decide), hlooks false (by decide), by decide +kernel,
    by decide +kernel, hsum⟩

end Table

end ArgTable
