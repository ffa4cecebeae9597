-- Tables whose arguments stay out of each other's way. When no argument accepts a literal of
-- another one, a token belongs to the one argument that accepts it, wherever that argument
-- stands in the table. Both tables of the build are so.
import ArgTable.Bootstrap
import ArgTable.Preprocess
import ArgTable.Proofs.Acceptance
import Mathlib.Tactic.ByContra

namespace ArgTable

/-! ## Two forms and one token -/

/-- Of two forms that accept the same token, one accepts a literal of the other. -/
theorem Form.accepts_literal_of_accepts_both {form other : Form} {token : String}
    (h1 : form.Accepts token) (h2 : other.Accepts token) :
    (∃ literal ∈ other.literals, form.Accepts literal) ∨
      ∃ literal ∈ form.literals, other.Accepts literal := by
  cases form with
  | verb literal =>
    right
    obtain rfl : token = literal := h1
    exact ⟨token, List.mem_singleton_self _, h2⟩
  | prefixed literals =>
    obtain ⟨first, hfirst, hopens⟩ := h1
    cases other with
    | verb literal =>
      left
      obtain rfl : token = literal := h2
      exact ⟨token, List.mem_singleton_self _, first, hfirst, hopens⟩
    | prefixed literals' =>
      obtain ⟨second, hsecond, hopens'⟩ := h2
      rcases hopens.comparable hopens' with h | h
      · exact Or.inl ⟨second, hsecond, first, hfirst, h⟩
      · exact Or.inr ⟨first, hfirst, second, hsecond, h⟩

/-! ## Tables -/

namespace Table

variable {ι : Type}

/-- No argument of the table accepts a literal of another one. -/
def Apart (table : Table ι) : Prop :=
  ∀ name ∈ table.order, ∀ other ∈ table.order, name ≠ other →
    ∀ literal ∈ (table.argument other).form.literals,
      ¬ (table.argument name).form.Accepts literal

instance [DecidableEq ι] (table : Table ι) : Decidable table.Apart :=
  inferInstanceAs (Decidable (∀ name ∈ table.order, ∀ other ∈ table.order, name ≠ other →
    ∀ literal ∈ (table.argument other).form.literals,
      ¬ (table.argument name).form.Accepts literal))

/-- At most one argument accepts a token. -/
theorem Apart.accepts_unique {table : Table ι} (h : table.Apart) {token : String} {name other : ι}
    (hname : name ∈ table.order) (hother : other ∈ table.order)
    (h1 : (table.argument name).form.Accepts token)
    (h2 : (table.argument other).form.Accepts token) : name = other := by
  by_contra hne
  rcases Form.accepts_literal_of_accepts_both h1 h2 with ⟨literal, hl, ha⟩ | ⟨literal, hl, ha⟩
  · exact h name hname other hother hne literal hl ha
  · exact h other hother name hname (Ne.symm hne) literal hl ha

/-- A token belongs to an argument exactly when the argument accepts it. -/
theorem Apart.owner?_eq_some_iff {table : Table ι} (h : table.Apart) (token : String) (name : ι) :
    table.owner? token = some name ↔
      name ∈ table.order ∧ (table.argument name).form.Accepts token := by
  unfold owner?
  constructor
  · intro hfind
    exact ⟨List.mem_of_find?_eq_some hfind, by simpa using List.find?_some hfind⟩
  · rintro ⟨hname, haccepts⟩
    rcases hfind : table.order.find? fun name => (table.argument name).form.Accepts token with
      _ | owner
    · simpa [haccepts] using List.find?_eq_none.mp hfind name hname
    · have howner : (table.argument owner).form.Accepts token := by
        simpa using List.find?_some hfind
      rw [h.accepts_unique (List.mem_of_find?_eq_some hfind) hname howner haccepts]

end Table

/-! ## Literals -/

theorem Form.accepts_iff_of_verb {form : Form} (h : form.isVerb = true) (token : String) :
    form.Accepts token ↔ token ∈ form.literals := by
  cases form with
  | verb literal => exact List.mem_singleton.symm
  | prefixed literals => cases h

theorem Form.accepts_iff_of_not_verb {form : Form} (h : form.isVerb = false) (token : String) :
    form.Accepts token ↔ ∃ literal ∈ form.literals, Opens literal token := by
  cases form with
  | verb literal => cases h
  | prefixed literals => rfl

namespace Table

variable {ι : Type}

/-- No literal that stands in front of a value starts a literal of another argument, and no two
verbs are one word. -/
structure LiteralsApart (table : Table ι) : Prop where
  literals : ∀ name ∈ table.order, ∀ other ∈ table.order, name ≠ other →
    (table.argument name).form.isVerb = false →
      ∀ literal ∈ (table.argument name).form.literals,
        ∀ another ∈ (table.argument other).form.literals, ¬ Opens literal another
  verbs : ∀ name ∈ table.order, ∀ other ∈ table.order, name ≠ other →
    (table.argument name).form.isVerb = true → (table.argument other).form.isVerb = true →
      ∀ literal ∈ (table.argument name).form.literals,
        literal ∉ (table.argument other).form.literals

/-- The literals alone decide whether the arguments stay out of each other's way. -/
theorem literalsApart_iff_apart (table : Table ι) : table.LiteralsApart ↔ table.Apart := by
  constructor
  · intro h name hname other hother hne literal hliteral haccepts
    rcases hverb : (table.argument name).form.isVerb with _ | _
    · obtain ⟨first, hfirst, hopens⟩ := (Form.accepts_iff_of_not_verb hverb literal).mp haccepts
      exact h.literals name hname other hother hne hverb first hfirst literal hliteral hopens
    · have hshared := (Form.accepts_iff_of_verb hverb literal).mp haccepts
      rcases hverb' : (table.argument other).form.isVerb with _ | _
      · exact h.literals other hother name hname (Ne.symm hne) hverb' literal hliteral literal
          hshared (Opens.refl literal)
      · exact h.verbs name hname other hother hne hverb hverb' literal hshared hliteral
  · intro h
    constructor
    · intro name hname other hother hne hverb literal hliteral another hanother hopens
      exact h name hname other hother hne another hanother
        ((Form.accepts_iff_of_not_verb hverb another).mpr ⟨literal, hliteral, hopens⟩)
    · intro name hname other hother hne hverb _ literal hliteral hshared
      exact h name hname other hother hne literal hshared
        ((Form.accepts_iff_of_verb hverb literal).mpr hliteral)

end Table

/-! ## The tables of the build -/

theorem Bootstrap.table_apart : Bootstrap.table.Apart := by decide

theorem Preprocess.table_apart : Preprocess.table.Apart := by decide

end ArgTable
