-- Arguments that never get a token. An argument is shadowed when arguments before it take every
-- token that it accepts, which can be seen from the literals alone. No parse gives an instance of
-- it. If it is required, every parse fails and tells it as missing, and if it is not, the table
-- without it reads and tells the same.
import ArgTable.Proofs.Acceptance
import ArgTable.Proofs.QuotedTexts

namespace ArgTable

/-! ## Literals behind others -/

/-- The form is not a verb, and the literal starts with one of its literals. -/
def Form.Covers (form : Form) (literal : String) : Prop :=
  form.isVerb = false ∧ ∃ first ∈ form.literals, Opens first literal

instance (form : Form) (literal : String) : Decidable (form.Covers literal) :=
  inferInstanceAs (Decidable (_ ∧ _))

theorem Form.Covers.accepts {form : Form} {literal token : String} (h : form.Covers literal)
    (hopens : Opens literal token) : form.Accepts token := by
  obtain ⟨hverb, first, hfirst, rest, rfl⟩ := h
  cases form with
  | verb word => cases hverb
  | prefixed literals =>
    obtain ⟨more, rfl⟩ := hopens
    exact ⟨first, hfirst, rest ++ more, String.append_assoc⟩

theorem Form.exists_opens_of_accepts {form : Form} {token : String} (h : form.Accepts token) :
    ∃ literal ∈ form.literals, Opens literal token := by
  cases form with
  | verb word => exact ⟨word, List.mem_singleton_self word, h ▸ Opens.refl _⟩
  | prefixed literals => exact h

namespace Table

variable {ι : Type}

/-- The arguments take every literal of the form: each starts with a literal of one of them that
is not a verb, or the form is a verb and one of them is the same word. -/
def Take (table : Table ι) (names : List ι) (form : Form) : Prop :=
  (∀ literal ∈ form.literals, ∃ name ∈ names, (table.argument name).form.Covers literal) ∨
    form.isVerb = true ∧ ∃ name ∈ names, (table.argument name).form = form

instance (table : Table ι) (names : List ι) (form : Form) : Decidable (table.Take names form) :=
  inferInstanceAs (Decidable (_ ∨ _))

/-- Arguments that take the literals of a form accept its tokens. -/
theorem Take.accepts {table : Table ι} {names : List ι} {form : Form} {token : String}
    (h : table.Take names form) (haccepts : form.Accepts token) :
    ∃ name ∈ names, (table.argument name).form.Accepts token := by
  rcases h with hcovered | ⟨-, name, hname, hform⟩
  · obtain ⟨literal, hliteral, hopens⟩ := Form.exists_opens_of_accepts haccepts
    obtain ⟨name, hname, hcovers⟩ := hcovered literal hliteral
    exact ⟨name, hname, hcovers.accepts hopens⟩
  · exact ⟨name, hname, hform.symm ▸ haccepts⟩

/-- The arguments before this one in the table take all its literals. -/
def Shadowed (table : Table ι) (name : ι) : Prop :=
  ∃ before after, table.order = before ++ name :: after ∧
    table.Take before (table.argument name).form

variable [DecidableEq ι]

/-- The table without the argument. -/
def without (table : Table ι) (name : ι) : Table ι :=
  { table with order := table.order.erase name, distinct := table.distinct.erase name }

theorem order_without {table : Table ι} {name : ι} {before after : List ι}
    (h : table.order = before ++ name :: after) :
    (table.without name).order = before ++ after := by
  have hdistinct := table.distinct
  rw [h] at hdistinct
  have hnot : name ∉ before := fun hmem =>
    (List.nodup_append.mp hdistinct).2.2 name hmem name List.mem_cons_self rfl
  change table.order.erase name = before ++ after
  rw [h, List.erase_append_right _ hnot, List.erase_cons_head]

/-! ## The tokens -/

section
variable {table : Table ι} {name : ι} (h : table.Shadowed name)
include h

theorem Shadowed.owner?_without (token : String) :
    (table.without name).owner? token = table.owner? token := by
  obtain ⟨before, after, horder, htake⟩ := h
  unfold owner?
  rw [order_without horder, horder, List.find?_append, List.find?_append]
  by_cases haccepts : (table.argument name).form.Accepts token
  · -- an argument before it has the token already
    obtain ⟨earlier, hmem, htakes⟩ := htake.accepts haccepts
    have hsome : (before.find? fun name => (table.argument name).form.Accepts token).isSome := by
      rw [List.isSome_find?, List.any_eq_true]
      exact ⟨earlier, hmem, decide_eq_true htakes⟩
    exact (Option.or_of_isSome hsome).trans (Option.or_of_isSome hsome).symm
  · rw [List.find?_cons_of_neg (by simpa using haccepts)]
    rfl

/-- No token belongs to a shadowed argument. -/
theorem Shadowed.owner?_ne (token : String) : table.owner? token ≠ some name := by
  rw [← h.owner?_without]
  intro howner
  exact table.distinct.not_mem_erase (List.mem_of_find?_eq_some howner)

theorem Shadowed.tokensOf_eq_nil (tokens : List String) : table.tokensOf tokens name = [] := by
  unfold tokensOf
  simp [h.owner?_ne]

theorem Shadowed.recognize?_without (token : String) :
    (table.without name).recognize? token = table.recognize? token := by
  rw [recognize?_eq, recognize?_eq, h.owner?_without]
  rfl

theorem Shadowed.matched_without (tokens : List String) :
    (table.without name).matched tokens = table.matched tokens := by
  unfold matched
  simp only [h.recognize?_without]

theorem Shadowed.strangers_without (tokens : List String) :
    (table.without name).strangers tokens = table.strangers tokens := by
  unfold strangers
  simp only [h.recognize?_without]

theorem Shadowed.traceOf_without (token : String) :
    (table.without name).traceOf token = table.traceOf token := by
  unfold traceOf
  rw [h.recognize?_without]
  rfl

theorem Shadowed.name_ne {token : String} {found : Instance ι}
    (hfound : table.recognize? token = some found) : found.name ≠ name := by
  rw [recognize?_eq] at hfound
  obtain ⟨owner, howner, rfl⟩ := Option.map_eq_some_iff.mp hfound
  rintro rfl
  exact h.owner?_ne token howner

/-! ## What is told -/

theorem Shadowed.repeats_without (tokens : List String) :
    (table.without name).repeats (table.matched tokens) =
      table.repeats (table.matched tokens) := by
  have hnone : table.repeatsOf (table.matched tokens) name = [] := by
    rw [repeatsOf_eq_nil_iff, h.tokensOf_eq_nil]
    exact fun _ => Nat.zero_le 1
  obtain ⟨before, after, horder, -⟩ := h
  unfold repeats
  rw [order_without horder, horder, List.flatMap_append, List.flatMap_append, List.flatMap_cons,
    hnone]
  rfl

/-- A shadowed argument that is required is always missing. -/
theorem Shadowed.missing_without (tokens : List String) : ∃ before after,
    table.missing (table.matched tokens) = before ++
      (if (table.argument name).required then [.missing (table.argument name).description] else [])
        ++ after ∧
    (table.without name).missing (table.matched tokens) = before ++ after := by
  have hnone := matched_any table tokens name
  rw [h.tokensOf_eq_nil] at hnone
  obtain ⟨before, after, horder, -⟩ := h
  unfold missing
  rw [order_without horder, horder, List.filter_append, List.filter_append, List.map_append,
    List.map_append, List.filter_cons, hnone]
  refine ⟨_, _, ?_, rfl⟩
  rw [List.append_assoc]
  congr 1
  cases (table.argument name).required <;> rfl

/-- The table tells what the table without the argument tells, and that the argument is missing
if it is required. -/
theorem Shadowed.notices_without (tokens : List String) : ∃ before after,
    table.notices tokens = before ++
      (if (table.argument name).required then [.missing (table.argument name).description] else [])
        ++ after ∧
    (table.without name).notices tokens = before ++ after := by
  obtain ⟨before, after, hmissing, hmissing'⟩ := h.missing_without tokens
  refine ⟨(if table.lenient then [] else (table.strangers tokens).map .unrecognized) ++
    table.repeats (table.matched tokens) ++ before, after, ?_, ?_⟩
  · rw [notices_eq]
    simp only [hmissing, List.append_assoc]
  · rw [notices_eq, h.matched_without, h.strangers_without, h.repeats_without, hmissing',
      ← List.append_assoc]
    rfl

/-- A shadowed argument that is not required can be left out of the table. -/
theorem Shadowed.parse_without (hrequired : (table.argument name).required = false)
    (tokens : List String) : (table.without name).parse tokens = table.parse tokens := by
  obtain ⟨before, after, hnotices, hnotices'⟩ := h.notices_without tokens
  have hsame : (table.without name).notices tokens = table.notices tokens := by
    rw [hnotices, hnotices', hrequired]
    simp
  unfold parse trace
  rw [check_eq, check_eq, hsame, h.matched_without, funext h.traceOf_without]

end

/-! ## The law -/

/-- Over any journal and any tokens, with unknown tokens told or passed over, no token is read as
a shadowed argument and no parse gives an instance of it. If it is required, the parse fails and
tells that it is missing, with its description, beside what the table without it tells. If it is
not, the table without it gives the same outcome and leaves the same journal. -/
theorem a_shadowed_argument_is_never_read (table : Table ι) {name : ι} (h : table.Shadowed name)
    (journal : Journal) (tokens : List String) :
    let run := table.parseInto journal tokens
    let rest := (table.without name).parseInto journal tokens
    (∀ token found, table.recognize? token = some found → found.name ≠ name) ∧
      (∀ found ∈ run.1.instances, found.name ≠ name) ∧
      ((table.argument name).required = true →
        run.1.success = false ∧
        Journal.mentions (Notice.missing (table.argument name).description).message
          (table.argument name).description = true ∧ ∃ before after,
          run.2.entries = journal.entries ++ before ++
            (Notice.missing (table.argument name).description).diagnostic :: after ∧
          rest.2.entries = journal.entries ++ before ++ after) ∧
      ((table.argument name).required = false → run = rest) := by
  refine ⟨fun _ _ => h.name_ne, ?_, ?_, ?_⟩
  · intro found hmem
    by_cases hfits : table.Fits tokens
    · rw [parseInto, instances_eq_filterMap_recognize? hfits] at hmem
      obtain ⟨token, -, hfound⟩ := List.mem_filterMap.mp hmem
      exact h.name_ne hfound
    · rw [parseInto, instances_of_not_fits hfits] at hmem
      cases hmem
  · intro hrequired
    obtain ⟨before, after, hnotices, hnotices'⟩ := h.notices_without tokens
    rw [if_pos hrequired, List.append_assoc] at hnotices
    refine ⟨?_, ?_, before.map (·.diagnostic), after.map (·.diagnostic), ?_, ?_⟩
    · rw [parseInto, success_eq, hnotices]
      simp
    · exact Notice.mentions_of_mem_texts _ _ (List.mem_singleton_self _)
    · change journal.entries ++ (table.notices tokens).map (·.diagnostic) = _
      rw [hnotices, List.map_append, List.append_assoc]
      rfl
    · change journal.entries ++ ((table.without name).notices tokens).map (·.diagnostic) = _
      rw [hnotices', List.map_append, List.append_assoc]
  · intro hrequired
    unfold parseInto
    rw [h.parse_without hrequired]

/-- An argument with two literals behind a shorter one, and a verb that comes again. -/
def crowdedOut : Table (Fin 4) where
  argument
    | 0 => { form := .prefixed ["/a"], description := "an item", multiple := true,
             faultless := by decide }
    | 1 => { form := .verb "go", description := "a start", faultless := by decide }
    | 2 => { form := .prefixed ["/all:", "/a"], description := "a list", required := true,
             faultless := by decide }
    | 3 => { form := .verb "go", description := "another start", faultless := by decide }
  order := [0, 1, 2, 3]
  distinct := by decide
  lenient := false

/-- Of a required argument that is shadowed, and of one that is not required. -/
theorem crowded_out_arguments_are_never_read :
    crowdedOut.Shadowed 2 ∧ (crowdedOut.argument 2).required = true ∧
      (crowdedOut.parse ["/all:x", "go"]).success = false ∧
      crowdedOut.Shadowed 3 ∧ (crowdedOut.argument 3).required = false ∧
      crowdedOut.parseInto {} ["/all:x", "go", "x"] =
        (crowdedOut.without 3).parseInto {} ["/all:x", "go", "x"] := by
  have htwo : crowdedOut.Shadowed 2 := ⟨[0, 1], [3], rfl, by decide +kernel⟩
  have hthree : crowdedOut.Shadowed 3 := ⟨[0, 1, 2], [], rfl, by decide +kernel⟩
  obtain ⟨-, -, hmissing, -⟩ :=
    a_shadowed_argument_is_never_read crowdedOut htwo {} ["/all:x", "go"]
  obtain ⟨-, -, -, hsame⟩ :=
    a_shadowed_argument_is_never_read crowdedOut hthree {} ["/all:x", "go", "x"]
  exact ⟨htwo, rfl, (hmissing rfl).1, hthree, rfl, hsame rfl⟩

end Table

end ArgTable
