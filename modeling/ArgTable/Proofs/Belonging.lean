-- Whose a token is. A token belongs to the first argument in table order that accepts it, and
-- it gives that argument a value. Both are said here of the texts alone, and what a table
-- recognizes, matches and passes over is told in these words.
import ArgTable.Proofs.Tallies
import Mathlib.Data.List.Basic

namespace ArgTable

/-! ## Literals and tokens -/

/-- A literal has a remainder exactly in the tokens that it opens. -/
theorem remainder?_eq_some_iff (literal token value : String) :
    remainder? literal token = some value ↔ token = literal ++ value := by
  simp only [remainder?, Option.map_eq_some_iff, List.isPrefixOf?_eq_some_iff_append_eq]
  constructor
  · rintro ⟨rest, h, rfl⟩
    rw [← String.toList_inj, String.toList_append, String.toList_ofList, h]
  · rintro rfl
    exact ⟨value.toList, String.toList_append.symm, String.ofList_toList⟩

/-- The token starts with the literal. -/
def Opens (literal token : String) : Prop := ∃ rest, token = literal ++ rest

theorem isSome_remainder?_iff (literal token : String) :
    (remainder? literal token).isSome = true ↔ Opens literal token := by
  simp only [Option.isSome_iff_exists, remainder?_eq_some_iff, Opens]

instance (literal token : String) : Decidable (Opens literal token) :=
  decidable_of_iff _ (isSome_remainder?_iff literal token)

theorem opens_iff_isPrefix (literal token : String) :
    Opens literal token ↔ literal.toList <+: token.toList := by
  constructor
  · rintro ⟨rest, rfl⟩
    exact ⟨rest.toList, String.toList_append.symm⟩
  · rintro ⟨rest, h⟩
    refine ⟨String.ofList rest, ?_⟩
    rw [← String.toList_inj, String.toList_append, String.toList_ofList, h]

theorem Opens.refl (literal : String) : Opens literal literal := ⟨"", by simp⟩

theorem Opens.append {literal token : String} (h : Opens literal token) (more : String) :
    Opens literal (token ++ more) := by
  obtain ⟨rest, rfl⟩ := h
  exact ⟨rest ++ more, String.append_assoc⟩

/-- Of two literals that a token starts with, one starts with the other. -/
theorem Opens.comparable {first second token : String} (h1 : Opens first token)
    (h2 : Opens second token) : Opens first second ∨ Opens second first := by
  simp only [opens_iff_isPrefix] at *
  exact List.prefix_or_prefix_of_prefix h1 h2

theorem remainder?_of_opens {literal token : String} (h : Opens literal token) :
    remainder? literal token =
      some (String.ofList (token.toList.drop literal.toList.length)) := by
  obtain ⟨rest, rfl⟩ := h
  rw [remainder?_eq_some_iff, String.toList_append, List.drop_left, String.ofList_toList]

theorem remainder?_of_not_opens {literal token : String} (h : ¬ Opens literal token) :
    remainder? literal token = none := by
  rw [← isSome_remainder?_iff] at h
  simpa using h

namespace Form

/-- A verb is the whole token, and a value stands behind one of the literals. -/
def Accepts : Form → String → Prop
  | verb literal, token => token = literal
  | prefixed literals, token => ∃ literal ∈ literals, Opens literal token

instance : (form : Form) → (token : String) → Decidable (form.Accepts token)
  | verb literal, token => inferInstanceAs (Decidable (token = literal))
  | prefixed literals, token =>
    inferInstanceAs (Decidable (∃ literal ∈ literals, Opens literal token))

/-- The empty text for a verb, and else the token without the first literal that it starts
with. -/
def valueOf : Form → String → String
  | verb _, _ => ""
  | prefixed literals, token =>
    match literals.find? (Opens · token) with
    | some literal => String.ofList (token.toList.drop literal.toList.length)
    | none => ""

theorem findSome?_remainder? (literals : List String) (token : String) :
    literals.findSome? (remainder? · token) =
      (literals.find? (Opens · token)).map fun literal =>
        String.ofList (token.toList.drop literal.toList.length) := by
  induction literals with
  | nil => rfl
  | cons literal literals ih =>
    by_cases h : Opens literal token
    · simp [h, remainder?_of_opens h]
    · simp [h, remainder?_of_not_opens h, ih]

/-- A form reads a value exactly from the tokens that it accepts. -/
theorem accept?_eq (form : Form) (token : String) :
    form.accept? token = if form.Accepts token then some (form.valueOf token) else none := by
  cases form with
  | verb literal => rfl
  | prefixed literals =>
    simp only [accept?, valueOf, findSome?_remainder?]
    rcases h : literals.find? (Opens · token) with _ | literal
    · have hnone : ¬ (prefixed literals).Accepts token := by
        rintro ⟨literal, hmem, hopens⟩
        simpa [hopens] using List.find?_eq_none.mp h literal hmem
      rw [if_neg hnone]
      rfl
    · have hsome : (prefixed literals).Accepts token :=
        ⟨literal, List.mem_of_find?_eq_some h, by simpa using List.find?_some h⟩
      rw [if_pos hsome]
      rfl

end Form

/-! ## Owners -/

namespace Table

variable {ι : Type}

/-- The first argument in table order that accepts the token. -/
def owner? (table : Table ι) (token : String) : Option ι :=
  table.order.find? fun name => (table.argument name).form.Accepts token

/-- The value that the token gives to the argument. -/
def valueOf (table : Table ι) (name : ι) (token : String) : String :=
  (table.argument name).form.valueOf token

/-- The instance of a token is the one of its owner. -/
theorem recognize?_eq (table : Table ι) (token : String) :
    table.recognize? token =
      (table.owner? token).map fun name => ⟨name, table.valueOf name token⟩ := by
  unfold recognize? owner? valueOf Argument.accept?
  induction table.order with
  | nil => rfl
  | cons name names ih =>
    rw [List.findSome?_cons, List.find?_cons, Form.accept?_eq]
    by_cases h : (table.argument name).form.Accepts token
    · simp [h]
    · simpa [h] using ih

theorem strangers_eq (table : Table ι) (tokens : List String) :
    table.strangers tokens = tokens.filter fun token => table.owner? token = none := by
  unfold strangers
  congr 1
  funext token
  rw [recognize?_eq]
  cases table.owner? token <;> rfl

theorem instances_matched (table : Table ι) (tokens : List String) :
    (table.matched tokens).map (·.2) =
      tokens.filterMap fun token =>
        (table.owner? token).map fun name => ⟨name, table.valueOf name token⟩ := by
  unfold matched
  rw [List.map_filterMap]
  congr 1
  funext token
  rw [recognize?_eq]
  cases table.owner? token <;> rfl

variable [DecidableEq ι]

/-- The tokens that belong to the argument, in token order. -/
def tokensOf (table : Table ι) (tokens : List String) (name : ι) : List String :=
  tokens.filter fun token => table.owner? token = some name

theorem tokensOf_append (table : Table ι) (tokens more : List String) (name : ι) :
    table.tokensOf (tokens ++ more) name =
      table.tokensOf tokens name ++ table.tokensOf more name :=
  List.filter_append tokens more

theorem tokensOf_cons_of_pos {table : Table ι} {name : ι} {token : String}
    (h : table.owner? token = some name) (tokens : List String) :
    table.tokensOf (token :: tokens) name = token :: table.tokensOf tokens name :=
  List.filter_cons_of_pos (decide_eq_true h)

theorem tokensOf_cons_of_neg {table : Table ι} {name : ι} {token : String}
    (h : table.owner? token ≠ some name) (tokens : List String) :
    table.tokensOf (token :: tokens) name = table.tokensOf tokens name :=
  List.filter_cons_of_neg (by simpa using h)

theorem length_tokensOf {table : Table ι} {name : ι} {p : String → Bool} (tokens : List String)
    (h : ∀ token, table.owner? token = some name ↔ p token = true) :
    (table.tokensOf tokens name).length = tokens.countP p := by
  unfold tokensOf
  rw [← List.countP_eq_length_filter]
  congr 1
  funext token
  rw [Bool.eq_iff_iff, decide_eq_true_eq, h]

theorem matched_filter (table : Table ι) (tokens : List String) (name : ι) :
    (table.matched tokens).filter (fun pair => pair.2.name = name) =
      (table.tokensOf tokens name).map fun token => (token, ⟨name, table.valueOf name token⟩) := by
  unfold matched tokensOf
  induction tokens with
  | nil => rfl
  | cons token tokens ih =>
    rcases h : table.owner? token with _ | owner
    · simpa [recognize?_eq, h] using ih
    · by_cases hn : owner = name
      · subst hn
        simpa [recognize?_eq, h] using ih
      · simpa [recognize?_eq, h, hn] using ih

/-- The matched tokens show an argument exactly when one of the tokens belongs to it. -/
theorem matched_any (table : Table ι) (tokens : List String) (name : ι) :
    ((table.matched tokens).any fun pair => pair.2.name = name) =
      !(table.tokensOf tokens name).isEmpty := by
  have h := congrArg List.isEmpty (matched_filter table tokens name)
  rw [List.isEmpty_map] at h
  rw [← h, Bool.eq_iff_iff, List.any_eq_true]
  simp [List.filter_eq_nil_iff]

/-! ## What a table says of the owners -/

theorem repeatsOf_matched (table : Table ι) (tokens : List String) (name : ι) :
    table.repeatsOf (table.matched tokens) name =
      if (table.argument name).multiple then []
      else match table.tokensOf tokens name with
        | [] => []
        | first :: later => later.map fun token => .repeated token (table.valueOf name first) := by
  unfold repeatsOf
  rw [matched_filter]
  split
  · rfl
  · rcases table.tokensOf tokens name with _ | ⟨first, later⟩
    · rfl
    · simp

theorem missing_matched (table : Table ι) (tokens : List String) :
    table.missing (table.matched tokens) =
      (table.order.filter fun name =>
        (table.argument name).required && (table.tokensOf tokens name).isEmpty).map fun name =>
          .missing (table.argument name).description := by
  unfold missing
  simp only [matched_any, Bool.not_not]

end Table

end ArgTable
