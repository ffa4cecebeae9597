-- What the parses of a run add to their journal. Each parse adds its own errors at the end and
-- leaves every earlier entry as it is, whatever was parsed before. The errors are the unknown
-- tokens, then each token after the first of an argument that may be supplied once, then the
-- required arguments that are left out.
import ArgTable.Proofs.NoticeKinds
import ArgTable.Proofs.QuotedTexts
import Mathlib.Algebra.GroupWithZero.Nat
import Mathlib.Data.List.Nodup

namespace ArgTable.Table

variable {ι : Type} [DecidableEq ι]

/-! ## The errors of one parse -/

/-- The places of the tokens that belong to the argument, in token order. -/
def placesOf (table : Table ι) (tokens : List String) (name : ι) : List (Fin tokens.length) :=
  (List.finRange tokens.length).filter fun place => table.owner? tokens[place] = some name

/-- The arguments that may be supplied once, in table order. -/
def singles (table : Table ι) : List ι :=
  table.order.filter fun name => !(table.argument name).multiple

/-- The second, third and later tokens of each argument that may be supplied once, in table
order and then in token order. -/
def surplus (table : Table ι) (tokens : List String) : List (ι × Fin tokens.length) :=
  table.singles.flatMap fun name => (table.placesOf tokens name).tail.map fun place => (name, place)

/-- The value that the first token of the argument gives to it. -/
def firstValue (table : Table ι) (tokens : List String) (name : ι) : String :=
  ((table.tokensOf tokens name).head?.map (table.valueOf name)).getD ""

def strangerErrors (table : Table ι) (tokens : List String) : List Diagnostic :=
  if table.lenient then []
  else (tokens.filter fun token => table.owner? token = none).map fun token =>
    (Notice.unrecognized token).diagnostic

def repeatErrors (table : Table ι) (tokens : List String) : List Diagnostic :=
  (table.surplus tokens).map fun (name, place) =>
    (Notice.repeated tokens[place] (table.firstValue tokens name)).diagnostic

/-- The required arguments that no token belongs to, in table order. -/
def leftOut (table : Table ι) (tokens : List String) : List ι :=
  table.order.filter fun name =>
    (table.argument name).required && (table.tokensOf tokens name).isEmpty

def missingErrors (table : Table ι) (tokens : List String) : List Diagnostic :=
  (table.leftOut tokens).map fun name =>
    (Notice.missing (table.argument name).description).diagnostic

/-- What a parse should add to the journal. -/
def errors (table : Table ι) (tokens : List String) : List Diagnostic :=
  table.strangerErrors tokens ++ table.repeatErrors tokens ++ table.missingErrors tokens

/-! ## A parse adds these errors -/

theorem map_placesOf (table : Table ι) (tokens : List String) (name : ι) :
    (table.placesOf tokens name).map (fun place => tokens[place]) =
      table.tokensOf tokens name := by
  unfold placesOf tokensOf
  conv_rhs => rw [← List.map_get_finRange tokens, List.filter_map]
  rfl

theorem repeatsOf_diagnostics (table : Table ι) (tokens : List String) (name : ι) :
    (table.repeatsOf (table.matched tokens) name).map (·.diagnostic) =
      if (table.argument name).multiple then []
      else (table.placesOf tokens name).tail.map fun place =>
        (Notice.repeated tokens[place] (table.firstValue tokens name)).diagnostic := by
  rw [repeatsOf_matched]
  split
  · rfl
  · have hplaces := congrArg List.tail (map_placesOf table tokens name)
    rw [← List.map_tail] at hplaces
    unfold firstValue
    rcases h : table.tokensOf tokens name with _ | ⟨first, later⟩
    · rw [h] at hplaces
      simp only [List.tail_nil, List.map_eq_nil_iff] at hplaces
      simp [hplaces]
    · rw [h, List.tail_cons] at hplaces
      simp only [← hplaces, List.map_map, List.head?_cons, Option.map_some, Option.getD_some]
      rfl

theorem repeats_diagnostics (table : Table ι) (tokens : List String) :
    (table.repeats (table.matched tokens)).map (·.diagnostic) = table.repeatErrors tokens := by
  unfold repeats repeatErrors surplus singles
  rw [List.map_flatMap, List.map_flatMap, flatMap_filter]
  congr 1
  funext name
  rw [repeatsOf_diagnostics, List.map_map]
  cases (table.argument name).multiple <;> rfl

theorem notices_diagnostics (table : Table ι) (tokens : List String) :
    (table.notices tokens).map (·.diagnostic) = table.errors tokens := by
  unfold errors
  rw [notices_eq, List.map_append, List.map_append, repeats_diagnostics, missing_matched,
    strangers_eq]
  congr 1
  · congr 1
    unfold strangerErrors
    split <;> simp
  · unfold missingErrors leftOut
    rw [List.map_map]
    rfl

theorem severity_of_mem_errors {table : Table ι} {tokens : List String} {entry : Diagnostic}
    (h : entry ∈ table.errors tokens) : entry.severity = .error := by
  rw [← notices_diagnostics] at h
  obtain ⟨notice, hnotice, rfl⟩ := List.mem_map.mp h
  exact severity_of_mem_notices hnotice

/-! ## How many they are -/

theorem length_surplus (table : Table ι) (tokens : List String) :
    (table.surplus tokens).length =
      (table.singles.map fun name => (table.tokensOf tokens name).length - 1).sum := by
  unfold surplus
  rw [List.length_flatMap]
  congr 2
  funext name
  rw [List.length_map, List.length_tail, ← map_placesOf, List.length_map]

theorem length_errors (table : Table ι) (tokens : List String) :
    (table.errors tokens).length =
      (if table.lenient then 0 else tokens.countP fun token => table.owner? token = none) +
        (table.singles.map fun name => (table.tokensOf tokens name).length - 1).sum +
        (table.leftOut tokens).length := by
  unfold errors strangerErrors repeatErrors missingErrors
  simp only [List.length_append, List.length_map, length_surplus]
  congr 2
  split
  · rfl
  · rw [List.length_map, ← List.countP_eq_length_filter]

theorem length_notices (table : Table ι) (tokens : List String) :
    (table.notices tokens).length =
      (if table.lenient then 0 else tokens.countP fun token => table.owner? token = none) +
        (table.singles.map fun name => (table.tokensOf tokens name).length - 1).sum +
        (table.leftOut tokens).length := by
  rw [← length_errors, ← notices_diagnostics, List.length_map]

/-- No token is told twice: it belongs to one argument only, and the table lists that argument
once. -/
theorem surplus_places_nodup (table : Table ι) (tokens : List String) :
    ((table.surplus tokens).map (·.2)).Nodup := by
  have hplaces : (table.surplus tokens).map (·.2) =
      table.singles.flatMap fun name => (table.placesOf tokens name).tail := by
    unfold surplus
    simp [List.map_flatMap, Function.comp_def]
  rw [hplaces, List.nodup_flatMap]
  constructor
  · intro name _
    exact (((List.nodup_finRange _).filter _).sublist (List.tail_sublist _))
  · have hdistinct : table.singles.Nodup := table.distinct.filter _
    refine List.Pairwise.imp ?_ hdistinct
    intro name other hne place hname hother
    -- a place on both lists would belong to both arguments
    have hown := (List.mem_filter.mp (List.mem_of_mem_tail hname)).2
    have hown' := (List.mem_filter.mp (List.mem_of_mem_tail hother)).2
    simp only [decide_eq_true_eq] at hown hown'
    rw [hown] at hown'
    exact hne (Option.some.inj hown')

/-! ## Runs -/

/-- The journal that the parses leave. -/
def journalAfter (table : Table ι) (journal : Journal) (runs : List (List String)) : Journal :=
  runs.foldl (fun journal tokens => (table.parseInto journal tokens).2) journal

theorem parseInto_entries (table : Table ι) (journal : Journal) (tokens : List String) :
    (table.parseInto journal tokens).2.entries = journal.entries ++ table.errors tokens := by
  rw [← notices_diagnostics]
  rfl

theorem parseAll_append (table : Table ι) (journal : Journal)
    (earlier later : List (List String)) :
    table.parseAll journal (earlier ++ later) =
      table.parseAll journal earlier ++
        table.parseAll (table.journalAfter journal earlier) later := by
  induction earlier generalizing journal with
  | nil => rfl
  | cons tokens earlier ih =>
    simp only [List.cons_append, parseAll, ih]
    rfl

/-- A parse within a run, with any parses before it and after it. It leaves the entries before
it as they are and adds exactly its own errors, which are errors only and tell no token
twice. They are the messages of its notices, and each message holds the texts that its notice is
about. Its success and its instances are those of a parse over an empty journal. -/
theorem each_parse_of_a_run_adds_its_own_errors (table : Table ι) (journal : Journal)
    (earlier later : List (List String)) (tokens : List String) :
    ∃ outcome before after,
      before = table.journalAfter journal earlier ∧
      table.parseAll journal (earlier ++ tokens :: later) =
        table.parseAll journal earlier ++ (outcome, after) :: table.parseAll after later ∧
      after.entries = before.entries ++ table.errors tokens ∧
      (∀ entry ∈ table.errors tokens, entry.severity = .error) ∧
      outcome.notices.map (·.diagnostic) = table.errors tokens ∧
      (∀ notice ∈ outcome.notices, ∀ text ∈ notice.texts,
        Journal.mentions notice.message text = true) ∧
      (table.errors tokens).length =
        (if table.lenient then 0 else tokens.countP fun token => table.owner? token = none) +
          (table.singles.map fun name => (table.tokensOf tokens name).length - 1).sum +
          (table.leftOut tokens).length ∧
      ((table.surplus tokens).map (·.2)).Nodup ∧
      outcome.success = (table.parseInto {} tokens).1.success ∧
      outcome.instances = (table.parseInto {} tokens).1.instances := by
  refine ⟨_, table.journalAfter journal earlier, _, rfl, parseAll_append table journal earlier _,
    ?_, ?_, ?_, ?_, ?_, ?_, rfl, rfl⟩
  · exact parseInto_entries table _ tokens
  · intro entry h
    exact severity_of_mem_errors h
  · exact notices_diagnostics table tokens
  · intro notice _
    exact notice.mentions_of_mem_texts
  · exact length_errors table tokens
  · exact surplus_places_nodup table tokens

end ArgTable.Table
