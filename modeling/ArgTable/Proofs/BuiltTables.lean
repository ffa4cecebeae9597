-- How tables are built. A list of arguments makes a table exactly when no argument is listed again,
-- however much alike they look, and else the first that is listed again is told. So every table
-- goes over each of its arguments once, and a parse tells no repeated token and no missing argument
-- twice.
import ArgTable.Proofs.JournalRuns

namespace ArgTable.Table

variable {ι : Type} [DecidableEq ι]

/-! ## Building -/

theorem build_eq_ok_iff (argument : ι → Argument) (order : List ι) (lenient : Bool)
    (table : Table ι) : build argument order lenient = .ok table ↔
      table.argument = argument ∧ table.order = order ∧ table.lenient = lenient := by
  constructor
  · intro h
    unfold build at h
    split at h
    · cases h
    · cases h
      exact ⟨rfl, rfl, rfl⟩
  · rintro ⟨rfl, rfl, rfl⟩
    exact build_eq_ok table

theorem exists_build_iff (argument : ι → Argument) (order : List ι) (lenient : Bool) :
    (∃ table, build argument order lenient = .ok table) ↔ order.Nodup := by
  constructor
  · rintro ⟨table, h⟩
    obtain ⟨-, rfl, -⟩ := (build_eq_ok_iff argument order lenient table).mp h
    exact table.distinct
  · intro distinct
    exact ⟨_, build_eq_ok { argument, order, lenient, distinct }⟩

/-- What is listed again is told by the first entry that stands before already. -/
theorem build_eq_error_iff (argument : ι → Argument) (order : List ι) (lenient : Bool)
    (fault : Fault) : build argument order lenient = .error fault ↔
      ∃ before name after, order = before ++ name :: after ∧ name ∈ before ∧ before.Nodup ∧
        fault = .repeatedArgument (argument name).id (argument name).description := by
  have hrepeats := firstRepeat?_eq_some_iff order
  unfold build
  split
  · next repeated hrepeat =>
    constructor
    · intro h
      obtain ⟨before, after, hsplit, hmem, hdistinct⟩ := (hrepeats repeated).mp hrepeat
      cases h
      exact ⟨before, repeated, after, hsplit, hmem, hdistinct, rfl⟩
    · rintro ⟨before, name, after, hsplit, hmem, hdistinct, rfl⟩
      have hname := (hrepeats name).mpr ⟨before, after, hsplit, hmem, hdistinct⟩
      rw [hrepeat] at hname
      cases hname
      rfl
  · next hnone =>
    constructor
    · intro h
      cases h
    · rintro ⟨before, name, after, hsplit, hmem, hdistinct, -⟩
      have hname := (hrepeats name).mpr ⟨before, after, hsplit, hmem, hdistinct⟩
      rw [hnone] at hname
      cases hname

theorem exists_build_error_iff (argument : ι → Argument) (order : List ι) (lenient : Bool) :
    (∃ fault, build argument order lenient = .error fault) ↔
      ∃ first second, first < second ∧ second < order.length ∧ order[first]? = order[second]? := by
  have hpositions : (¬ order.Nodup) ↔
      ∃ first second, first < second ∧ second < order.length ∧
        order[first]? = order[second]? := by
    rw [List.nodup_iff_getElem?_ne_getElem?]
    push Not
    rfl
  rw [← hpositions, ← exists_build_iff argument order lenient]
  cases build argument order lenient with
  | error fault => simp
  | ok table => simp

/-! ## What is told once -/

/-- A token is in surplus when its argument may be supplied once and an earlier token belongs to
that argument too. -/
theorem mem_surplus_iff (table : Table ι) (tokens : List String) (name : ι)
    (place : Fin tokens.length) : (name, place) ∈ table.surplus tokens ↔
      name ∈ table.order ∧ (table.argument name).multiple = false ∧
        table.owner? (tokens.get place) = some name ∧
        ∃ earlier < place, table.owner? (tokens.get earlier) = some name := by
  have hascending : (table.placesOf tokens name).Pairwise (· < ·) :=
    (List.pairwise_lt_finRange tokens.length).filter _
  have hplaces (place : Fin tokens.length) :
      place ∈ table.placesOf tokens name ↔ table.owner? (tokens.get place) = some name := by
    simp [placesOf]
  have htail := mem_tail_iff_of_ascending hascending place
  simp only [hplaces] at htail
  have hpair : (name, place) ∈ table.surplus tokens ↔
      name ∈ table.singles ∧ place ∈ (table.placesOf tokens name).tail := by
    constructor
    · intro hmem
      obtain ⟨other, hother, hpair⟩ := List.mem_flatMap.mp hmem
      obtain ⟨_, hplace, heq⟩ := List.mem_map.mp hpair
      cases heq
      exact ⟨hother, hplace⟩
    · rintro ⟨hname, hplace⟩
      exact List.mem_flatMap.mpr ⟨name, hname, List.mem_map_of_mem hplace⟩
  rw [hpair, htail, singles, List.mem_filter, Bool.not_eq_true', and_assoc]
  simp only [and_comm (b := _ < place)]

theorem mem_leftOut_iff (table : Table ι) (tokens : List String) (name : ι) :
    name ∈ table.leftOut tokens ↔ name ∈ table.order ∧ (table.argument name).required = true ∧
      ∀ token ∈ tokens, table.owner? token ≠ some name := by
  simp [leftOut, tokensOf, List.filter_eq_nil_iff]

/-- What a parse tells of tokens in surplus and of arguments that are left out, each token by its
place and each argument by its name. They are exactly those that there are, and none comes twice. -/
structure TellsOnce (table : Table ι) (tokens : List String) : Prop where
  told : (table.parse tokens).notices.map (·.diagnostic) = table.strangerErrors tokens ++
    (table.surplus tokens).map (fun (name, place) =>
      (Notice.repeated (tokens.get place) (table.firstValue tokens name)).diagnostic) ++
    (table.leftOut tokens).map fun name =>
      (Notice.missing (table.argument name).description).diagnostic
  surplus : ∀ name place, (name, place) ∈ table.surplus tokens ↔
    name ∈ table.order ∧ (table.argument name).multiple = false ∧
      table.owner? (tokens.get place) = some name ∧
      ∃ earlier < place, table.owner? (tokens.get earlier) = some name
  surplusOnce : ((table.surplus tokens).map (·.2)).Nodup
  leftOut : ∀ name, name ∈ table.leftOut tokens ↔
    name ∈ table.order ∧ (table.argument name).required = true ∧
      ∀ token ∈ tokens, table.owner? token ≠ some name
  leftOutOnce : (table.leftOut tokens).Nodup

theorem tellsOnce (table : Table ι) (tokens : List String) : table.TellsOnce tokens where
  told := notices_diagnostics table tokens
  surplus := mem_surplus_iff table tokens
  surplusOnce := surplus_places_nodup table tokens
  leftOut := mem_leftOut_iff table tokens
  leftOutOnce := table.distinct.filter _

/-! ## The law -/

/-- Building fails exactly when two places hold the same argument, and then it tells the first
argument that is among those before it, by its first literal and its description. Arguments that
are distinct are always accepted, in their order, whatever they look like. A table that was built
tells each repeated token and each missing argument once. -/
theorem a_table_lists_each_argument_once (argument : ι → Argument) (order : List ι)
    (lenient : Bool) :
    ((∃ fault, build argument order lenient = .error fault) ↔
      ∃ first second, first < second ∧ second < order.length ∧ order[first]? = order[second]?) ∧
      (∀ fault, build argument order lenient = .error fault ↔
        ∃ before name after, order = before ++ name :: after ∧ name ∈ before ∧ before.Nodup ∧
          fault = .repeatedArgument (argument name).id (argument name).description) ∧
      (∀ name, (Fault.repeatedArgument (argument name).id (argument name).description).message =
        "Duplicate argument descriptor: " ++ ("'" ++ (argument name).id ++ "' (" ++
          (argument name).description ++ ") is listed more than once")) ∧
      ((∃ table, build argument order lenient = .ok table) ↔ order.Nodup) ∧
      ∀ table, build argument order lenient = .ok table →
        table.argument = argument ∧ table.order = order ∧ table.lenient = lenient ∧
          ∀ tokens, table.TellsOnce tokens := by
  refine ⟨exists_build_error_iff argument order lenient,
    build_eq_error_iff argument order lenient, fun name => rfl,
    exists_build_iff argument order lenient, ?_⟩
  · intro table h
    obtain ⟨hargument, horder, hlenient⟩ := (build_eq_ok_iff argument order lenient table).mp h
    exact ⟨hargument, horder, hlenient, tellsOnce table⟩

/-- Two arguments that are told apart by nothing but their names. -/
def twin (_ : Bool) : Argument where
  form := .prefixed ["-t:"]
  description := "One of two"
  faultless := by decide

/-- Both make a table, and it is told when one is listed again. -/
theorem twins_make_a_table_of_two :
    (∃ table, build twin [true, false] false = .ok table ∧ table.order = [true, false] ∧
      table.TellsOnce ["-t:x", "-t:y", "-t:z"]) ∧
      build twin [true, false, false, true] false =
        .error (.repeatedArgument "-t:" "One of two") := by
  obtain ⟨-, -, -, hbuild, hbuilt⟩ := a_table_lists_each_argument_once twin [true, false] false
  obtain ⟨-, herror, -⟩ := a_table_lists_each_argument_once twin [true, false, false, true] false
  obtain ⟨table, htable⟩ := hbuild.mpr (by decide)
  obtain ⟨-, horder, -, htells⟩ := hbuilt table htable
  refine ⟨⟨table, htable, horder, htells _⟩, (herror _).mpr ?_⟩
  exact ⟨[true, false], false, [true], rfl, by decide, by decide, rfl⟩

end ArgTable.Table
