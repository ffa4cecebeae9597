-- One argument may have several literals, and the first of them stands for all. When the literals
-- keep the arguments apart, a token can be written with the first literal of its argument and is
-- read the same: it belongs to that argument and carries that value. So what a parse reads can be
-- written down as tokens and read again.
import ArgTable.Proofs.ArgumentOrder
import ArgTable.Proofs.LenientTables
import ArgTable.Proofs.TokenOrder

namespace ArgTable

/-- Behind the first literal of the form, the value of a token is read again. -/
theorem Form.accept?_first {form : Form} {token : String} (hne : form.literals ≠ [])
    (h : form.Accepts token) :
    form.accept? (form.literals.headD "" ++ form.valueOf token) = some (form.valueOf token) := by
  cases form with
  | verb literal => simp [accept?, literals, valueOf]
  | prefixed literals =>
    rcases literals with _ | ⟨first, more⟩
    · exact absurd rfl hne
    · have hremainder := (remainder?_eq_some_iff first _ _).mpr
        (Eq.refl (first ++ (prefixed (first :: more)).valueOf token))
      simp only [accept?, Form.literals, List.headD_cons, List.findSome?_cons, hremainder]

namespace Table

variable {ι : Type}

/-! ## Tokens with first literals -/

/-- An instance as a token: the first literal of the argument, and the value. -/
def spelling (table : Table ι) (found : Instance ι) : String :=
  (table.argument found.name).id ++ found.value

/-- The token with the first literal of its argument in place of the literal that it starts with.
A token that belongs to no argument stays as it is. -/
def respelled (table : Table ι) (token : String) : String :=
  ((table.recognize? token).map table.spelling).getD token

theorem recognize?_spelling {table : Table ι} (h : table.Apart) {token : String}
    {found : Instance ι} (hfound : table.recognize? token = some found) :
    table.recognize? (table.spelling found) = some found := by
  rw [recognize?_eq] at hfound
  obtain ⟨name, howner, rfl⟩ := Option.map_eq_some_iff.mp hfound
  obtain ⟨hname, haccepts⟩ := (h.owner?_eq_some_iff token name).mp howner
  have haccept := Form.accept?_first (table.argument name).literals_ne_nil haccepts
  rw [Form.accept?_eq, Option.ite_none_right_eq_some] at haccept
  obtain ⟨hspelling, hvalue⟩ := haccept
  have howner' := (h.owner?_eq_some_iff (table.spelling ⟨name, table.valueOf name token⟩) name).mpr
    ⟨hname, hspelling⟩
  rw [recognize?_eq, howner']
  exact congrArg (fun value => some (Instance.mk name value)) (Option.some.inj hvalue)

theorem recognize?_respelled {table : Table ι} (h : table.Apart) (token : String) :
    table.recognize? (table.respelled token) = table.recognize? token := by
  unfold respelled
  rcases hfound : table.recognize? token with _ | found
  · exact hfound
  · exact recognize?_spelling h hfound

theorem map_spelling (table : Table ι) (tokens : List String) :
    (tokens.filterMap table.recognize?).map table.spelling =
      (tokens.filter table.knows).map table.respelled := by
  induction tokens with
  | nil => rfl
  | cons token tokens ih =>
    have hknows := isSome_recognize? table token
    rcases hfound : table.recognize? token with _ | found
    · rw [hfound] at hknows
      rw [List.filterMap_cons_none hfound, ih, List.filter_cons_of_neg (by simp [← hknows])]
    · rw [hfound] at hknows
      rw [List.filterMap_cons_some hfound, List.filter_cons_of_pos hknows.symm, List.map_cons,
        List.map_cons, ih, respelled, hfound]
      rfl

/-! ## Tokens that are recognized alike -/

section
variable {table : Table ι} {f : String → String}
  (hf : ∀ token, table.recognize? (f token) = table.recognize? token)

include hf

theorem owner?_of_recognize? (token : String) : table.owner? (f token) = table.owner? token := by
  have hname : ∀ token, table.owner? token = (table.recognize? token).map (·.name) := by
    intro token
    rw [recognize?_eq, Option.map_map]
    exact Option.map_id'.symm
  rw [hname, hname, hf]

variable [DecidableEq ι]

theorem tokensOf_map (tokens : List String) (name : ι) :
    table.tokensOf (tokens.map f) name = (table.tokensOf tokens name).map f := by
  unfold tokensOf
  rw [List.filter_map]
  congr 2
  funext token
  simp only [Function.comp, owner?_of_recognize? hf]

theorem length_notices_map (tokens : List String) :
    (table.notices (tokens.map f)).length = (table.notices tokens).length := by
  have hstrangers : (tokens.map f).countP (fun token => table.owner? token = none) =
      tokens.countP fun token => table.owner? token = none := by
    rw [List.countP_map]
    simp only [Function.comp_def, owner?_of_recognize? hf]
  have hleftOut : table.leftOut (tokens.map f) = table.leftOut tokens := by
    unfold leftOut
    simp only [tokensOf_map hf, List.isEmpty_map]
  rw [length_notices, length_notices, hstrangers, hleftOut]
  simp only [tokensOf_map hf, List.length_map]

/-- Tokens that are recognized alike are parsed alike, with as many notices. -/
theorem parse_map (tokens : List String) :
    (table.parse (tokens.map f)).success = (table.parse tokens).success ∧
      (table.parse (tokens.map f)).instances = (table.parse tokens).instances ∧
      (table.parse (tokens.map f)).notices.length = (table.parse tokens).notices.length := by
  have hlength := length_notices_map hf tokens
  have hempty : (table.notices (tokens.map f)).isEmpty = (table.notices tokens).isEmpty := by
    rw [Bool.eq_iff_iff, List.isEmpty_iff_length_eq_zero, List.isEmpty_iff_length_eq_zero, hlength]
  have hfound : (table.matched (tokens.map f)).map (·.2) = (table.matched tokens).map (·.2) := by
    unfold matched
    rw [List.map_filterMap, List.map_filterMap, List.filterMap_map]
    congr 1
    funext token
    simp only [Function.comp_def, hf, Option.map_map]
  refine ⟨?_, ?_, hlength⟩
  · rw [success_eq, success_eq, hempty]
  · rw [instances_eq, instances_eq, hempty, hfound]

end

end Table

/-! ## The law -/

theorem Preprocess.process_respelled (tokens : List String) :
    let again := process (tokens.map table.respelled)
    again.accepted = (process tokens).accepted ∧ again.instances = (process tokens).instances ∧
      told .error again.notices = told .error (process tokens).notices := by
  obtain ⟨hsuccess, hinstances, hlength⟩ :=
    Table.parse_map (Table.recognize?_respelled table_apart) tokens
  obtain ⟨accepted, shown, more, records, -, hagain, hverdict⟩ :=
    judgesByInstances _ _ hsuccess hinstances
  simp only [process, hagain, hverdict, true_and]
  apply told_congr
  rw [List.map_append, List.map_append]
  exact congrArg (· ++ more.map (·.severity)) (severities_eq_of_errors
    (fun _ => Table.severity_of_mem_notices) (fun _ => Table.severity_of_mem_notices) hlength)

/-- When the literals keep the arguments apart, what a parse reads can be written as tokens, each
the first literal of an argument and its value, and read again: the parse goes through with
nothing to tell and gives the same instances. And tokens for the preparation of an analysis can be
given with first literals throughout: they are accepted or refused alike, with the same settings,
the same instances and as many errors. -/
theorem first_literals_are_read_the_same {ι : Type} [DecidableEq ι] (table : Table ι) :
    (table.LiteralsApart → ∀ tokens : List String, (table.parse tokens).success = true →
      let again := table.parse ((table.parse tokens).instances.map table.spelling)
      again.success = true ∧ again.notices = [] ∧
        again.instances = (table.parse tokens).instances) ∧
    ∀ given : List String,
      let verdict := Preprocess.process given
      let again := Preprocess.process (given.map Preprocess.table.respelled)
      again.accepted = verdict.accepted ∧ again.instances = verdict.instances ∧
        told .error again.notices = told .error verdict.notices := by
  refine ⟨?_, Preprocess.process_respelled⟩
  intro h tokens hsuccess
  have hapart := (Table.literalsApart_iff_apart table).mp h
  have hfits := (Table.success_iff table tokens).mp hsuccess
  obtain ⟨hknown, hknownInstances⟩ := Table.parse_known_of_success hsuccess
  obtain ⟨-, hinstances, hlength⟩ :=
    Table.parse_map (Table.recognize?_respelled hapart) (tokens.filter table.knows)
  have hwritten : (table.parse tokens).instances.map table.spelling =
      (tokens.filter table.knows).map table.respelled := by
    rw [Table.instances_eq_filterMap_recognize? hfits, Table.map_spelling]
  have hnotices : (table.parse ((tokens.filter table.knows).map table.respelled)).notices = [] := by
    rw [hknown] at hlength
    exact List.length_eq_zero_iff.mp hlength
  rw [hwritten]
  refine ⟨?_, hnotices, hinstances.trans hknownInstances⟩
  rw [Table.success_eq]
  exact List.isEmpty_iff.mpr hnotices

/-- Of a key and a name given with their short literals. -/
theorem short_literals_are_read_as_first_literals :
    Preprocess.table.LiteralsApart ∧
      (Preprocess.table.parse ["/k:a", "/d:x=1", "/n:/k:b"]).success = true ∧
      (Preprocess.table.parse ["/k:a", "/d:x=1", "/n:/k:b"]).instances.map
          Preprocess.table.spelling = ["/key:a", "/d:x=1", "/name:/k:b"] ∧
      (Preprocess.table.parse ["/key:a", "/d:x=1", "/name:/k:b"]).instances =
        (Preprocess.table.parse ["/k:a", "/d:x=1", "/n:/k:b"]).instances := by
  have hsuccess : (Preprocess.table.parse ["/k:a", "/d:x=1", "/n:/k:b"]).success = true := by
    decide +kernel
  have hwritten : (Preprocess.table.parse ["/k:a", "/d:x=1", "/n:/k:b"]).instances.map
      Preprocess.table.spelling = ["/key:a", "/d:x=1", "/name:/k:b"] := by
    decide +kernel
  obtain ⟨hwritable, -⟩ := first_literals_are_read_the_same Preprocess.table
  obtain ⟨-, -, hagain⟩ := hwritable Preprocess.table_literalsApart _ hsuccess
  rw [hwritten] at hagain
  exact ⟨Preprocess.table_literalsApart, hsuccess, hwritten, hagain⟩

end ArgTable
