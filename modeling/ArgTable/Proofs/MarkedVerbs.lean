-- Verbs with marks. A declared argument is optional and may be supplied once, and marks that are
-- put on it later change that, on a verb as on any other argument. A verb is told as missing only
-- when it is marked as required, and read twice only when it is marked as multiple.
import ArgTable.Proofs.JournalRuns
import ArgTable.Proofs.ShadowedArguments
import ArgTable.Proofs.UserTables

namespace ArgTable

/-! ## Marks -/

/-- What can be asked of an argument after its declaration. -/
inductive Mark where
  | required
  | multiple
  deriving DecidableEq, Repr

namespace Argument

/-- The argument with one mark more. -/
def mark (argument : Argument) : Mark → Argument
  | .required => argument.asRequired
  | .multiple => argument.asMultiple

/-- The argument with the marks, put on one after the other. -/
def marked (argument : Argument) (marks : List Mark) : Argument := marks.foldl mark argument

theorem marked_concat (argument : Argument) (marks : List Mark) (last : Mark) :
    argument.marked (marks ++ [last]) = (argument.marked marks).mark last :=
  List.foldl_concat mark argument last marks

theorem keeps_marked (argument : Argument) (marks : List Mark) :
    (argument.marked marks).form = argument.form ∧
      (argument.marked marks).description = argument.description := by
  induction marks using List.reverseRecOn with
  | nil => exact ⟨rfl, rfl⟩
  | append_singleton marks last ih =>
    rw [marked_concat]
    cases last <;> exact ih

/-- The mark is on the argument. -/
def has (argument : Argument) : Mark → Bool
  | .required => argument.required
  | .multiple => argument.multiple

theorem has_mark (argument : Argument) (last one : Mark) :
    (argument.mark last).has one = true ↔ argument.has one = true ∨ one = last := by
  cases last <;> cases one <;> simp [mark, has, asRequired, asMultiple]

theorem has_marked (argument : Argument) (marks : List Mark) (one : Mark) :
    (argument.marked marks).has one = true ↔ argument.has one = true ∨ one ∈ marks := by
  induction marks using List.reverseRecOn with
  | nil => simp [marked]
  | append_singleton marks last ih =>
    rw [marked_concat, has_mark, ih, List.mem_append, List.mem_singleton, or_assoc]

theorem unmarked_of_declare {form : Form} {description : String} {plain : Argument}
    (h : declare form description = .ok plain) :
    plain.form = form ∧ ∀ one, plain.has one = false := by
  unfold declare at h
  split at h
  · cases h
  · obtain rfl := Except.ok.inj h
    exact ⟨rfl, fun one => by cases one <;> rfl⟩

theorem has_marked_of_declare {form : Form} {description : String} {plain : Argument}
    (h : declare form description = .ok plain) (marks : List Mark) (one : Mark) :
    (plain.marked marks).has one = true ↔ one ∈ marks := by
  simp [has_marked, (unmarked_of_declare h).2 one]

theorem exists_declare_marked (argument : Argument) : ∃ plain marks,
    declare argument.form argument.description = .ok plain ∧ argument = plain.marked marks := by
  have hplain := declare_eq_ok argument.faultless
  rcases argument with ⟨form, description, _ | _, _ | _, faultless⟩
  · exact ⟨_, [], hplain, rfl⟩
  · exact ⟨_, [.multiple], hplain, rfl⟩
  · exact ⟨_, [.required], hplain, rfl⟩
  · exact ⟨_, [.required, .multiple], hplain, rfl⟩

/-- If the argument is a verb, it is not required and may not be supplied more than once. -/
def SparesVerb (argument : Argument) : Prop :=
  argument.form.isVerb = true → argument.required = false ∧ argument.multiple = false

theorem sparesVerb_marked_iff {form : Form} {description : String} {plain : Argument}
    (h : declare form description = .ok plain) (marks : List Mark) :
    (plain.marked marks).SparesVerb ↔ form.isVerb = false ∨ marks = [] := by
  have hrequired : (plain.marked marks).required = true ↔ .required ∈ marks :=
    has_marked_of_declare h marks .required
  have hmultiple : (plain.marked marks).multiple = true ↔ .multiple ∈ marks :=
    has_marked_of_declare h marks .multiple
  unfold SparesVerb
  rw [(keeps_marked plain marks).1, (unmarked_of_declare h).1, ← Bool.not_eq_true, ← Bool.not_eq_true, hrequired,
    hmultiple]
  rcases form.isVerb with _ | _
  · simp
  · rcases marks with _ | ⟨_ | _, marks⟩ <;> simp

end Argument

/-! ## Tables -/

namespace Table

variable {ι : Type}

theorem shadowed_or_owner? {table : Table ι} {name : ι} (hname : name ∈ table.order)
    {word : String} (hform : (table.argument name).form = .verb word) :
    table.Shadowed name ∨ table.owner? word = some name := by
  obtain ⟨before, after, horder⟩ := List.append_of_mem hname
  by_cases hearlier : ∃ earlier ∈ before, (table.argument earlier).form.Accepts word
  · obtain ⟨earlier, hmem, haccepts⟩ := hearlier
    refine Or.inl ⟨before, after, horder, ?_⟩
    unfold Take
    rw [hform]
    rcases hother : (table.argument earlier).form with other | literals
    · rw [hother] at haccepts
      obtain rfl : word = other := haccepts
      exact Or.inr ⟨rfl, earlier, hmem, hother⟩
    · rw [hother] at haccepts
      refine Or.inl fun literal hliteral => ⟨earlier, hmem, ?_⟩
      rw [List.mem_singleton.mp hliteral, hother]
      exact ⟨rfl, haccepts⟩
  · right
    have hnone : before.find? (fun name => (table.argument name).form.Accepts word) = none := by
      rw [List.find?_eq_none]
      intro earlier hmem haccepts
      exact hearlier ⟨earlier, hmem, of_decide_eq_true haccepts⟩
    have haccepts : (table.argument name).form.Accepts word := hform ▸ rfl
    unfold owner?
    rw [horder, List.find?_append, hnone, Option.none_or, List.find?_cons_of_pos (by simpa)]

variable [DecidableEq ι]

theorem Fits.append {table : Table ι} {tokens more : List String} (h : table.Fits tokens)
    {name : ι} (hmultiple : (table.argument name).multiple = true)
    (hmore : ∀ token ∈ more, table.owner? token = some name) : table.Fits (tokens ++ more) where
  known := by
    refine h.known.imp_right fun hknown token hmem => ?_
    rcases List.mem_append.mp hmem with hmem | hmem
    · exact hknown token hmem
    · exact ⟨name, hmore token hmem⟩
  single := by
    intro other hother hsingle
    have hnone : table.tokensOf more other = [] := by
      unfold tokensOf
      rw [List.filter_eq_nil_iff]
      intro token hmem howner
      rw [decide_eq_true_eq, hmore token hmem] at howner
      rw [← Option.some.inj howner, hmultiple] at hsingle
      cases hsingle
    rw [tokensOf_append, hnone, List.append_nil]
    exact h.single other hother hsingle
  supplied := by
    intro other hother hrequired
    have hsupplied := h.supplied other hother hrequired
    rw [tokensOf_append, List.length_append]
    omega

/-- A parse that goes through gives each verb at most one instance, and no parse tells that a verb
is missing. -/
structure SparesVerbs (table : Table ι) (tokens : List String) : Prop where
  once : (table.parse tokens).success = true → ∀ name ∈ table.order,
    (table.argument name).form.isVerb = true →
      (Instance.values name (table.parse tokens).instances).length ≤ 1
  notMissing : ∀ name ∈ table.order, (table.argument name).form.isVerb = true →
    name ∉ table.leftOut tokens

/-- What a parse tells ends with the arguments that are left out, and tells of no others that they
are missing. -/
theorem notices_eq_append_leftOut (table : Table ι) (tokens : List String) : ∃ earlier,
    (table.parse tokens).notices = earlier ++ (table.leftOut tokens).map (fun name =>
      .missing (table.argument name).description) ∧
    ∀ description, Notice.missing description ∉ earlier := by
  refine ⟨(if table.lenient then [] else (table.strangers tokens).map .unrecognized) ++
    table.repeats (table.matched tokens),
    (notices_eq table tokens).trans (congrArg _ (missing_matched table tokens)), ?_⟩
  intro description hmem
  rcases List.mem_append.mp hmem with hmem | hmem
  · split at hmem
    · cases hmem
    · obtain ⟨token, -, hmissing⟩ := List.mem_map.mp hmem
      cases hmissing
  · obtain ⟨token, -, _, _, -, hmissing⟩ := exists_token_of_mem_repeats hmem
    cases hmissing

theorem exists_leftOut_iff {table : Table ι} {name : ι} (hname : name ∈ table.order) :
    (∃ tokens, name ∈ table.leftOut tokens) ↔ (table.argument name).required = true := by
  unfold leftOut
  constructor
  · rintro ⟨tokens, hmem⟩
    exact (Bool.and_eq_true_iff.mp (List.mem_filter.mp hmem).2).1
  · intro hrequired
    exact ⟨[], List.mem_filter.mpr ⟨hname, by simp [hrequired, tokensOf]⟩⟩

/-- A verb is read twice by some parse exactly when it is marked as multiple, can be read at all,
and some parse goes through. -/
theorem exists_read_twice_iff {table : Table ι} {name : ι} (hname : name ∈ table.order)
    (hverb : (table.argument name).form.isVerb = true) :
    (∃ tokens, (table.parse tokens).success = true ∧
        1 < (Instance.values name (table.parse tokens).instances).length) ↔
      (table.argument name).multiple = true ∧ ¬ table.Shadowed name ∧
        ∃ tokens, (table.parse tokens).success = true := by
  constructor
  · rintro ⟨tokens, hsuccess, htwice⟩
    have hfits := (success_iff table tokens).mp hsuccess
    rw [values_of_fits hfits, List.length_map] at htwice
    refine ⟨?_, ?_, tokens, hsuccess⟩
    · by_contra hsingle
      have hle := hfits.single name hname (Bool.eq_false_iff.mpr hsingle)
      omega
    · intro hshadowed
      rw [hshadowed.tokensOf_eq_nil] at htwice
      cases htwice
  · rintro ⟨hmultiple, hread, tokens, hsuccess⟩
    rcases hform : (table.argument name).form with word | literals
    · have howner := (shadowed_or_owner? hname hform).resolve_left hread
      have hfits : table.Fits (tokens ++ [word, word]) :=
        ((success_iff table tokens).mp hsuccess).append hmultiple (by simpa using howner)
      refine ⟨tokens ++ [word, word], (success_iff table _).mpr hfits, ?_⟩
      rw [values_of_fits hfits, List.length_map, tokensOf_append, tokensOf_cons_of_pos howner,
        tokensOf_cons_of_pos howner, List.length_append, List.length_cons, List.length_cons]
      omega
    · rw [hform] at hverb
      cases hverb

/-- A table spares its verbs, whatever the tokens are, when none of them is marked as required and
each that is marked as multiple cannot be read. -/
theorem forall_sparesVerbs_iff (table : Table ι) :
    (∀ tokens, table.SparesVerbs tokens) ↔
      ∀ name ∈ table.order, (table.argument name).form.isVerb = true →
        (table.argument name).required = false ∧
          ((table.argument name).multiple = true →
            table.Shadowed name ∨ ∀ tokens, (table.parse tokens).success = false) := by
  constructor
  · intro hspares name hname hverb
    constructor
    · rw [← Bool.not_eq_true, ← exists_leftOut_iff hname]
      rintro ⟨tokens, hmem⟩
      exact (hspares tokens).notMissing name hname hverb hmem
    · intro hmultiple
      by_contra hread
      rw [not_or, not_forall] at hread
      obtain ⟨hnot, tokens, hsuccess⟩ := hread
      obtain ⟨twice, hgood, hlength⟩ := (exists_read_twice_iff hname hverb).mpr
        ⟨hmultiple, hnot, tokens, eq_true_of_ne_false hsuccess⟩
      have hle := (hspares twice).once hgood name hname hverb
      omega
  · intro hunmarked tokens
    constructor
    · intro hsuccess name hname hverb
      by_contra htwice
      obtain ⟨hmultiple, hnot, -⟩ := (exists_read_twice_iff hname hverb).mp
        ⟨tokens, hsuccess, Nat.lt_of_not_le htwice⟩
      rcases (hunmarked name hname hverb).2 hmultiple with hshadowed | hfails
      · exact hnot hshadowed
      · rw [hfails tokens] at hsuccess
        cases hsuccess
    · intro name hname hverb hmem
      have hrequired := (exists_leftOut_iff hname).mp ⟨tokens, hmem⟩
      rw [(hunmarked name hname hverb).1] at hrequired
      cases hrequired

/-! ## The law -/

/-- Marks alone make a verb required or let it be supplied again: without marks neither is so, and
every argument of a table is a declared one with marks. So a table spares its verbs, whatever the
tokens are, exactly when none of them is marked as required and each that is marked as multiple
cannot be read, be it that it is shadowed or that no parse goes through. What a parse tells as
missing is what is left out. -/
theorem only_a_marked_verb_is_missed_or_read_twice (table : Table ι) :
    (∀ form description plain marks, Argument.declare form description = .ok plain →
      (∀ one, (plain.marked marks).has one = true ↔ one ∈ marks) ∧
        ((plain.marked marks).SparesVerb ↔ form.isVerb = false ∨ marks = [])) ∧
      (∀ name, ∃ plain marks,
        Argument.declare (table.argument name).form (table.argument name).description = .ok plain ∧
          table.argument name = plain.marked marks) ∧
      (∀ tokens, ∃ earlier, (table.parse tokens).notices = earlier ++
        (table.leftOut tokens).map (fun name => .missing (table.argument name).description) ∧
          ∀ description, Notice.missing description ∉ earlier) ∧
      ((∀ tokens, table.SparesVerbs tokens) ↔
        ∀ name ∈ table.order, (table.argument name).form.isVerb = true →
          (table.argument name).required = false ∧
            ((table.argument name).multiple = true →
              table.Shadowed name ∨ ∀ tokens, (table.parse tokens).success = false)) := by
  refine ⟨fun form description plain marks hdeclare => ⟨?_, ?_⟩,
    fun name => (table.argument name).exists_declare_marked,
    notices_eq_append_leftOut table, forall_sparesVerbs_iff table⟩
  · exact Argument.has_marked_of_declare hdeclare marks
  · exact Argument.sparesVerb_marked_iff hdeclare marks

/-- The verb `begin`, without marks. -/
def plainBegin : Argument :=
  { form := .verb "begin", description := "Start", faultless := by decide }

/-- Alone in its table the verb is spared without marks, and not with one of them. -/
theorem begin_is_spared_until_it_is_marked :
    Argument.declare (.verb "begin") "Start" = .ok plainBegin ∧
      (plainBegin.marked []).SparesVerb ∧ ¬ (plainBegin.marked [.multiple]).SparesVerb ∧
      (∀ tokens, (ofList [plainBegin] false).SparesVerbs tokens) ∧
      ¬ ∀ tokens, (ofList [plainBegin.marked [.required]] false).SparesVerbs tokens := by
  have hdeclare : Argument.declare (.verb "begin") "Start" = .ok plainBegin :=
    Argument.declare_eq_ok _
  obtain ⟨hdeclared, -, -, hspared⟩ :=
    only_a_marked_verb_is_missed_or_read_twice (ofList [plainBegin] false)
  obtain ⟨-, -, -, hmarked⟩ :=
    only_a_marked_verb_is_missed_or_read_twice (ofList [plainBegin.marked [.required]] false)
  refine ⟨hdeclare, (hdeclared _ _ _ [] hdeclare).2.mpr (Or.inr rfl), ?_, ?_, ?_⟩
  · rw [(hdeclared _ _ _ [.multiple] hdeclare).2]
    decide
  · refine hspared.mpr fun name _ _ => ?_
    obtain rfl : name = 0 := Fin.fin_one_eq_zero name
    exact ⟨rfl, fun hmultiple => by cases hmultiple⟩
  · intro hall
    have hrequired := (hmarked.mp hall 0 (by decide) rfl).1
    cases hrequired

/-- With one mark the verb is told as missing, and with the other it is read twice. -/
theorem a_marked_verb_is_missed_and_read_twice :
    Argument.declare (.verb "begin") "Start" = .ok plainBegin ∧
      (plainBegin.marked [.required]).required = true ∧
      ((ofList [plainBegin.marked [.required]] false).parse []).notices = [.missing "Start"] ∧
      ¬ (ofList [plainBegin.marked [.required]] false).SparesVerbs [] ∧
      (plainBegin.marked [.multiple]).multiple = true ∧
      ((ofList [plainBegin.marked [.multiple]] false).parse ["begin", "begin"]).success = true ∧
      ¬ (ofList [plainBegin.marked [.multiple]] false).SparesVerbs ["begin", "begin"] := by
  refine ⟨Argument.declare_eq_ok _, rfl, by decide +kernel, ?_, rfl, by decide +kernel, ?_⟩
  · intro h
    exact h.notMissing 0 (by decide) rfl (by decide +kernel)
  · intro h
    exact absurd (h.once (by decide +kernel) 0 (by decide) rfl) (by decide +kernel)

end Table

end ArgTable
