-- What a run over the user's own table makes of the tokens, told by the literals alone. A token
-- chooses the first prefix that it starts with, and only without one the verb that it is. The run
-- goes through when every token chooses something and no choice is made too often, and then it
-- shows what was chosen, in token order.
import ArgTable.Proofs.RunReports

namespace ArgTable

namespace Options

/-! ## Choices -/

/-- What a token chooses among the literals that the user named. -/
inductive Choice where
  /-- The prefix at this place of the list. -/
  | leading (place : Nat)
  | verb (word : String)
  deriving DecidableEq

/-- The first prefix that the token starts with, or else the verb that it is. -/
def choice? (options : Options) (token : String) : Option Choice :=
  match options.prefixes.findIdx? (Opens · token) with
  | some place => some (.leading place)
  | none => if token ∈ options.verbs then some (.verb token) else none

/-- What a report shows of a token with its choice. -/
def shownOf (options : Options) (token : String) : Choice → Recognized
  | .leading place =>
    let literal := options.prefixes.getD place ""
    ⟨literal, String.ofList (token.toList.drop literal.toList.length)⟩
  | .verb word => ⟨word, ""⟩

/-- How many of the tokens choose it. -/
def timesChosen (options : Options) (choice : Choice) : Nat :=
  options.tokens.countP fun token => options.choice? token = some choice

/-- Several tokens may choose it. A verb is never for several. -/
def mayRepeat (options : Options) : Choice → Bool
  | .leading _ => options.allowMultiple
  | .verb _ => false

theorem choice?_eq_leading_iff (options : Options) (token : String) (place : Nat) :
    options.choice? token = some (.leading place) ↔
      ∃ h : place < options.prefixes.length, Opens options.prefixes[place] token ∧
        ∀ earlier (hearlier : earlier < place), ¬ Opens options.prefixes[earlier] token := by
  have hchoice : options.choice? token = some (.leading place) ↔
      options.prefixes.findIdx? (Opens · token) = some place := by
    unfold choice?
    split
    · next first h => simp [h]
    · next h =>
      split <;> simp [h]
  rw [hchoice, List.findIdx?_eq_some_iff_getElem]
  simp only [decide_eq_true_eq]

theorem choice?_eq_verb_iff (options : Options) (token word : String) :
    options.choice? token = some (.verb word) ↔
      token = word ∧ word ∈ options.verbs ∧
        ∀ literal ∈ options.prefixes, ¬ Opens literal token := by
  have hchoice : options.choice? token = some (.verb word) ↔
      token = word ∧ word ∈ options.verbs ∧
        options.prefixes.findIdx? (Opens · token) = none := by
    unfold choice?
    split
    · next place h => simp [h]
    · next h =>
      rw [Option.ite_none_right_eq_some]
      constructor
      · rintro ⟨hmem, heq⟩
        cases heq
        exact ⟨rfl, hmem, h⟩
      · rintro ⟨rfl, hmem, -⟩
        exact ⟨hmem, rfl⟩
  rw [hchoice, List.findIdx?_eq_none_iff]
  simp only [decide_eq_false_iff_not]

/-- Choices that are made at most once are counted apart for prefixes and for verbs. -/
theorem timesChosen_iff (options : Options) :
    (∀ choice, options.mayRepeat choice = false → options.timesChosen choice ≤ 1) ↔
      (options.allowMultiple = true ∨ ∀ place, options.timesChosen (.leading place) ≤ 1) ∧
        ∀ word, options.timesChosen (.verb word) ≤ 1 := by
  constructor
  · intro htimes
    refine ⟨?_, fun word => htimes (.verb word) rfl⟩
    rcases hmultiple : options.allowMultiple with _ | _
    · exact Or.inr fun place => htimes (.leading place) hmultiple
    · exact Or.inl rfl
  · rintro ⟨hleading, hverb⟩ choice hrepeat
    cases choice with
    | leading place =>
      have hmultiple : ¬ options.allowMultiple = true := Bool.eq_false_iff.mp hrepeat
      exact hleading.resolve_left hmultiple place
    | verb word => exact hverb word

/-! ## Places -/

/-- Where the choice stands in the table, which has the prefixes before the verbs. -/
def placeOf (options : Options) : Choice → Nat
  | .leading place => place
  | .verb word => options.prefixes.length + options.verbs.idxOf word

theorem placeOf_inj {options : Options} {token other : String} {choice choice' : Choice}
    (h : options.choice? token = some choice) (h' : options.choice? other = some choice')
    (hplace : options.placeOf choice = options.placeOf choice') : choice = choice' := by
  cases choice with
  | leading place =>
    obtain ⟨hlt, -⟩ := (choice?_eq_leading_iff options token place).mp h
    cases choice' with
    | leading place' => exact congrArg Choice.leading hplace
    | verb word' =>
      simp only [placeOf] at hplace
      omega
  | verb word =>
    obtain ⟨-, hword, -⟩ := (choice?_eq_verb_iff options token word).mp h
    cases choice' with
    | leading place' =>
      obtain ⟨hlt, -⟩ := (choice?_eq_leading_iff options other place').mp h'
      simp only [placeOf] at hplace
      omega
    | verb word' =>
      simp only [placeOf, Nat.add_left_cancel_iff] at hplace
      exact congrArg Choice.verb ((List.idxOf_inj hword).mp hplace)

theorem findIdx?_verbs (options : Options) (token : String) :
    options.verbs.findIdx? (token = ·) =
      if token ∈ options.verbs then some (options.verbs.idxOf token) else none := by
  have hsame : (fun verb : String => decide (token = verb)) = (· == token) := by
    funext verb
    rw [Bool.eq_iff_iff, decide_eq_true_eq, beq_iff_eq, eq_comm]
  rw [hsame]
  split
  · next h =>
    exact List.findIdx?_eq_some_iff_findIdx_eq.mpr ⟨List.idxOf_lt_length_iff.mpr h, rfl⟩
  · next h =>
    rw [List.findIdx?_eq_none_iff]
    intro verb hverb
    rw [beq_eq_false_iff_ne]
    rintro rfl
    exact h hverb

theorem findIdx?_forms (options : Options) (token : String) :
    (options.prefixes.map (fun literal => Form.prefixed [literal]) ++
      options.verbs.map Form.verb).findIdx? (·.Accepts token) =
        (options.choice? token).map options.placeOf := by
  have hprefixed : (fun form : Form => decide (form.Accepts token)) ∘
      (fun literal => .prefixed [literal]) = fun literal => decide (Opens literal token) := by
    funext literal
    simp [Form.Accepts]
  have hverb : (fun form : Form => decide (form.Accepts token)) ∘ Form.verb =
      fun verb => decide (token = verb) := rfl
  rw [List.findIdx?_append, List.findIdx?_map, List.findIdx?_map, hprefixed, hverb,
    findIdx?_verbs, List.length_map]
  unfold choice?
  rcases options.prefixes.findIdx? fun literal => decide (Opens literal token) with _ | place
  · by_cases h : token ∈ options.verbs
    · simp [h, placeOf, Nat.add_comm]
    · simp [h]
  · rfl

end Options

/-! ## The user's table -/

/-- In a table of listed arguments, a token belongs to the first that accepts it. -/
theorem Table.map_val_owner?_ofList (arguments : List Argument) (lenient : Bool)
    (token : String) : ((ofList arguments lenient).owner? token).map (·.val) =
      arguments.findIdx? fun argument => argument.form.Accepts token := by
  conv_rhs => rw [← List.map_get_finRange arguments, List.findIdx?_map]
  unfold owner? ofList
  rw [List.find?_eq_bind_findIdx?_getElem?]
  rcases hplace : (List.finRange arguments.length).findIdx? fun name =>
    decide ((arguments.get name).form.Accepts token) with _ | place
  · exact hplace.symm
  · obtain ⟨hlt, -⟩ := List.findIdx?_eq_some_iff_findIdx_eq.mp hplace
    refine Eq.trans ?_ hplace.symm
    simp [List.getElem?_eq_getElem hlt]

theorem Table.first_of_owner?_ofList {arguments : List Argument} {lenient : Bool} {token : String}
    {name : Fin arguments.length} (h : (ofList arguments lenient).owner? token = some name) :
    (arguments.get name).form.Accepts token ∧
      ∀ earlier < name, ¬ (arguments.get earlier).form.Accepts token := by
  have hfirst := map_val_owner?_ofList arguments lenient token
  rw [h] at hfirst
  obtain ⟨_, haccepts, hrefused⟩ := List.findIdx?_eq_some_iff_getElem.mp hfirst.symm
  simp only [decide_eq_true_eq] at haccepts hrefused
  exact ⟨haccepts, fun earlier hlt => hrefused earlier hlt⟩

namespace Options.Names

variable {options : Options} {arguments : List Argument} (h : options.Names arguments)

include h

/-- Each argument is that of one literal, and those of the prefixes come first. -/
theorem declares (name : Fin arguments.length) :
    (name.val < options.prefixes.length ∧ ∃ literal,
      Declares (.prefixed [literal]) options.allowMultiple (arguments.get name)) ∨
    (options.prefixes.length ≤ name.val ∧ ∃ literal,
      Declares (.verb literal) false (arguments.get name)) := by
  obtain ⟨prefixed, verbs, rfl, hprefixed, hverbs⟩ := h
  rw [List.get_eq_getElem]
  rcases Nat.lt_or_ge name.val prefixed.length with hlt | hge
  · have hlt' := hprefixed.length_eq ▸ hlt
    rw [List.getElem_append_left hlt]
    exact Or.inl ⟨hlt', _, hprefixed.get hlt' hlt⟩
  · have hlt : name.val - prefixed.length < verbs.length := by
      have hall := lt_of_lt_of_eq name.isLt List.length_append
      omega
    rw [List.getElem_append_right hge]
    exact Or.inr ⟨hprefixed.length_eq ▸ hge, _, hverbs.get (hverbs.length_eq ▸ hlt) hlt⟩

theorem optional (name : Fin arguments.length) : (arguments.get name).required = false := by
  rcases h.declares name with ⟨-, literal, hdeclares⟩ | ⟨-, literal, hdeclares⟩
  · exact hdeclares.optional
  · exact hdeclares.optional

/-- The arguments stand in the order of their literals. -/
theorem map_id : arguments.map (·.id) = options.prefixes ++ options.verbs := by
  have hid : (fun argument : Argument => argument.id) =
      (fun form : Form => form.literals.headD "") ∘ (·.form) := rfl
  rw [hid, ← List.map_map, h.map_form, List.map_append, List.map_map, List.map_map]
  simp [Function.comp_def, Form.literals]

theorem map_val_owner? (lenient : Bool) (token : String) :
    ((Table.ofList arguments lenient).owner? token).map (·.val) =
      (options.choice? token).map options.placeOf := by
  rw [Table.map_val_owner?_ofList, ← findIdx?_forms, ← h.map_form, List.findIdx?_map]
  rfl

theorem owner?_isSome (lenient : Bool) (token : String) :
    ((Table.ofList arguments lenient).owner? token).isSome = (options.choice? token).isSome := by
  simpa using congrArg Option.isSome (h.map_val_owner? lenient token)

/-- A token belongs to the argument in the place of its choice. -/
theorem owner?_eq_some_iff_place {token : String} {choice : Choice}
    (hchoice : options.choice? token = some choice) (lenient : Bool)
    (name : Fin arguments.length) :
    (Table.ofList arguments lenient).owner? token = some name ↔
      name.val = options.placeOf choice := by
  have howner := h.map_val_owner? lenient token
  rw [hchoice, Option.map_some] at howner
  obtain ⟨owner, howner, hplace⟩ := Option.map_eq_some_iff.mp howner
  rw [howner, ← hplace, Option.some.injEq, Fin.ext_iff, eq_comm]

theorem exists_place {token : String} {choice : Choice}
    (hchoice : options.choice? token = some choice) :
    ∃ name : Fin arguments.length, name.val = options.placeOf choice := by
  have howner := h.map_val_owner? false token
  rw [hchoice, Option.map_some] at howner
  obtain ⟨owner, -, hplace⟩ := Option.map_eq_some_iff.mp howner
  exact ⟨owner, hplace⟩

theorem exists_choice {token : String} {lenient : Bool} {name : Fin arguments.length}
    (howner : (Table.ofList arguments lenient).owner? token = some name) :
    ∃ choice, options.choice? token = some choice ∧ name.val = options.placeOf choice := by
  have hplace := h.map_val_owner? lenient token
  rw [howner, Option.map_some] at hplace
  obtain ⟨choice, hchoice, hname⟩ := Option.map_eq_some_iff.mp hplace.symm
  exact ⟨choice, hchoice, hname.symm⟩

/-- The argument in the place of a choice may be supplied as often as the choice may be made. -/
theorem multiple_of_choice {token : String} {choice : Choice}
    (hchoice : options.choice? token = some choice) {name : Fin arguments.length}
    (hname : name.val = options.placeOf choice) :
    (arguments.get name).multiple = options.mayRepeat choice := by
  cases choice with
  | leading place =>
    obtain ⟨hlt, -⟩ := (choice?_eq_leading_iff options token place).mp hchoice
    rcases h.declares name with ⟨-, literal, hdeclares⟩ | ⟨hge, -⟩
    · exact hdeclares.multiple
    · simp only [placeOf] at hname
      omega
  | verb word =>
    rcases h.declares name with ⟨hlt, -⟩ | ⟨-, literal, hdeclares⟩
    · simp only [placeOf] at hname
      omega
    · exact hdeclares.multiple

theorem length_tokensOf {token : String} {choice : Choice}
    (hchoice : options.choice? token = some choice) (lenient : Bool)
    {name : Fin arguments.length} (hname : name.val = options.placeOf choice) :
    ((Table.ofList arguments lenient).tokensOf options.tokens name).length =
      options.timesChosen choice := by
  refine Table.length_tokensOf options.tokens fun given => ?_
  rw [decide_eq_true_eq]
  constructor
  · intro howner
    obtain ⟨other, hother, hplace⟩ := h.exists_choice howner
    rw [placeOf_inj hchoice hother (hname.symm.trans hplace)]
    exact hother
  · intro hgiven
    exact (h.owner?_eq_some_iff_place hgiven lenient name).mpr hname

/-! ## Tokens that the table accepts -/

theorem single_iff (lenient : Bool) :
    (∀ name ∈ (Table.ofList arguments lenient).order,
      ((Table.ofList arguments lenient).argument name).multiple = false →
        ((Table.ofList arguments lenient).tokensOf options.tokens name).length ≤ 1) ↔
      ∀ choice, options.mayRepeat choice = false → options.timesChosen choice ≤ 1 := by
  constructor
  · intro hsingle choice hrepeat
    by_cases hnever : options.timesChosen choice = 0
    · omega
    · obtain ⟨token, -, hchoice⟩ := List.countP_pos_iff.mp (Nat.pos_of_ne_zero hnever)
      rw [decide_eq_true_eq] at hchoice
      obtain ⟨name, hname⟩ := h.exists_place hchoice
      have hmultiple := (h.multiple_of_choice hchoice hname).trans hrepeat
      rw [← h.length_tokensOf hchoice lenient hname]
      exact hsingle name (List.mem_finRange name) hmultiple
  · intro htimes name _ hmultiple
    rcases htokens : (Table.ofList arguments lenient).tokensOf options.tokens name with
      _ | ⟨token, _⟩
    · simp
    · have hmem : token ∈ (Table.ofList arguments lenient).tokensOf options.tokens name := by
        simp [htokens]
      have howner := (List.mem_filter.mp hmem).2
      rw [decide_eq_true_eq] at howner
      obtain ⟨choice, hchoice, hname⟩ := h.exists_choice howner
      rw [← htokens, h.length_tokensOf hchoice lenient hname]
      exact htimes choice ((h.multiple_of_choice hchoice hname).symm.trans hmultiple)

theorem fits_iff :
    (Table.ofList arguments options.allowUnrecognized).Fits options.tokens ↔
      (options.allowUnrecognized = true ∨
        ∀ token ∈ options.tokens, (options.choice? token).isSome = true) ∧
      ∀ choice, options.mayRepeat choice = false → options.timesChosen choice ≤ 1 := by
  have hknown : ∀ token, (∃ name,
      (Table.ofList arguments options.allowUnrecognized).owner? token = some name) ↔
        (options.choice? token).isSome = true := by
    intro token
    rw [← h.owner?_isSome options.allowUnrecognized, Option.isSome_iff_exists]
  rw [← h.single_iff options.allowUnrecognized]
  simp only [← hknown]
  constructor
  · rintro ⟨known, single, -⟩
    exact ⟨known, single⟩
  · rintro ⟨known, single⟩
    refine ⟨known, single, fun name _ hrequired => ?_⟩
    exact absurd ((h.optional name).symm.trans hrequired) Bool.false_ne_true

/-! ## Literals that are named again -/

/-- An argument accepts what a later one of the same literal accepts. Prefixes stand before verbs,
so a verb is never the earlier one of the two. -/
theorem accepts_of_id_eq {name earlier : Fin arguments.length} {token : String}
    (hlt : earlier < name) (hid : (arguments.get earlier).id = (arguments.get name).id)
    (haccepts : (arguments.get name).form.Accepts token) :
    (arguments.get earlier).form.Accepts token := by
  unfold Argument.id at hid
  rcases h.declares earlier with ⟨-, first, hearlier⟩ | ⟨hge, first, hearlier⟩
  · rw [hearlier.form] at hid ⊢
    rcases h.declares name with ⟨-, second, hname⟩ | ⟨-, second, hname⟩
    · rw [hname.form] at hid haccepts
      obtain rfl : first = second := hid
      exact haccepts
    · rw [hname.form] at hid haccepts
      obtain rfl : first = second := hid
      obtain rfl : token = first := haccepts
      exact ⟨token, List.mem_singleton_self _, Opens.refl token⟩
  · rw [hearlier.form] at hid ⊢
    rcases h.declares name with ⟨hlt', -⟩ | ⟨-, second, hname⟩
    · omega
    · rw [hname.form] at hid haccepts
      obtain rfl : first = second := hid
      exact haccepts

/-- No token belongs to an argument whose literal stands before it in the table. -/
theorem id_ne_of_owner? {lenient : Bool} {token : String} {name earlier : Fin arguments.length}
    (howner : (Table.ofList arguments lenient).owner? token = some name) (hlt : earlier < name) :
    (arguments.get earlier).id ≠ (arguments.get name).id := by
  obtain ⟨haccepts, hrefused⟩ := Table.first_of_owner?_ofList howner
  intro hid
  exact hrefused earlier hlt (h.accepts_of_id_eq hlt hid haccepts)

end Options.Names

/-! ## What is shown -/

theorem Options.shownBy?_forms {options : Options} (hmode : options.mode = .generic)
    (token : String) :
    shownBy? options.forms token = (options.choice? token).map (options.shownOf token) := by
  have hforms : options.forms =
      options.prefixes.map (fun literal => .prefixed [literal]) ++ options.verbs.map .verb := by
    rw [forms, hmode]
  have hfind : options.forms.find? (·.Accepts token) =
      ((options.choice? token).map options.placeOf).bind fun place => options.forms[place]? := by
    rw [List.find?_eq_bind_findIdx?_getElem?, ← findIdx?_forms, hforms]
  unfold shownBy?
  rw [hfind, hforms]
  rcases hchoice : options.choice? token with _ | ⟨place⟩ | ⟨word⟩
  · rfl
  · obtain ⟨hlt, hopens, -⟩ := (choice?_eq_leading_iff options token place).mp hchoice
    simp [placeOf, shownOf, List.getElem?_append_left, hlt, hopens, Form.literals, Form.valueOf]
  · obtain ⟨rfl, hmem, -⟩ := (choice?_eq_verb_iff options token word).mp hchoice
    simp [placeOf, shownOf, List.getElem?_append_right, hmem, Form.literals, Form.valueOf]

namespace Report

/-- What a report says when each token is read by its choice. -/
structure ReadByChoices (options : Options) (report : Report) : Prop where
  success : report.success = true ↔
    (options.allowUnrecognized = true ∨
      ∀ token ∈ options.tokens, (options.choice? token).isSome = true) ∧
    (options.allowMultiple = true ∨ ∀ place, options.timesChosen (.leading place) ≤ 1) ∧
    ∀ word, options.timesChosen (.verb word) ≤ 1
  instances : report.success = true → report.instances =
    options.tokens.filterMap fun token => (options.choice? token).map (options.shownOf token)
  noneMissing : ∀ entry ∈ report.diagnostics,
    ¬ Opens "A required argument is missing: " entry.message

theorem readByChoices_ofGeneric {options : Options} {arguments : List Argument}
    (hmode : options.mode = .generic) (h : options.Names arguments) :
    let table := Table.ofList arguments options.allowUnrecognized
    ReadByChoices options
      (ofGeneric options table.argument (table.parse options.tokens)).report := by
  intro table
  constructor
  · rw [← options.timesChosen_iff, ← h.fits_iff]
    exact Table.success_iff table options.tokens
  · intro hsuccess
    have hforms := Options.forms_ofList options.allowUnrecognized hmode h
    rw [(consistent_ofGeneric hmode hforms).instances hsuccess]
    simp only [Options.shownBy?_forms hmode]
  · intro entry hmem hopens
    obtain ⟨notice, hnotice, rfl⟩ := List.mem_map.mp hmem
    obtain ⟨description, rfl⟩ :=
      Notice.missing_of_opens (Table.onTokens_of_mem_notices hnotice) hopens
    rcases Table.cases_of_mem_notices hnotice with
      ⟨_, -, heq⟩ | ⟨_, -, _, _, -, heq⟩ | ⟨name, -, hrequired, -⟩
    · cases heq
    · cases heq
    · exact absurd ((h.optional name).symm.trans hrequired) Bool.false_ne_true

/-! ## The law -/

/-- A run over the user's own table reads each token by its choice, if no literal is empty. It goes
through exactly when every token chooses something or may be passed over, no prefix is chosen by
two tokens unless that is allowed, and no verb is chosen by two tokens in any case. Then it shows
the choices in token order. It never tells that an argument is missing. Each literal has an
argument of its own, and a token never belongs to one whose literal was named before. -/
theorem a_run_reads_each_token_by_its_choice {options : Options}
    (hmode : options.mode = .generic) (hliterals : "" ∉ options.prefixes ++ options.verbs) :
    ∃ (arguments : List Argument) (table : Table (Fin arguments.length)) (outcome : Run),
      options.arguments = .ok arguments ∧
      Table.build arguments.get (List.finRange arguments.length) options.allowUnrecognized =
        .ok table ∧
      arguments.map (·.id) = options.prefixes ++ options.verbs ∧
      (∀ token found, table.recognize? token = some found → ∀ earlier < found.name,
        (arguments.get earlier).id ≠ (arguments.get found.name).id) ∧
      outcome = ofGeneric options table.argument (table.parse options.tokens) ∧
      run options = .ok outcome ∧ ReadByChoices options outcome.report := by
  obtain ⟨arguments, harguments, hnames⟩ := Options.arguments_eq_ok hliterals
  refine ⟨arguments, Table.ofList arguments options.allowUnrecognized, _, harguments,
    Table.build_ofList _ _, hnames.map_id, ?_, rfl, run_of_arguments hmode harguments,
    readByChoices_ofGeneric hmode hnames⟩
  intro token found hfound earlier hlt
  rw [Table.recognize?_eq] at hfound
  obtain ⟨name, howner, rfl⟩ := Option.map_eq_some_iff.mp hfound
  exact hnames.id_ne_of_owner? howner hlt

/-- Of prefixes that start each other, and of literals that are named again. -/
theorem named_again_literals_are_passed_by :
    let options : Options :=
      { mode := .generic, prefixes := ["XX", "XX", "X"], verbs := ["XXX", "Y", "Y"]
        allowMultiple := true, tokens := ["XA", "XXX", "Y", "XXB"] }
    options.mode = .generic ∧ "" ∉ options.prefixes ++ options.verbs ∧
      ∃ outcome, run options = .ok outcome ∧ outcome.report.success = true ∧
        outcome.report.instances = [⟨"X", "A"⟩, ⟨"XX", "X"⟩, ⟨"Y", ""⟩, ⟨"XX", "B"⟩] := by
  intro options
  have hliterals : "" ∉ options.prefixes ++ options.verbs := by decide
  have hthrough : (run options).toOption.map (·.report.success) = some true := by decide +kernel
  obtain ⟨_, _, outcome, -, -, -, -, -, hrun, hread⟩ :=
    @a_run_reads_each_token_by_its_choice options rfl hliterals
  rw [hrun] at hthrough
  have hsuccess : outcome.report.success = true := Option.some.inj hthrough
  refine ⟨rfl, hliterals, outcome, hrun, hsuccess, ?_⟩
  rw [hread.instances hsuccess]
  decide +kernel

/-- A verb is never for several tokens. -/
example :
    (run { mode := .generic, verbs := ["Y", "Y"], allowMultiple := true
           tokens := ["Y", "Y"] }).toOption.map (·.report.success) = some false := by
  decide +kernel

end Report

end ArgTable
