-- Starts without a verb. They are older than the verbs, and as soon as there are tokens they mean
-- `begin`: the verb can be put in anywhere, and the same is accepted, handed on and told as an
-- error. Only the warning about the missing verb goes, if the tokens can be read at all.
import ArgTable.Proofs.BothSteps
import ArgTable.Proofs.HiddenProperties

namespace ArgTable

/-! ## One token put in -/

namespace Table

variable {ι : Type} [DecidableEq ι] {table : Table ι} {name : ι} {token : String}
  {before after : List String}

theorem tokensOf_insert_of_ne (howner : table.owner? token = some name) {other : ι}
    (hne : other ≠ name) :
    table.tokensOf (before ++ token :: after) other = table.tokensOf (before ++ after) other := by
  have hnot : table.owner? token ≠ some other := by
    rw [howner]
    exact fun heq => hne (Option.some.inj heq).symm
  rw [tokensOf_append, tokensOf_append, tokensOf_cons_of_neg hnot]

theorem tokensOf_insert_self (howner : table.owner? token = some name)
    (hnone : table.tokensOf (before ++ after) name = []) :
    table.tokensOf (before ++ token :: after) name = [token] := by
  rw [tokensOf_append, List.append_eq_nil_iff] at hnone
  rw [tokensOf_append, tokensOf_cons_of_pos howner, hnone.1, hnone.2]
  rfl

/-- The first token of an argument that is not required changes nothing in what is told. -/
theorem notices_insert (howner : table.owner? token = some name)
    (hnone : table.tokensOf (before ++ after) name = [])
    (hoptional : (table.argument name).required = false) :
    table.notices (before ++ token :: after) = table.notices (before ++ after) := by
  have hself := tokensOf_insert_self howner hnone
  have hstrangers : table.strangers (before ++ token :: after) =
      table.strangers (before ++ after) := by
    rw [strangers_eq, strangers_eq, List.filter_append, List.filter_append,
      List.filter_cons_of_neg (by simp [howner])]
  have hrepeats : table.repeats (table.matched (before ++ token :: after)) =
      table.repeats (table.matched (before ++ after)) := by
    unfold repeats
    congr 1
    funext other
    rw [repeatsOf_matched, repeatsOf_matched]
    by_cases hother : other = name
    · rw [hother, hself, hnone]
      simp
    · rw [tokensOf_insert_of_ne howner hother]
  have hmissing : table.missing (table.matched (before ++ token :: after)) =
      table.missing (table.matched (before ++ after)) := by
    rw [missing_matched, missing_matched]
    congr 2
    funext other
    by_cases hother : other = name
    · rw [hother, hoptional, Bool.false_and, Bool.false_and]
    · rw [tokensOf_insert_of_ne howner hother]
  rw [notices_eq, notices_eq, hstrangers, hrepeats, hmissing]

end Table

namespace Bootstrap

/-! ## Tokens without a verb -/

/-- There are tokens, and none of them is a verb. -/
structure Verbless (tokens : List String) : Prop where
  ne_nil : tokens ≠ []
  noBegin : "begin" ∉ tokens
  noEnd : "end" ∉ tokens

section
variable {before after : List String} (h : Verbless (before ++ after))
include h

theorem Verbless.withoutVerbs_eq : withoutVerbs (before ++ after) = before ++ after := by
  apply withoutVerbs_eq_self
  rw [← count_verbs, List.count_eq_zero.mpr h.noBegin, List.count_eq_zero.mpr h.noEnd]

theorem Verbless.withoutVerbs_begun :
    withoutVerbs (before ++ "begin" :: after) = before ++ after := by
  rw [← h.withoutVerbs_eq, withoutVerbs_append, withoutVerbs_append]
  rfl

theorem Verbless.valuesIn_begun {name : BuildArgument} (hname : name ∈ shared) :
    name.valuesIn (before ++ "begin" :: after) = name.valuesIn (before ++ after) := by
  rw [← valuesIn_withoutVerbs hname, h.withoutVerbs_begun]

theorem Verbless.oneVerb :
    (before ++ after).count "begin" + (before ++ after).count "end" = 0 ∧
      (before ++ "begin" :: after).count "begin" + (before ++ "begin" :: after).count "end" = 1 := by
  have hbegin := List.count_eq_zero.mpr h.noBegin
  have hend := List.count_eq_zero.mpr h.noEnd
  have hmore : ("begin" :: after).count "begin" + ("begin" :: after).count "end" =
      after.count "begin" + after.count "end" + 1 := by
    simp
    omega
  rw [List.count_append] at hbegin hend
  rw [List.count_append, List.count_append, List.count_append, List.count_append]
  omega

/-- With one verb at most, only a second settings file keeps the tokens from being read. -/
theorem Verbless.fits_iff :
    (table.Fits (before ++ after) ↔
        ¬ 1 < (before ++ after).countP fun token => Opens "/s:" token) ∧
      (table.Fits (before ++ "begin" :: after) ↔
        ¬ 1 < (before ++ after).countP fun token => Opens "/s:" token) := by
  obtain ⟨hnone, hone⟩ := h.oneVerb
  have hfile := length_valuesIn_settingsFile (before ++ "begin" :: after)
  rw [h.valuesIn_begun (by decide), length_valuesIn_settingsFile] at hfile
  rw [fits_iff_not_crowded, fits_iff_not_crowded, hfile]
  unfold Crowded
  omega

theorem Verbless.phaseOf_eq :
    phaseOf (before ++ after) = .preProcessing ∧
      phaseOf (before ++ "begin" :: after) = .preProcessing := by
  unfold phaseOf
  rw [if_neg h.noBegin, if_neg h.noEnd, if_neg h.ne_nil, if_pos (by simp)]
  exact ⟨rfl, rfl⟩

/-! ## Two starts -/

theorem Verbless.reads_begun_iff (settings : Settings) :
    Reads (before ++ "begin" :: after) settings ↔ Reads (before ++ after) settings := by
  obtain ⟨hnone, hone⟩ := h.oneVerb
  obtain ⟨hphase, hphase'⟩ := h.phaseOf_eq
  have hfile : BuildArgument.valuesIn .settingsFile (before ++ "begin" :: after) =
      BuildArgument.valuesIn .settingsFile (before ++ after) := h.valuesIn_begun (by decide)
  have hproperty : BuildArgument.valuesIn .property (before ++ "begin" :: after) =
      BuildArgument.valuesIn .property (before ++ after) := h.valuesIn_begun (by decide)
  constructor
  · rintro ⟨-, phase, childArgs, settingsFile, properties⟩
    rw [hphase', ← hphase] at phase
    rw [h.withoutVerbs_begun, ← h.withoutVerbs_eq] at childArgs
    rw [hfile] at settingsFile
    rw [hproperty] at properties
    exact ⟨by omega, phase, childArgs, settingsFile, properties⟩
  · rintro ⟨-, phase, childArgs, settingsFile, properties⟩
    rw [hphase, ← hphase'] at phase
    rw [h.withoutVerbs_eq, ← h.withoutVerbs_begun] at childArgs
    rw [← hfile] at settingsFile
    rw [← hproperty] at properties
    exact ⟨by omega, phase, childArgs, settingsFile, properties⟩

theorem Verbless.accepted_begun :
    (process (before ++ "begin" :: after)).accepted = (process (before ++ after)).accepted := by
  apply Option.ext
  intro settings
  rw [accepted_eq_some_iff, accepted_eq_some_iff]
  exact h.reads_begun_iff settings

theorem Verbless.notices_begun :
    table.notices (before ++ "begin" :: after) = table.notices (before ++ after) := by
  apply Table.notices_insert ((isVerb_begin.owner?_eq_iff "begin").mpr rfl) ?_ rfl
  rw [← List.length_eq_zero_iff, isVerb_begin.length_tokensOf]
  exact List.count_eq_zero.mpr h.noBegin

/-- Both starts tell the same errors. The one without a verb warns that it has none, and so does
the other one when the table cannot read the tokens. -/
theorem Verbless.told : ∃ told : List Notice,
    (∀ notice ∈ told, notice.severity = .error) ∧
      (process (before ++ after)).notices = told ++ [.neitherPhase] ∧
      (process (before ++ "begin" :: after)).notices = told ++
        if 1 < (before ++ after).countP fun token => Opens "/s:" token then [.neitherPhase]
        else [] := by
  obtain ⟨hplain, hbegun⟩ := h.fits_iff
  by_cases htwo : 1 < (before ++ after).countP fun token => Opens "/s:" token
  · refine ⟨table.notices (before ++ after), fun _ => Table.severity_of_mem_notices, ?_, ?_⟩
    · exact process_notices_of_not_fits fun hfits => hplain.mp hfits htwo
    · rw [process_notices_of_not_fits fun hfits => hbegun.mp hfits htwo, h.notices_begun,
        if_pos htwo]
  · have hphase := choosePhase_parse (hplain.mpr htwo)
    have hphase' := choosePhase_parse (hbegun.mpr htwo)
    have hend : "end" ∉ before ++ "begin" :: after := by
      have hnot := h.noEnd
      simp_all
    rw [if_neg fun hboth => h.noBegin hboth.1, if_neg (not_or.mpr ⟨h.noBegin, h.noEnd⟩)] at hphase
    rw [if_neg fun hboth => hend hboth.2, if_pos (Or.inl (by simp))] at hphase'
    refine ⟨table.notices (before ++ after) ++
      Property.noticesOf (BuildArgument.valuesIn .property (before ++ after)), ?_, ?_, ?_⟩
    · intro notice hmem
      rcases List.mem_append.mp hmem with hmem | hmem
      · exact Table.severity_of_mem_notices hmem
      · exact Notice.severity_of_onProperty (Property.onProperty_of_mem_noticesOf hmem)
    · rw [process_notices_of_fits (hplain.mpr htwo), hphase]
    · rw [process_notices_of_fits (hbegun.mpr htwo), hphase', h.notices_begun,
        h.valuesIn_begun (by decide), if_neg htwo]

theorem Verbless.told_of_accepted {settings : Settings}
    (haccepted : (process (before ++ after)).accepted = some settings) :
    (process (before ++ after)).notices = [.neitherPhase] ∧
      (process (before ++ "begin" :: after)).notices = [] ∧
      ∃ earlier later, (process (before ++ after)).instances = earlier ++ later ∧
        (process (before ++ "begin" :: after)).instances =
          earlier ++ ⟨.beginVerb, ""⟩ :: later := by
  have hreads := (accepted_eq_some_iff _ _).mp haccepted
  obtain ⟨hnotices, hinstances⟩ := told_of_reads hreads
  obtain ⟨hnotices', hinstances'⟩ := told_of_reads ((h.reads_begun_iff settings).mpr hreads)
  rw [if_neg (not_or.mpr ⟨h.noBegin, h.noEnd⟩)] at hnotices
  rw [if_pos (Or.inl (by simp))] at hnotices'
  refine ⟨hnotices, hnotices', before.filterMap table.recognize?,
    after.filterMap table.recognize?, ?_, ?_⟩
  · rw [hinstances, List.filterMap_append]
  · have hverb : table.recognize? "begin" = some ⟨.beginVerb, ""⟩ := by decide +kernel
    rw [hinstances', List.filterMap_append, List.filterMap_cons_some hverb]

end

/-! ## The law -/

/-- A start with tokens and no verb is the start with `begin` put in anywhere: it is accepted with
the same settings, or refused, and it tells the same errors. When it is accepted, it shows the
same instances but that of the verb, and the warning about the missing verb is all that is told,
by this start alone. When it is refused, neither start shows an instance, and with a second
settings file both warn. -/
theorem a_start_without_a_verb_means_begin {before after : List String}
    (h : Verbless (before ++ after)) :
    let plain := process (before ++ after)
    let begun := process (before ++ "begin" :: after)
    begun.accepted = plain.accepted ∧
      (∀ journal : Journal,
        (journal.recordAll (begun.notices.map (·.diagnostic))).messages .error =
          (journal.recordAll (plain.notices.map (·.diagnostic))).messages .error) ∧
      (∀ settings, plain.accepted = some settings →
        settings.phase = .preProcessing ∧ settings.childArgs = before ++ after ∧
          plain.notices = [.neitherPhase] ∧ begun.notices = [] ∧
          ∃ earlier later, plain.instances = earlier ++ later ∧
            begun.instances = earlier ++ ⟨.beginVerb, ""⟩ :: later) ∧
      (plain.accepted = none → plain.instances = [] ∧ begun.instances = [] ∧
        ∃ told : List Notice, (∀ notice ∈ told, notice.severity = .error) ∧
          plain.notices = told ++ [.neitherPhase] ∧
          begun.notices = told ++
            if 1 < (before ++ after).countP fun token => Opens "/s:" token then [.neitherPhase]
            else []) := by
  have haccepted := h.accepted_begun
  obtain ⟨told, herrors, hplain, hbegun⟩ := h.told
  refine ⟨haccepted, ?_, ?_, ?_⟩
  · intro journal
    rw [hplain, hbegun]
    unfold Journal.messages Journal.recordAll
    split <;> simp [Notice.diagnostic, Notice.severity]
  · intro settings hsettings
    have hreads := (accepted_eq_some_iff _ _).mp hsettings
    exact ⟨hreads.phase.trans h.phaseOf_eq.1, hreads.childArgs.trans h.withoutVerbs_eq,
      h.told_of_accepted hsettings⟩
  · intro hrefused
    exact ⟨(process_instances _).instances_eq_nil hrefused,
      (process_instances _).instances_eq_nil (haccepted.trans hrefused), told, herrors, hplain,
      hbegun⟩

/-- Of tokens on either side of the verb, with a settings file and a property among them. -/
theorem a_start_with_three_tokens_means_begin :
    Verbless (["/s:f", "x"] ++ ["/d:a=b"]) ∧
      (process ["/s:f", "x", "/d:a=b"]).accepted =
        some ⟨.preProcessing, ["/s:f", "x", "/d:a=b"], some "f", [⟨"a", "b"⟩]⟩ ∧
      (process ["/s:f", "x", "begin", "/d:a=b"]).accepted =
        some ⟨.preProcessing, ["/s:f", "x", "/d:a=b"], some "f", [⟨"a", "b"⟩]⟩ ∧
      (process ["/s:f", "x", "/d:a=b"]).notices = [.neitherPhase] ∧
      (process ["/s:f", "x", "begin", "/d:a=b"]).notices = [] := by
  have h : Verbless (["/s:f", "x"] ++ ["/d:a=b"]) := ⟨by decide, by decide, by decide⟩
  have haccepted : (process ["/s:f", "x", "/d:a=b"]).accepted =
      some ⟨.preProcessing, ["/s:f", "x", "/d:a=b"], some "f", [⟨"a", "b"⟩]⟩ := by
    decide +kernel
  obtain ⟨hbegun, -, htold, -⟩ := a_start_without_a_verb_means_begin h
  obtain ⟨-, -, hplain, hnone, -⟩ := htold _ haccepted
  exact ⟨h, haccepted, hbegun.trans haccepted, hplain, hnone⟩

end Bootstrap

end ArgTable
