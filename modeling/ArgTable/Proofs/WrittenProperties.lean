-- How properties are written and read again. A key and a value with an equals sign between them
-- are read as that key and that value, because no key has an equals sign, and no other text is
-- read as a property. So the tokens of a list of properties that can be set are read as that
-- list by either step of the build, and the lists that a step takes are written so in its tokens.
import ArgTable.Proofs.PlainTexts
import ArgTable.Proofs.PreparedAnalyses
import ArgTable.Proofs.StartedBuilds

namespace ArgTable.Property

open Report

/-! ## One property -/

/-- A word character first, and behind it word characters, dots and dashes. -/
def ValidKey (key : String) : Prop :=
  ∃ first rest, key.toList = first :: rest ∧ Text.isWord first = true ∧
    ∀ c ∈ rest, Text.isWord c = true ∨ c = '.' ∨ c = '-'

theorem isKey_iff (key : String) : isKey key.toList = true ↔ ValidKey key := by
  unfold ValidKey
  rcases key.toList with _ | ⟨first, rest⟩
  · simp [isKey]
  · simp [isKey, isKeyChar, or_assoc]

instance (key : String) : Decidable (ValidKey key) := decidable_of_iff _ (isKey_iff key)

/-- The equals sign is no key character, so no key goes on behind one. -/
theorem not_mem_of_isKey {key : List Char} (h : isKey key = true) : '=' ∉ key := by
  have hsign : isKeyChar '=' = false := by decide +kernel
  have hall : ∀ c ∈ key, isKeyChar c = true := by
    cases key with
    | nil => cases h
    | cons first rest =>
      rw [isKey, Bool.and_eq_true, List.all_eq_true] at h
      rw [List.forall_mem_cons]
      exact ⟨by simp [isKeyChar, h.1], h.2⟩
  intro hmem
  rw [hall _ hmem] at hsign
  cases hsign

theorem splitAtEquals_eq_none_iff (text : List Char) :
    splitAtEquals text = none ↔ '=' ∉ text := by
  induction text with
  | nil => simp [splitAtEquals]
  | cons c cs ih =>
    by_cases h : c = '='
    · simp [splitAtEquals, h]
    · have hne : ¬ '=' = c := fun heq => h heq.symm
      simp [splitAtEquals, h, hne, ih]

/-- Either a text has no equals sign, or its first one splits it. -/
theorem no_sign_or_split (text : String) : '=' ∉ text.toList ∨
    ∃ before after : String, text = before ++ "=" ++ after ∧ '=' ∉ before.toList := by
  rcases hsplit : splitAtEquals text.toList with _ | ⟨before, after⟩
  · exact Or.inl ((splitAtEquals_eq_none_iff _).mp hsplit)
  · obtain ⟨htext, hfirst⟩ := (splitAtEquals_eq_some_iff _ _ _).mp hsplit
    refine Or.inr ⟨String.ofList before, String.ofList after, ?_, by simpa using hfirst⟩
    rw [← String.toList_inj, htext]
    simp

theorem parse?_of_no_sign {text : String} (h : '=' ∉ text.toList) : parse? text = none := by
  unfold parse?
  rw [(splitAtEquals_eq_none_iff _).mpr h]

/-- The first equals sign ends the key. -/
theorem parse?_split {before : String} (h : '=' ∉ before.toList) (after : String) :
    parse? (before ++ "=" ++ after) =
      if isKey before.toList then some ⟨before, after⟩ else none := by
  have hsplit : splitAtEquals (before ++ "=" ++ after).toList =
      some (before.toList, after.toList) :=
    (splitAtEquals_eq_some_iff _ _ _).mpr ⟨by simp, h⟩
  unfold parse?
  rw [hsplit]
  simp only [String.ofList_toList]

/-- A text spells a property when it is the property written down and the key is valid. -/
theorem parse?_eq_some_iff (text : String) (property : Property) :
    parse? text = some property ↔ text = propertyText property ∧ ValidKey property.key := by
  rw [← isKey_iff]
  constructor
  · intro h
    rcases no_sign_or_split text with hnone | ⟨before, after, rfl, hfirst⟩
    · rw [parse?_of_no_sign hnone] at h
      cases h
    · rw [parse?_split hfirst, Option.ite_none_right_eq_some] at h
      obtain ⟨hkey, ⟨⟩⟩ := h
      exact ⟨rfl, hkey⟩
  · rintro ⟨rfl, hkey⟩
    unfold propertyText
    rw [parse?_split (not_mem_of_isKey hkey), if_pos hkey]

/-- A text spells no property when it has no equals sign, or no valid key before the first. -/
theorem parse?_eq_none_iff (text : String) :
    parse? text = none ↔ '=' ∉ text.toList ∨
      ∃ before after, text = before ++ "=" ++ after ∧ '=' ∉ before.toList ∧ ¬ ValidKey before := by
  simp only [← isKey_iff]
  constructor
  · intro h
    rcases no_sign_or_split text with hnone | ⟨before, after, rfl, hfirst⟩
    · exact Or.inl hnone
    · rw [parse?_split hfirst] at h
      refine Or.inr ⟨before, after, rfl, hfirst, ?_⟩
      intro hkey
      rw [if_pos hkey] at h
      cases h
  · rintro (hnone | ⟨before, after, rfl, hfirst, hinvalid⟩)
    · exact parse?_of_no_sign hnone
    · rw [parse?_split hfirst, if_neg hinvalid]

/-! ## A list of properties -/

/-- The properties can be set together. Their keys are valid and distinct, and none is reserved. -/
structure Settable (properties : List Property) : Prop where
  valid : ∀ property ∈ properties, ValidKey property.key
  distinct : (properties.map (·.key)).Nodup
  free : ∀ property ∈ properties, property.key ∉ reservedKeys

instance (properties : List Property) : Decidable (Settable properties) :=
  decidable_of_iff
    ((∀ property ∈ properties, ValidKey property.key) ∧ (properties.map (·.key)).Nodup ∧
      ∀ property ∈ properties, property.key ∉ reservedKeys)
    ⟨fun ⟨valid, distinct, free⟩ => ⟨valid, distinct, free⟩, fun h => ⟨h.valid, h.distinct, h.free⟩⟩

theorem map_parse?_eq_map_some_iff (raws : List String) (properties : List Property) :
    raws.map parse? = properties.map some ↔
      raws = properties.map propertyText ∧ ∀ property ∈ properties, ValidKey property.key := by
  induction raws generalizing properties with
  | nil => cases properties <;> simp
  | cons raw raws ih =>
    cases properties with
    | nil => simp
    | cons property properties =>
      simp only [List.map_cons, List.cons.injEq, parse?_eq_some_iff, ih, List.forall_mem_cons]
      tauto

/-- Texts spell the properties that can be set, and only when they are these written down. -/
theorem spelled_iff (raws : List String) (properties : List Property) :
    Spelled raws properties ↔ raws = properties.map propertyText ∧ Settable properties := by
  constructor
  · intro h
    obtain ⟨hraws, hvalid⟩ := (map_parse?_eq_map_some_iff raws properties).mp h.parsed
    exact ⟨hraws, hvalid, h.distinct, h.free⟩
  · rintro ⟨hraws, h⟩
    exact ⟨(map_parse?_eq_map_some_iff raws properties).mpr ⟨hraws, h.valid⟩, h.distinct, h.free⟩

/-! ## The tokens of a list -/

/-- The token that sets the property. -/
def token (property : Property) : String := "/d:" ++ propertyText property

theorem opens_of_mem_tokens {properties : List Property} {written : String}
    (h : written ∈ properties.map token) : Opens "/d:" written := by
  obtain ⟨property, -, rfl⟩ := List.mem_map.mp h
  exact ⟨_, rfl⟩

theorem accepts_of_mem_tokens {properties : List Property} {written : String}
    (h : written ∈ properties.map token) : BuildArgument.property.argument.form.Accepts written :=
  ⟨"/d:", List.mem_singleton_self _, opens_of_mem_tokens h⟩

theorem filter_tokens (properties : List Property) :
    (properties.map token).filter (Opens "/d:" ·) = properties.map token :=
  List.filter_eq_self.mpr fun _ hmem => decide_eq_true (opens_of_mem_tokens hmem)

end ArgTable.Property

namespace ArgTable

theorem Report.map_propertyText {raws : List String} {properties : List Property}
    (h : raws.map Property.parse? = properties.map some) :
    properties.map propertyText = raws :=
  ((Property.map_parse?_eq_map_some_iff raws properties).mp h).1.symm

theorem Form.map_valuesIn (literal : String) (tokens : List String) :
    ((prefixed [literal]).valuesIn tokens).map (literal ++ ·) =
      tokens.filter (Opens literal ·) := by
  have haccepts : ∀ token, (prefixed [literal]).Accepts token ↔ Opens literal token := by
    intro token
    simp [Accepts]
  have hread : ∀ token ∈ tokens.filter (Opens literal ·),
      literal ++ (prefixed [literal]).valueOf token = token := by
    intro token hmem
    have hopens : Opens literal token := of_decide_eq_true (List.mem_filter.mp hmem).2
    obtain ⟨other, hother, hsplit⟩ := exists_literal_of_accepts ((haccepts token).mpr hopens)
    rw [List.mem_singleton.mp hother] at hsplit
    exact hsplit.symm
  unfold valuesIn
  simp only [haccepts]
  rw [List.map_map]
  exact (List.map_congr_left hread).trans (List.map_id' _)

/-- A value is read back from behind its literal when no other literal of the form starts with
that one, or that one with it. -/
theorem Form.valueOf_append {literals : List String}
    (hapart : ∀ first ∈ literals, ∀ second ∈ literals, Opens first second → first = second)
    {literal : String} (hmem : literal ∈ literals) (value : String) :
    (prefixed literals).valueOf (literal ++ value) = value := by
  have haccepts : (prefixed literals).Accepts (literal ++ value) := ⟨literal, hmem, value, rfl⟩
  obtain ⟨other, hother, hsplit⟩ := exists_literal_of_accepts haccepts
  have hsame : other = literal := by
    rcases Opens.comparable ⟨_, hsplit⟩ ⟨value, rfl⟩ with h | h
    · exact hapart other hother literal hmem h
    · exact (hapart literal hmem other hother h).symm
  rw [hsame] at hsplit
  exact ((String.append_right_inj literal).mp hsplit).symm

namespace Property

theorem valuesIn_property_eq_iff (tokens raws : List String) :
    BuildArgument.valuesIn .property tokens = raws ↔
      tokens.filter (Opens "/d:" ·) = raws.map ("/d:" ++ ·) := by
  have hinjective : Function.Injective fun raw : String => "/d:" ++ raw :=
    fun _ _ h => (String.append_right_inj _).mp h
  rw [← Form.map_valuesIn, hinjective.list_map.eq_iff]
  rfl

theorem spelled_in_tokens_iff (tokens : List String) (properties : List Property) :
    Spelled (BuildArgument.valuesIn .property tokens) properties ↔
      tokens.filter (Opens "/d:" ·) = properties.map token ∧ Settable properties := by
  rw [spelled_iff, valuesIn_property_eq_iff, List.map_map]
  rfl

end Property

/-! ## Both steps -/

theorem Bootstrap.reads_tokens {properties : List Property} (h : Property.Settable properties) :
    Reads (properties.map Property.token)
      ⟨phaseOf (properties.map Property.token), properties.map Property.token, none,
        properties⟩ := by
  have hword : ∀ word, ¬ Opens "/d:" word → word ∉ properties.map Property.token :=
    fun _ hopens hmem => hopens (Property.opens_of_mem_tokens hmem)
  refine ⟨?_, rfl, ?_, ?_, ?_⟩
  · rw [List.count_eq_zero_of_not_mem (hword "begin" (by decide)),
      List.count_eq_zero_of_not_mem (hword "end" (by decide))]
    exact Nat.zero_le 1
  · have hverbs : ∀ verb ∈ verbs, ¬ Opens "/d:" verb := by decide
    refine (List.filter_eq_self.mpr ?_).symm
    intro token hmem
    rw [decide_eq_true_eq]
    exact fun hverb => hverbs token hverb (Property.opens_of_mem_tokens hmem)
  · have hproperty : BuildArgument.property ∈ table.order := by decide
    exact table_apart.valuesIn_eq_nil hproperty (by decide) (by decide)
      (fun _ => Property.accepts_of_mem_tokens)
  · rw [Property.spelled_in_tokens_iff]
    exact ⟨Property.filter_tokens properties, h⟩

namespace Preprocess

/-- The two literals that a project key may stand behind. -/
def keyLiterals : List String := ["/key:", "/k:"]

theorem accepts_key {literal : String} (hliteral : literal ∈ keyLiterals) (key : String) :
    BuildArgument.projectKey.argument.form.Accepts (literal ++ key) :=
  ⟨literal, hliteral, key, rfl⟩

theorem valuesIn_key {literal : String} (hliteral : literal ∈ keyLiterals) (key : String) :
    BuildArgument.valuesIn .projectKey [literal ++ key] = [key] := by
  have hapart : ∀ first ∈ keyLiterals, ∀ second ∈ keyLiterals,
      Opens first second → first = second := by decide
  have hvalue : BuildArgument.projectKey.argument.form.valueOf (literal ++ key) = key :=
    Form.valueOf_append hapart hliteral key
  unfold BuildArgument.valuesIn Form.valuesIn
  rw [List.filter_singleton, decide_eq_true (accepts_key hliteral key), cond_true,
    List.map_singleton, hvalue]

theorem not_opens_key {literal : String} (hliteral : literal ∈ keyLiterals) (key : String) :
    ¬ Opens "/d:" (literal ++ key) := by
  have hapart : ∀ literal ∈ keyLiterals, ¬ Opens "/d:" literal ∧ ¬ Opens literal "/d:" := by decide
  intro hopens
  rcases hopens.comparable ⟨key, rfl⟩ with h | h
  · exact (hapart literal hliteral).1 h
  · exact (hapart literal hliteral).2 h

/-- Around another token, those of properties give values to the property argument only. -/
theorem valuesIn_around {name : BuildArgument} (hname : name ∈ table.order)
    (hother : .property ≠ name) (before after : List Property) (token : String) :
    name.valuesIn (before.map Property.token ++ token :: after.map Property.token) =
      name.valuesIn [token] := by
  have hproperty : BuildArgument.property ∈ table.order := by decide
  have hnone : ∀ properties : List Property,
      name.argument.form.valuesIn (properties.map Property.token) = [] :=
    fun properties => table_apart.valuesIn_eq_nil hproperty hname hother
      (fun _ => Property.accepts_of_mem_tokens)
  unfold BuildArgument.valuesIn
  rw [← List.singleton_append, Form.valuesIn_append, Form.valuesIn_append, hnone, hnone,
    List.nil_append, List.append_nil]

/-- Tokens of properties with a key token somewhere among them say the key and the properties. -/
theorem reads_tokens {before after : List Property} (h : Property.Settable (before ++ after))
    {literal key : String} (hliteral : literal ∈ keyLiterals) (hkey : GoodKey key) :
    Reads (before.map Property.token ++ (literal ++ key) :: after.map Property.token)
      ⟨key, none, none, none, true, none, before ++ after⟩ := by
  have hnone : ∀ name ∈ optional, name.valuesIn
      (before.map Property.token ++ (literal ++ key) :: after.map Property.token) = [] := by
    intro name hname
    have horder : name ∈ table.order ∧ .property ≠ name ∧ .projectKey ≠ name := by
      revert name
      decide
    have hproject : BuildArgument.projectKey ∈ table.order := by decide
    rw [valuesIn_around horder.1 horder.2.1]
    refine table_apart.valuesIn_eq_nil hproject horder.1 horder.2.2 ?_
    intro token hmem
    rw [List.mem_singleton.mp hmem]
    exact accepts_key hliteral key
  constructor
  · intro token hmem
    rw [List.mem_append, List.mem_cons] at hmem
    rcases hmem with hmem | rfl | hmem
    · exact ⟨"/d:", by decide, Property.opens_of_mem_tokens hmem⟩
    · have hknown : ∀ literal ∈ keyLiterals, literal ∈ literals := by decide
      exact ⟨literal, hknown literal hliteral, key, rfl⟩
    · exact ⟨"/d:", by decide, Property.opens_of_mem_tokens hmem⟩
  · rw [valuesIn_around (by decide) (by decide), valuesIn_key hliteral]
  · exact hkey
  · exact hnone _ (by decide)
  · exact hnone _ (by decide)
  · exact hnone _ (by decide)
  · exact Or.inl ⟨hnone _ (by decide), rfl⟩
  · exact hnone _ (by decide)
  · rw [Property.spelled_in_tokens_iff]
    refine ⟨?_, h⟩
    rw [List.filter_append, List.filter_cons_of_neg (by simpa using not_opens_key hliteral key),
      Property.filter_tokens, Property.filter_tokens, List.map_append]

end Preprocess

namespace Property

/-- A property is read back from its text, and only from that, and a text is read unless it has
no equals sign or no valid key before the first one. So either step of the build takes the tokens
of properties that can be set for these properties, the second one next to a key, and whatever
properties a step takes can be set and are those of its property tokens, in order. -/
theorem properties_are_read_as_they_are_written :
    (∀ key value, ValidKey key → parse? (key ++ "=" ++ value) = some ⟨key, value⟩) ∧
    (∀ text property, parse? text = some property →
      ValidKey property.key ∧ text = property.key ++ "=" ++ property.value) ∧
    (∀ text, parse? text = none ↔ '=' ∉ text.toList ∨
      ∃ before after, text = before ++ "=" ++ after ∧ '=' ∉ before.toList ∧ ¬ ValidKey before) ∧
    (∀ properties, Settable properties →
      (Bootstrap.process (properties.map token)).accepted =
        some ⟨Bootstrap.phaseOf (properties.map token), properties.map token, none, properties⟩) ∧
    (∀ before after literal key, Settable (before ++ after) → literal ∈ ["/key:", "/k:"] →
      Preprocess.GoodKey key →
        (Preprocess.process (before.map token ++ (literal ++ key) :: after.map token)).accepted =
          some ⟨key, none, none, none, true, none, before ++ after⟩) ∧
    (∀ tokens settings, (Bootstrap.process tokens).accepted = some settings →
      Settable settings.properties ∧
        tokens.filter (Opens "/d:" ·) = settings.properties.map token) ∧
    ∀ tokens settings, (Preprocess.process tokens).accepted = some settings →
      Settable settings.properties ∧
        tokens.filter (Opens "/d:" ·) = settings.properties.map token := by
  refine ⟨?_, ?_, parse?_eq_none_iff, ?_, ?_, ?_, ?_⟩
  · intro key value hkey
    exact (parse?_eq_some_iff _ ⟨key, value⟩).mpr ⟨rfl, hkey⟩
  · intro text property h
    exact ((parse?_eq_some_iff text property).mp h).symm
  · intro properties h
    exact (Bootstrap.accepted_eq_some_iff _ _).mpr (Bootstrap.reads_tokens h)
  · intro before after literal key h hliteral hkey
    exact (Preprocess.accepted_eq_some_iff _ _).mpr (Preprocess.reads_tokens h hliteral hkey)
  · intro tokens settings h
    have hreads := (Bootstrap.accepted_eq_some_iff tokens settings).mp h
    exact ((spelled_in_tokens_iff tokens _).mp hreads.properties).symm
  · intro tokens settings h
    have hreads := (Preprocess.accepted_eq_some_iff tokens settings).mp h
    exact ((spelled_in_tokens_iff tokens _).mp hreads.properties).symm

/-- With the key between two properties, and an equals sign in the value of one. -/
theorem two_properties_are_read_around_a_key :
    Settable [⟨"sonar.a", "x=y"⟩, ⟨"b", ""⟩] ∧
      (Preprocess.process ["/d:sonar.a=x=y", "/key:p", "/d:b="]).accepted =
        some ⟨"p", none, none, none, true, none, [⟨"sonar.a", "x=y"⟩, ⟨"b", ""⟩]⟩ := by
  have hsettable : Settable [⟨"sonar.a", "x=y"⟩, ⟨"b", ""⟩] := by decide +kernel
  have hkey : Preprocess.GoodKey "p" := by
    rw [← Preprocess.isValid_iff_goodKey]
    decide
  obtain ⟨-, -, -, -, hread, -⟩ := properties_are_read_as_they_are_written
  exact ⟨hsettable, hread [⟨"sonar.a", "x=y"⟩] [⟨"b", ""⟩] "/key:" "p" hsettable (by decide) hkey⟩

end Property

end ArgTable
