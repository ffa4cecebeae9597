-- What the JSON text of a report tells. The text spells the document of the report and no other,
-- and the document keeps every part of the report apart, so the text determines the report.
import ArgTable.Proofs.JsonTexts
import ArgTable.Report.Document
import Mathlib.Data.List.Basic

namespace ArgTable

/-! ## Parts of the document -/

/-- No text is taken for an absent one. -/
theorem Json.ofOption_injective : Function.Injective Json.ofOption := by
  intro value other h
  rcases value with _ | text <;> rcases other with _ | text'
  · rfl
  · cases h
  · cases h
  · exact congrArg some (Json.text.inj h)

namespace Report

theorem recognizedDocument_injective : Function.Injective recognizedDocument := by
  rintro ⟨argument, value⟩ ⟨argument', value'⟩ h
  simpa [recognizedDocument] using h

theorem propertyDocument_injective : Function.Injective propertyDocument := by
  rintro ⟨key, value⟩ ⟨key', value'⟩ h
  simpa [propertyDocument] using h

theorem diagnosticDocument_injective : Function.Injective diagnosticDocument := by
  rintro ⟨severity, message⟩ ⟨severity', message'⟩ h
  simpa [diagnosticDocument, Severity.name_injective.eq_iff] using h

theorem list_injective {α : Type} {document : α → Json} (h : Function.Injective document) :
    Function.Injective fun things : List α => Json.list (things.map document) := by
  intro things others heq
  exact h.list_map (Json.list.inj heq)

theorem bootstrapFields_injective : Function.Injective bootstrapFields := by
  rintro ⟨phase, childArgs, settingsFile, properties⟩
    ⟨phase', childArgs', settingsFile', properties'⟩ h
  simp only [bootstrapFields, List.cons.injEq, Prod.mk.injEq, true_and, and_true] at h
  obtain ⟨hphase, hchild, hfile, hproperties⟩ := h
  rw [Phase.name_injective (Json.text.inj hphase),
    list_injective (fun _ _ => Json.text.inj) hchild, Json.ofOption_injective hfile,
    list_injective propertyDocument_injective hproperties]

theorem preprocessFields_injective : Function.Injective preprocessFields := by
  rintro ⟨key, name, version, organization, install, file, properties⟩
    ⟨key', name', version', organization', install', file', properties'⟩ h
  simp only [preprocessFields, List.cons.injEq, Prod.mk.injEq, true_and, and_true] at h
  obtain ⟨hkey, hname, hversion, horganization, hinstall, hfile, hproperties⟩ := h
  rw [Json.text.inj hkey, Json.ofOption_injective hname, Json.ofOption_injective hversion,
    Json.ofOption_injective horganization, Json.bool.inj hinstall, Json.ofOption_injective hfile,
    list_injective propertyDocument_injective hproperties]

/-! ## The payloads -/

/-- Fields that are there are told from no fields. -/
theorem fieldsOf_injective {α : Type} {fields : α → List (String × Json)}
    (hsome : ∀ settings, fields settings ≠ []) (h : Function.Injective fields) :
    Function.Injective (fieldsOf fields) := by
  intro payload other heq
  rcases payload with _ | settings <;> rcases other with _ | settings'
  · rfl
  · exact absurd heq.symm (hsome settings')
  · exact absurd heq (hsome settings)
  · exact congrArg some (h heq)

theorem length_bootstrapFields (payload : Option Bootstrap.Settings) :
    (fieldsOf bootstrapFields payload).length = 4 * payload.toList.length := by
  cases payload <;> rfl

theorem length_preprocessFields (payload : Option Preprocess.Settings) :
    (fieldsOf preprocessFields payload).length = 7 * payload.toList.length := by
  cases payload <;> rfl

/-- The fields tell both payloads apart, although two names stand in both. The count of the
fields, which is none, four, seven or eleven, tells which payloads are there. -/
theorem payloads_inj {bootstrap bootstrap' : Option Bootstrap.Settings}
    {preprocess preprocess' : Option Preprocess.Settings}
    (h : fieldsOf bootstrapFields bootstrap ++ fieldsOf preprocessFields preprocess =
      fieldsOf bootstrapFields bootstrap' ++ fieldsOf preprocessFields preprocess') :
    bootstrap = bootstrap' ∧ preprocess = preprocess' := by
  have hcount := congrArg List.length h
  rw [List.length_append, List.length_append] at hcount
  have hlength : (fieldsOf bootstrapFields bootstrap).length =
      (fieldsOf bootstrapFields bootstrap').length := by
    have hle := @Option.length_toList_le _ preprocess
    have hle' := @Option.length_toList_le _ preprocess'
    simp only [length_bootstrapFields, length_preprocessFields] at hcount ⊢
    omega
  obtain ⟨hbootstrap, hpreprocess⟩ := List.append_inj h hlength
  constructor
  · exact fieldsOf_injective (fun _ => List.cons_ne_nil _ _) bootstrapFields_injective hbootstrap
  · exact fieldsOf_injective (fun _ => List.cons_ne_nil _ _) preprocessFields_injective hpreprocess

/-- Different reports have different documents. -/
theorem document_injective : Function.Injective document := by
  rintro ⟨mode, success, instances, bootstrap, preprocess, diagnostics⟩
    ⟨mode', success', instances', bootstrap', preprocess', diagnostics'⟩ h
  have hfields := Json.record.inj h
  simp only [List.append_assoc, List.cons_append, List.nil_append, List.cons.injEq,
    Prod.mk.injEq, true_and] at hfields
  obtain ⟨hmode, hsuccess, hinstances, hmore⟩ := hfields
  rw [← List.append_assoc, ← List.append_assoc] at hmore
  obtain ⟨hpayloads, hlast⟩ := List.append_inj' hmore rfl
  obtain ⟨rfl, rfl⟩ := payloads_inj hpayloads
  have hdiagnostics := (Prod.mk.inj (List.singleton_inj.mp hlast)).2
  rw [Mode.name_injective (Json.text.inj hmode), Json.bool.inj hsuccess,
    list_injective recognizedDocument_injective hinstances,
    list_injective diagnosticDocument_injective hdiagnostics]

/-! ## The law -/

theorem spells_jsonText (report : Report) : Json.Spells report.jsonText report.document := by
  rw [jsonText]
  exact Json.spells_pretty report.document

/-- The JSON text of a report is one well-formed document, in which every text is read back as
it was and every raw line break stands outside the texts. It determines the report, with all
that is told, with both payloads, with one or with none. -/
theorem the_json_text_determines_the_report (report : Report) :
    Json.Spells report.jsonText report.document ∧
      (∀ document, Json.Spells report.jsonText document → document = report.document) ∧
      Json.BreaksOutside .outside report.jsonText.toList ∧
      ∀ other : Report, other.jsonText = report.jsonText → other = report := by
  have hspells := spells_jsonText report
  refine ⟨hspells, ?_, ?_, ?_⟩
  · intro document hdocument
    exact hdocument.unique hspells
  · rw [jsonText]
    exact Json.breaksOutside_pretty report.document
  · intro other htext
    have hother := spells_jsonText other
    rw [htext] at hother
    exact document_injective (hother.unique hspells)

end Report

end ArgTable
