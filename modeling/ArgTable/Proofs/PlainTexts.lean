-- The lines of a plain text, and what can be read off them. Joined lines are told apart again
-- exactly when none of them is broken. No label starts with another one, so the values behind a
-- label are found among all lines.
import ArgTable.Proofs.Belonging
import ArgTable.Proofs.Lists
import ArgTable.Report.Plain
import Mathlib.Data.List.Basic

namespace ArgTable

/-! ## Line breaks -/

/-- The text holds no line break. -/
def Unbroken (text : String) : Prop := '\n' ∉ text.toList

instance (text : String) : Decidable (Unbroken text) := inferInstanceAs (Decidable (¬ _))

theorem unbroken_append (text more : String) :
    Unbroken (text ++ more) ↔ Unbroken text ∧ Unbroken more := by
  unfold Unbroken
  rw [String.toList_append, List.mem_append, not_or]

/-- The lines of a text. The empty text has none. -/
def linesIn (text : String) : List String :=
  if text = "" then [] else (text.toList.splitOn '\n').map String.ofList

/-- Lines that say something are read back exactly when none of them is broken. -/
theorem linesIn_intercalate_iff {lines : List String} (hsome : ∀ line ∈ lines, line ≠ "") :
    linesIn (String.intercalate "\n" lines) = lines ↔ ∀ line ∈ lines, Unbroken line := by
  have hsplit (hunbroken : ∀ line ∈ lines, Unbroken line) (hne : lines ≠ []) :
      (String.intercalate "\n" lines).toList.splitOn '\n' = lines.map String.toList := by
    rw [String.toList_intercalate]
    refine List.splitOn_intercalate '\n' ?_ (by simpa using hne)
    intro piece hpiece
    obtain ⟨line, hmem, rfl⟩ := List.mem_map.mp hpiece
    exact hunbroken line hmem
  unfold linesIn
  constructor
  · intro h line hmem
    split at h
    · rw [← h] at hmem
      cases hmem
    · rw [← h] at hmem
      obtain ⟨piece, hpiece, rfl⟩ := List.mem_map.mp hmem
      rw [Unbroken, String.toList_ofList]
      exact not_mem_of_mem_splitOn hpiece
  · intro h
    rcases hlines : lines with _ | ⟨line, more⟩
    · rfl
    · have hpieces := hsplit h (by simp [hlines])
      have htext : String.intercalate "\n" lines ≠ "" := by
        intro hempty
        rw [hempty, hlines] at hpieces
        have hline := (List.cons.inj hpieces).1
        exact hsome line (by simp [hlines]) (String.toList_inj.mp hline.symm)
      rw [← hlines, if_neg htext, hpieces, List.map_map]
      exact (List.map_congr_left fun _ _ => String.ofList_toList).trans (List.map_id lines)

/-! ## Labels -/

namespace Report

/-- The labels of all lines. -/
def labels : List String :=
  ["phase", "settings file", "property", "child argument", "project key", "project name",
    "project version", "organization", "install targets"]

theorem labels_apart : ∀ label ∈ labels, ∀ other ∈ labels,
    Opens (label ++ ": ") (other ++ ": ") → label = other := by
  decide +kernel

theorem labels_unbroken : ∀ label ∈ labels, Unbroken label := by
  decide +kernel

/-- A line has a value behind its own label and behind no other. -/
theorem remainder?_labelled {label other : String} (hlabel : label ∈ labels)
    (hother : other ∈ labels) (value : String) :
    remainder? (label ++ ": ") (labelled other value) =
      if other = label then some value else none := by
  have hopens : Opens (other ++ ": ") (labelled other value) := ⟨value, rfl⟩
  split
  · next h =>
    rw [remainder?_eq_some_iff, h]
    rfl
  · next h =>
    by_contra hsome
    have hopens' := (isSome_remainder?_iff _ _).mp (Option.ne_none_iff_isSome.mp hsome)
    rcases hopens'.comparable hopens with hfirst | hsecond
    · exact h (labels_apart label hlabel other hother hfirst).symm
    · exact h (labels_apart other hother label hlabel hsecond)

/-- The values that stand behind a label, line by line. -/
def valuesAt (label : String) (lines : List String) : List String :=
  lines.filterMap (remainder? (label ++ ": "))

theorem valuesAt_append (label : String) (lines more : List String) :
    valuesAt label (lines ++ more) = valuesAt label lines ++ valuesAt label more :=
  List.filterMap_append

theorem valuesAt_labelled {label other : String} (hlabel : label ∈ labels)
    (hother : other ∈ labels) (values : List String) :
    valuesAt label (values.map (labelled other)) = if other = label then values else [] := by
  have hline : remainder? (label ++ ": ") ∘ labelled other =
      fun value => if other = label then some value else none :=
    funext (remainder?_labelled hlabel hother)
  unfold valuesAt
  rw [List.filterMap_map, hline]
  split
  · exact List.filterMap_some
  · exact List.filterMap_eq_nil_iff.mpr fun _ _ => rfl

/-! ## Groups of lines -/

/-- The values of each label, label after label. -/
abbrev Groups := List (String × List String)

/-- The lines of the groups, one for each value. -/
def groupLines (groups : Groups) : List String :=
  groups.flatMap fun group => group.2.map (labelled group.1)

/-- The labels of the groups are labels of lines, and none comes twice. -/
structure Groups.Good (groups : Groups) : Prop where
  known : ∀ group ∈ groups, group.1 ∈ labels
  distinct : (groups.map (·.1)).Nodup

theorem valuesAt_groupLines_of_not_mem {groups : Groups} {label : String}
    (hknown : ∀ group ∈ groups, group.1 ∈ labels) (hlabel : label ∈ labels)
    (h : label ∉ groups.map (·.1)) : valuesAt label (groupLines groups) = [] := by
  induction groups with
  | nil => rfl
  | cons group groups ih =>
    rw [List.map_cons, List.mem_cons, not_or] at h
    rw [List.forall_mem_cons] at hknown
    unfold groupLines at *
    rw [List.flatMap_cons, valuesAt_append, valuesAt_labelled hlabel hknown.1,
      if_neg (Ne.symm h.1), ih hknown.2 h.2, List.nil_append]

/-- The values of a group are found behind its label. -/
theorem valuesAt_groupLines {groups : Groups} (hgood : groups.Good) {group : String × List String}
    (hmem : group ∈ groups) : valuesAt group.1 (groupLines groups) = group.2 := by
  induction groups with
  | nil => cases hmem
  | cons first groups ih =>
    have hknown := List.forall_mem_cons.mp hgood.known
    have hdistinct := List.nodup_cons.mp (List.map_cons ▸ hgood.distinct)
    have hgood' : Groups.Good groups := ⟨hknown.2, hdistinct.2⟩
    have hlines : groupLines (first :: groups) =
        first.2.map (labelled first.1) ++ groupLines groups := rfl
    have hlabel := hgood.known group hmem
    rw [hlines, valuesAt_append, valuesAt_labelled hlabel hknown.1]
    rcases List.mem_cons.mp hmem with rfl | hmem
    · rw [if_pos rfl, valuesAt_groupLines_of_not_mem hknown.2 hlabel hdistinct.1, List.append_nil]
    · have hne : first.1 ≠ group.1 := fun heq => hdistinct.1 (heq ▸ List.mem_map_of_mem hmem)
      rw [if_neg hne, ih hgood' hmem, List.nil_append]

/-- Groups with the same labels are told apart by the values behind the labels. -/
theorem groups_eq_of_valuesAt {groups others : Groups} (hgood : groups.Good)
    (hgood' : others.Good) (hlabels : groups.map (·.1) = others.map (·.1))
    (h : ∀ label ∈ labels,
      valuesAt label (groupLines groups) = valuesAt label (groupLines others)) :
    groups = others := by
  have hread {each : Groups} (hgood : each.Good) :
      (each.map (·.1)).map (fun label => (label, valuesAt label (groupLines each))) = each := by
    rw [List.map_map]
    refine (List.map_congr_left fun group hmem => ?_).trans (List.map_id each)
    exact Prod.ext rfl (valuesAt_groupLines hgood hmem)
  rw [← hread hgood, ← hread hgood', ← hlabels]
  refine List.map_congr_left fun label hmem => ?_
  obtain ⟨group, hgroup, rfl⟩ := List.mem_map.mp hmem
  rw [h group.1 (hgood.known group hgroup)]

/-- The lines of groups are unbroken when the values are. -/
theorem unbroken_groupLines_iff {groups : Groups} (hknown : ∀ group ∈ groups, group.1 ∈ labels) :
    (∀ line ∈ groupLines groups, Unbroken line) ↔
      ∀ group ∈ groups, ∀ value ∈ group.2, Unbroken value := by
  have hline {label : String} (hlabel : label ∈ labels) (value : String) :
      Unbroken (labelled label value) ↔ Unbroken value := by
    have hlead : Unbroken (label ++ ": ") :=
      (unbroken_append _ _).mpr ⟨labels_unbroken label hlabel, by decide⟩
    unfold labelled
    rw [unbroken_append]
    exact and_iff_right hlead
  unfold groupLines
  simp only [List.mem_flatMap, List.mem_map]
  constructor
  · intro h group hgroup value hvalue
    exact (hline (hknown group hgroup) value).mp (h _ ⟨group, hgroup, value, hvalue, rfl⟩)
  · rintro h _ ⟨group, hgroup, value, hvalue, rfl⟩
    exact (hline (hknown group hgroup) value).mpr (h group hgroup value hvalue)

/-! ## Payloads -/

/-- The property as its line shows it. -/
def propertyText (property : Property) : String := property.key ++ "=" ++ property.value

def bootstrapGroups (settings : Bootstrap.Settings) : Groups := [
  ("phase", [settings.phase.name]),
  ("settings file", settings.settingsFile.toList),
  ("property", settings.properties.map propertyText),
  ("child argument", settings.childArgs)]

def preprocessGroups (settings : Preprocess.Settings) : Groups := [
  ("project key", [settings.projectKey]),
  ("project name", settings.projectName.toList),
  ("project version", settings.projectVersion.toList),
  ("organization", settings.organization.toList),
  ("settings file", settings.settingsFile.toList),
  ("install targets", [Options.boolName settings.installTargets]),
  ("property", settings.properties.map propertyText)]

theorem optionalLine_eq (label : String) (value : Option String) :
    optionalLine label value = value.toList.map (labelled label) := by
  cases value <;> rfl

theorem map_propertyLine (properties : List Property) :
    properties.map propertyLine = (properties.map propertyText).map (labelled "property") := by
  rw [List.map_map]
  rfl

theorem bootstrapLines_eq (settings : Bootstrap.Settings) :
    bootstrapLines settings = groupLines (bootstrapGroups settings) := by
  unfold bootstrapLines groupLines bootstrapGroups
  rw [optionalLine_eq, map_propertyLine]
  simp

theorem preprocessLines_eq (settings : Preprocess.Settings) :
    preprocessLines settings = groupLines (preprocessGroups settings) := by
  unfold preprocessLines groupLines preprocessGroups
  simp only [optionalLine_eq, map_propertyLine]
  simp

theorem good_bootstrapGroups (settings : Bootstrap.Settings) :
    (bootstrapGroups settings).Good where
  known := by simp [bootstrapGroups, labels]
  distinct := by simp [bootstrapGroups]

theorem good_preprocessGroups (settings : Preprocess.Settings) :
    (preprocessGroups settings).Good where
  known := by simp [preprocessGroups, labels]
  distinct := by simp [preprocessGroups]

end Report

end ArgTable
