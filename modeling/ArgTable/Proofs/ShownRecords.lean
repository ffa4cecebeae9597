-- What the stream shows of records, and what is read of them again. Each record is cleared of the
-- terminal controls in its message, and a control that is left open can take the line break that
-- ends its record. Then the record runs on into the next. Records whose messages have no control
-- are read as they are, and no line starts a record that was not logged.
import ArgTable.Proofs.ReadLogs

namespace ArgTable

namespace Text

/-! ## What is shown -/

theorem shows_of_shows {stage : ControlStage} {c : Char} (h : stage.shows c = true) :
    ControlStage.rest.shows c = true := by
  cases stage <;> simp_all [ControlStage.shows]

/-- Whatever the text, what is shown of it has no control. -/
theorem all_shows_shownFrom (stage : ControlStage) (showing : Bool) (cs : List Char) :
    (shownFrom stage showing cs).all ControlStage.rest.shows = true := by
  induction cs generalizing stage showing with
  | nil => rfl
  | cons c cs ih =>
    rw [shownFrom]
    split
    · next h =>
      rw [List.all_cons, ih, Bool.and_true]
      rw [Bool.or_eq_true, Bool.and_eq_true] at h
      rcases h with h | ⟨-, h⟩
      · exact shows_of_shows h
      · exact h
    · exact ih _ false

theorem shown_withoutControls (text : String) : Shown (withoutControls text) := by
  rw [Shown, withoutControls, String.toList_ofList]
  exact all_shows_shownFrom .rest false text.toList

end Text

namespace LogRecord

open Text

/-! ## Indented texts -/

/-- The text without the spaces behind its line breaks, and without a line break at its end. -/
def unindented : List Char → List Char
  | [] => []
  | ['\n'] => []
  | '\n' :: ' ' :: ' ' :: ' ' :: ' ' :: cs => '\n' :: unindented cs
  | c :: cs => c :: unindented cs

theorem unindented_sublist (cs : List Char) : (unindented cs).Sublist cs := by
  induction cs using unindented.induct with
  | case1 => exact List.Sublist.refl []
  | case2 => exact List.nil_sublist _
  | case3 cs ih =>
    refine List.Sublist.cons_cons '\n' ?_
    exact ((((ih.cons ' ').cons ' ').cons ' ').cons ' ')
  | case4 c cs hend hspaces ih =>
    rw [unindented]
    · exact ih.cons_cons c
    · exact hend
    · exact hspaces

theorem unindented_indented (cs : List Char) : unindented (indented cs ++ ['\n']) = cs := by
  induction cs using indented.induct with
  | case1 => rfl
  | case2 cs ih => simp [indented, unindented, ih]
  | case3 c cs hc ih =>
    rw [indented, List.cons_append, unindented, ih]
    · exact fun heq => absurd heq hc
    · exact fun _ heq => absurd heq hc
    · exact hc

/-- An indented text is the indentation of another, and a line break may end it. -/
theorem eq_indented {cs : List Char} (h : Indented cs) :
    cs = indented (unindented cs) ++ if ['\n'] <:+ cs then ['\n'] else [] := by
  induction cs using unindented.induct with
  | case1 => rfl
  | case2 => rfl
  | case3 cs ih =>
    have hcs : Indented cs := fun after hafter =>
      h after (hafter.trans (List.suffix_append ['\n', ' ', ' ', ' ', ' '] cs))
    have hend : ['\n'] <:+ '\n' :: ' ' :: ' ' :: ' ' :: ' ' :: cs ↔ ['\n'] <:+ cs := by
      simp [List.suffix_cons_iff]
    rw [unindented, indented, if_congr hend rfl rfl]
    simp only [List.cons_append]
    rw [← ih hcs]
  | case4 c cs hend hspaces ih =>
    -- a line break here would have its spaces behind it, or nothing
    have hc : c ≠ '\n' := by
      rintro rfl
      rcases h cs List.suffix_rfl with rfl | ⟨more, rfl⟩
      · exact hend rfl rfl
      · exact hspaces more rfl rfl
    have hcs : Indented cs := fun after hafter => h after (hafter.trans (List.suffix_cons c cs))
    have hlast : ['\n'] <:+ c :: cs ↔ ['\n'] <:+ cs := by
      simp [List.suffix_cons_iff, hc.symm]
    rw [unindented, indented, if_congr hlast rfl rfl, List.cons_append, ← ih hcs]
    · exact hc
    · exact hend
    · exact hspaces

/-! ## One record -/

/-- What the stream shows of a message and of the line break that ends its record. -/
def shownText (message : String) : String := withoutControls (indentedText message ++ "\n")

/-- The stream shows the line break that ends the record. -/
def Closes (message : String) : Prop := ['\n'] <:+ (shownText message).toList

instance (message : String) : Decidable (Closes message) :=
  inferInstanceAs (Decidable (_ <:+ _))

/-- The message as the stream shows it. -/
def shownMessage (message : String) : String :=
  String.ofList (unindented (shownText message).toList)

theorem shown_shownMessage (message : String) : Shown (shownMessage message) := by
  have hshown := shown_withoutControls (indentedText message ++ "\n")
  rw [Shown, List.all_eq_true] at hshown
  rw [Shown, shownMessage, String.toList_ofList, List.all_eq_true]
  intro c hc
  exact hshown c ((unindented_sublist _).mem hc)

theorem shownText_eq (message : String) : shownText message =
    indentedText (shownMessage message) ++ if Closes message then "\n" else "" := by
  have hindented : Indented (shownText message).toList := by
    have hshown := indented_shownFrom message.toList .rest false
    rwa [shownText, withoutControls, String.toList_ofList, indentedText, String.toList_append,
      String.toList_ofList]
  have htext := eq_indented hindented
  rw [← String.toList_inj, String.toList_append, indentedText, shownMessage, String.toList_ofList,
    String.toList_ofList, apply_ite String.toList]
  exact htext

theorem written_eq_header (record : LogRecord) :
    record.written = header record.level ++ shownText record.message := by
  rw [written, layout_eq_indentedText, String.append_assoc,
    withoutControls_append (shown_header record.level), shownText]

theorem shownText_of_shown {message : String} (h : Shown message) :
    shownText message = indentedText message ++ "\n" := by
  refine withoutControls_eq_self ((shown_append _ _).mpr ⟨?_, by decide +kernel⟩)
  rw [Shown, indentedText, String.toList_ofList]
  exact all_shows_indented h

theorem closes_of_shown {message : String} (h : Shown message) : Closes message := by
  rw [Closes, shownText_of_shown h, String.toList_append]
  exact List.suffix_append _ _

theorem shownMessage_of_shown {message : String} (h : Shown message) :
    shownMessage message = message := by
  rw [shownMessage, shownText_of_shown h, String.toList_append, indentedText, String.toList_ofList]
  exact (congrArg String.ofList (unindented_indented message.toList)).trans String.ofList_toList

/-! ## The stream -/

/-- The records as the stream shows them. One whose line break is not shown runs on into the
next. -/
def joined : List LogRecord → List LogRecord
  | [] => []
  | ⟨level, message⟩ :: records =>
    if Closes message then ⟨level, shownMessage message⟩ :: joined records
    else match joined records with
      | [] => [⟨level, shownMessage message⟩]
      | next :: later =>
        ⟨level, shownMessage message ++ (header next.level ++ next.message)⟩ :: later

/-- The joined records, laid out, are the stream, but for the line break at its end. -/
theorem layouts_joined (records : List LogRecord) : ∃ ending ∈ ["", "\n"],
    stream records ++ ending = String.join ((joined records).map layout) := by
  induction records with
  | nil => exact ⟨"", by simp, rfl⟩
  | cons record records ih =>
    rcases record with ⟨level, message⟩
    obtain ⟨ending, hending, hstream⟩ := ih
    rw [stream_cons, written_eq_header, shownText_eq, joined]
    by_cases hclosed : Closes message
    · refine ⟨ending, hending, ?_⟩
      rw [if_pos hclosed, if_pos hclosed, List.map_cons, String.join_cons, ← hstream,
        layout_eq_indentedText]
      simp only [String.append_assoc]
    · rw [if_neg hclosed, if_neg hclosed, String.append_empty]
      rcases hjoined : joined records with _ | ⟨next, later⟩
      · -- nothing is behind this record, and only its line break is not there
        rw [hjoined, List.map_nil, String.join_nil, String.append_eq_empty_iff] at hstream
        refine ⟨"\n", by simp, ?_⟩
        rw [hstream.1, String.append_empty]
        dsimp only
        rw [List.map_cons, String.join_cons, layout_eq_indentedText, List.map_nil, String.join_nil,
          String.append_empty]
      · -- the header of the next record stands in the line of this one, as a part of its message
        refine ⟨ending, hending, ?_⟩
        rw [hjoined, List.map_cons, String.join_cons, layout_eq_indentedText] at hstream
        dsimp only
        rw [List.map_cons, String.join_cons, layout_eq_indentedText, indentedText_append,
          indentedText_append, indentedText_of_unbroken (unbroken_header next.level),
          String.append_assoc, hstream]
        simp only [String.append_assoc]

theorem shown_of_mem_joined {records : List LogRecord} :
    ∀ record ∈ joined records, Shown record.message := by
  induction records with
  | nil => simp [joined]
  | cons record records ih =>
    rcases record with ⟨level, message⟩
    have hmessage := shown_shownMessage message
    rw [joined]
    split
    · exact List.forall_mem_cons.mpr ⟨hmessage, ih⟩
    · split
      · simpa using hmessage
      · next next later hjoined =>
        rw [hjoined, List.forall_mem_cons] at ih
        refine List.forall_mem_cons.mpr ⟨?_, ih.2⟩
        exact (shown_append _ _).mpr ⟨hmessage, (shown_append _ _).mpr
          ⟨shown_header next.level, ih.1⟩⟩

/-- The stream shows records as they are exactly when their messages have no control. -/
theorem joined_eq_self_iff (records : List LogRecord) :
    joined records = records ↔ ∀ record ∈ records, Shown record.message := by
  constructor
  · intro h
    rw [← h]
    exact shown_of_mem_joined
  · intro h
    induction records with
    | nil => rfl
    | cons record records ih =>
      rw [List.forall_mem_cons] at h
      rcases record with ⟨level, message⟩
      rw [joined, if_pos (closes_of_shown h.1), shownMessage_of_shown h.1, ih h.2]

/-- Each record that is shown starts where one was logged. -/
theorem levels_joined_sublist (records : List LogRecord) :
    ((joined records).map (·.level)).Sublist (records.map (·.level)) := by
  induction records with
  | nil => exact List.Sublist.refl []
  | cons record records ih =>
    rcases record with ⟨level, message⟩
    rw [joined]
    split
    · exact ih.cons_cons level
    · split
      · exact (List.nil_sublist _).cons_cons level
      · next next later hjoined =>
        rw [hjoined, List.map_cons] at ih
        exact ((List.sublist_cons_self next.level _).trans ih).cons_cons level

end LogRecord

theorem Transcript.ofText?_stream (records : List LogRecord) :
    ofText? (LogRecord.stream records) = some ⟨LogRecord.joined records, none⟩ := by
  obtain ⟨ending, hending, hstream⟩ := LogRecord.layouts_joined records
  have hlayouts := readOn_layouts [] (LogRecord.joined records) ""
  rw [String.append_empty, ← hstream, List.nil_append] at hlayouts
  rw [List.mem_cons, List.mem_singleton] at hending
  rcases hending with rfl | rfl
  · rw [String.append_empty] at hlayouts
    exact hlayouts
  · rw [readOn_end] at hlayouts
    exact hlayouts

/-- Behind records without controls the line of a fault is read too. -/
theorem Transcript.ofText?_errors {ending : Program.Ending}
    (hshown : ∀ record ∈ ending.records, Text.Shown record.message)
    (hfault : ∀ fault ∈ ending.fault, Unbroken fault.message) :
    ofText? ending.errors = some ⟨ending.records, ending.fault.map Fault.message⟩ := by
  have hlayouts : LogRecord.stream ending.records =
      String.join (ending.records.map LogRecord.layout) := by
    rw [LogRecord.stream, List.map_congr_left fun record hmem =>
      LogRecord.written_of_shown (hshown record hmem)]
  rw [ofText?, Program.Ending.errors, hlayouts]
  exact (readOn_layouts [] ending.records _).trans (readOn_faultLine ending.records hfault)

end ArgTable
