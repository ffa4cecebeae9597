-- Reading the error stream back, line by line. A header in brackets starts a record, four spaces go
-- on with the last one, and the line of a fault ends it all. Records come back from their layout
-- whatever their messages hold, line breaks and what looks like a header included.
import ArgTable.Proofs.ProgramEndings

namespace ArgTable

/-! ## Reading lines -/

/-- The record that a line starts, with as much of its message as the line holds. -/
def LogRecord.started? (line : String) : Option LogRecord :=
  [Level.error, .warn, .info, .debug].findSome? fun level =>
    (remainder? (header level) line).map fun said => ⟨level, said⟩

/-- The records with one more line for the last of them. -/
def LogRecord.continued? (records : List LogRecord) (more : String) : Option (List LogRecord) :=
  records.getLast?.map fun last =>
    records.dropLast ++ [{ last with message := last.message ++ "\n" ++ more }]

/-- What an error stream says: records, and then the message of a fault if there is one. -/
structure Transcript where
  records : List LogRecord := []
  fault : Option String := none
  deriving DecidableEq, Repr

namespace Transcript

/-- One more line. An empty line says nothing, and nothing is said behind a fault. -/
def readLine (transcript : Transcript) (line : String) : Option Transcript :=
  if line = "" then some transcript
  else if transcript.fault.isSome then none
  else match LogRecord.started? line, remainder? "    " line with
    | some record, _ => some { transcript with records := transcript.records ++ [record] }
    | none, some more =>
      (LogRecord.continued? transcript.records more).map fun records =>
        { transcript with records := records }
    | none, none =>
      (remainder? "Error: " line).map fun message => { transcript with fault := some message }

/-- The lines of a text, one after the other. -/
def readOn (transcript : Transcript) (text : String) : Option Transcript :=
  ((text.toList.splitOn '\n').map String.ofList).foldlM readLine transcript

/-- What the text says, if each of its lines can be read. -/
def ofText? (text : String) : Option Transcript := readOn {} text

/-! ## Lines of a text -/

theorem readOn_of_unbroken {line : String} (h : Unbroken line) (transcript : Transcript) :
    transcript.readOn line = transcript.readLine line := by
  unfold readOn
  rw [List.splitOn_eq_singleton h]
  simp

/-- A line break ends a line, whatever stands around it. -/
theorem readOn_break (transcript : Transcript) (text rest : String) :
    transcript.readOn (text ++ "\n" ++ rest) =
      (transcript.readOn text).bind (·.readOn rest) := by
  have htext : (text ++ "\n" ++ rest).toList = text.toList ++ '\n' :: rest.toList := by
    simp [String.toList_append]
  unfold readOn
  rw [htext, List.splitOn_append_cons_self, List.map_append, List.foldlM_append]
  rfl

/-- The line break at the end of a text says nothing. -/
theorem readOn_end (transcript : Transcript) (text : String) :
    transcript.readOn (text ++ "\n") = transcript.readOn text := by
  have hempty (transcript : Transcript) : transcript.readOn "" = some transcript := rfl
  have h := readOn_break transcript text ""
  rw [String.append_empty] at h
  rw [h, funext hempty, Option.bind_fun_some]

end Transcript

/-! ## Texts by their line breaks -/

/-- A text has no line break, or it has a first one. -/
theorem unbroken_or_break (text : String) :
    Unbroken text ∨ ∃ first more, Unbroken first ∧ text = first ++ "\n" ++ more := by
  by_cases h : Unbroken text
  · exact Or.inl h
  · obtain ⟨first, more, hsplit, hfirst⟩ := List.eq_append_cons_of_mem (not_not.mp h)
    refine Or.inr ⟨.ofList first, .ofList more, ?_, ?_⟩
    · rwa [Unbroken, String.toList_ofList]
    · rw [← String.toList_inj, hsplit]
      simp [String.toList_append]

@[elab_as_elim]
theorem break_induction {motive : String → Prop}
    (unbroken : ∀ text, Unbroken text → motive text)
    (broken : ∀ first more, Unbroken first → motive more → motive (first ++ "\n" ++ more))
    (text : String) : motive text := by
  induction hlength : text.length using Nat.strongRecOn generalizing text with
  | ind n ih =>
    rcases unbroken_or_break text with h | ⟨first, more, h, rfl⟩
    · exact unbroken text h
    · refine broken first more h (ih more.length ?_ more rfl)
      have hbreak : "\n".length = 1 := rfl
      rw [String.length_append, String.length_append, hbreak] at hlength
      omega

namespace LogRecord

/-- A text inside a record. -/
def indentedText (text : String) : String := String.ofList (indented text.toList)

theorem indented_of_not_mem {cs : List Char} (h : '\n' ∉ cs) : indented cs = cs := by
  induction cs with
  | nil => rfl
  | cons c cs ih =>
    rw [List.mem_cons, not_or] at h
    rw [indented, ih h.2]
    exact Ne.symm h.1

theorem indented_append (cs more : List Char) :
    indented (cs ++ more) = indented cs ++ indented more := by
  induction cs using indented.induct with
  | case1 => rfl
  | case2 cs ih => simp [indented, ih]
  | case3 c cs hc ih =>
    rw [List.cons_append, indented, indented, ih, List.cons_append]
    · exact hc
    · exact hc

theorem indentedText_append (text more : String) :
    indentedText (text ++ more) = indentedText text ++ indentedText more := by
  unfold indentedText
  rw [String.toList_append, indented_append, String.ofList_append]

theorem indentedText_of_unbroken {text : String} (h : Unbroken text) :
    indentedText text = text := by
  rw [indentedText, indented_of_not_mem h, String.ofList_toList]

theorem indentedText_break {first : String} (h : Unbroken first) (more : String) :
    indentedText (first ++ "\n" ++ more) = first ++ "\n" ++ ("    " ++ indentedText more) := by
  rw [indentedText_append, indentedText_append, indentedText_of_unbroken h, String.append_assoc]
  have hbreak : indentedText "\n" = "\n" ++ "    " := by decide +kernel
  rw [hbreak]
  simp only [String.append_assoc]

theorem layout_eq_indentedText (record : LogRecord) :
    record.layout = header record.level ++ indentedText record.message ++ "\n" := by
  rw [layout_eq, indentedText, String.append_assoc]

/-! ## Headers and spaces -/

theorem header_apart_from_spaces (level : Level) : OpenApart (header level) "    " := by
  cases level <;> decide +kernel

theorem header_ne_empty (level : Level) : header level ≠ "" := by
  cases level <;> decide +kernel

theorem started?_header (level : Level) (said : String) :
    started? (header level ++ said) = some ⟨level, said⟩ := by
  have hself : remainder? (header level) (header level ++ said) = some said :=
    (remainder?_eq_some_iff _ _ _).mpr rfl
  have hother {other : Level} (h : other ≠ level) :
      remainder? (header other) (header level ++ said) = none :=
    remainder?_of_not_opens ((header_apart h).not_opens ⟨said, rfl⟩)
  cases level <;> simp [started?, hself, hother]

/-- A line that opens apart from every header starts no record. -/
theorem started?_eq_none {lead : String} (h : ∀ level, OpenApart (header level) lead)
    (more : String) : started? (lead ++ more) = none := by
  have hnone (level : Level) : remainder? (header level) (lead ++ more) = none :=
    remainder?_of_not_opens ((h level).not_opens ⟨more, rfl⟩)
  simp [started?, hnone]

end LogRecord

/-! ## Reading records -/

namespace Transcript

open LogRecord

theorem readLine_header (records : List LogRecord) (level : Level) (said : String) :
    readLine ⟨records, none⟩ (header level ++ said) = some ⟨records ++ [⟨level, said⟩], none⟩ := by
  simp [readLine, header_ne_empty, started?_header]

theorem readLine_spaces (records : List LogRecord) (last : LogRecord) (more : String) :
    readLine ⟨records ++ [last], none⟩ ("    " ++ more) =
      some ⟨records ++ [{ last with message := last.message ++ "\n" ++ more }], none⟩ := by
  have hstarted := started?_eq_none header_apart_from_spaces more
  have hmore : remainder? "    " ("    " ++ more) = some more :=
    (remainder?_eq_some_iff _ _ _).mpr rfl
  simp [readLine, hstarted, hmore, continued?]

theorem readLine_fault (records : List LogRecord) (message : String) :
    readLine ⟨records, none⟩ ("Error: " ++ message) = some ⟨records, some message⟩ := by
  have hstarted := started?_eq_none
    (fun level => (fault_apart_from_header level).symm) message
  have hspaces : remainder? "    " ("Error: " ++ message) = none := by
    have hapart : OpenApart "    " "Error: " := by decide +kernel
    exact remainder?_of_not_opens (hapart.not_opens ⟨message, rfl⟩)
  have hmessage : remainder? "Error: " ("Error: " ++ message) = some message :=
    (remainder?_eq_some_iff _ _ _).mpr rfl
  simp [readLine, hstarted, hspaces, hmessage]

/-- The rest of a message goes on with its record, line after line. -/
theorem readOn_spaces (records : List LogRecord) (last : LogRecord) (more : String) :
    readOn ⟨records ++ [last], none⟩ ("    " ++ indentedText more) =
      some ⟨records ++ [{ last with message := last.message ++ "\n" ++ more }], none⟩ := by
  -- the record that goes on is longer with each line, so any record may be the last here
  induction more using break_induction generalizing last with
  | unbroken more h =>
    have hline : Unbroken ("    " ++ more) := (unbroken_append _ _).mpr ⟨by decide, h⟩
    rw [indentedText_of_unbroken h, readOn_of_unbroken hline, readLine_spaces]
  | broken first more h ih =>
    have hline : Unbroken ("    " ++ first) := (unbroken_append _ _).mpr ⟨by decide, h⟩
    have htext : "    " ++ (first ++ "\n" ++ ("    " ++ indentedText more)) =
        "    " ++ first ++ "\n" ++ ("    " ++ indentedText more) := by
      simp only [String.append_assoc]
    rw [indentedText_break h, htext, readOn_break, readOn_of_unbroken hline, readLine_spaces,
      Option.bind_some, ih]
    simp only [String.append_assoc]

/-- A record that is laid out is read, whatever its message is. -/
theorem readOn_record (records : List LogRecord) (record : LogRecord) :
    readOn ⟨records, none⟩ (header record.level ++ indentedText record.message) =
      some ⟨records ++ [record], none⟩ := by
  rcases record with ⟨level, message⟩
  rcases unbroken_or_break message with h | ⟨first, more, h, rfl⟩
  · have hline : Unbroken (header level ++ message) :=
      (unbroken_append _ _).mpr ⟨unbroken_header level, h⟩
    dsimp only
    rw [indentedText_of_unbroken h, readOn_of_unbroken hline, readLine_header]
  · have hline : Unbroken (header level ++ first) :=
      (unbroken_append _ _).mpr ⟨unbroken_header level, h⟩
    have htext : header level ++ (first ++ "\n" ++ ("    " ++ indentedText more)) =
        header level ++ first ++ "\n" ++ ("    " ++ indentedText more) := by
      simp only [String.append_assoc]
    dsimp only
    rw [indentedText_break h, htext, readOn_break, readOn_of_unbroken hline, readLine_header,
      Option.bind_some, readOn_spaces]

/-- Records that are laid out are read one after the other. -/
theorem readOn_layouts (read records : List LogRecord) (rest : String) :
    readOn ⟨read, none⟩ (String.join (records.map layout) ++ rest) =
      readOn ⟨read ++ records, none⟩ rest := by
  induction records generalizing read with
  | nil => simp
  | cons record records ih =>
    rw [List.map_cons, String.join_cons, layout_eq_indentedText, String.append_assoc, readOn_break,
      readOn_record, Option.bind_some, ih, List.append_assoc]
    rfl

theorem readOn_faultLine (records : List LogRecord) {fault : Option Fault}
    (h : ∀ found ∈ fault, Unbroken found.message) :
    readOn ⟨records, none⟩ (Program.Ending.faultLine fault) =
      some ⟨records, fault.map Fault.message⟩ := by
  cases fault with
  | none => rfl
  | some found =>
    have hline : Unbroken ("Error: " ++ found.message) :=
      (unbroken_append _ _).mpr ⟨by decide, h found rfl⟩
    rw [Program.Ending.faultLine, readOn_end, readOn_of_unbroken hline, readLine_fault]
    rfl

end Transcript

end ArgTable
