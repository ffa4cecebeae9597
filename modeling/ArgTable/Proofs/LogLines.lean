-- The log as text. A record starts with its level in brackets, whatever its message holds, and
-- inside a record every line break is followed by four spaces. So each line of the log starts a
-- record or goes on with one. A terminal control that a message leaves open can take the line
-- break that ends its record, and then the next record starts on the same line.
import ArgTable.Proofs.PlainTexts
import ArgTable.Proofs.ShownTexts

namespace ArgTable

namespace Text

/-! ## Indented texts -/

/-- Behind every line break the text ends or four spaces follow. -/
def Indented (cs : List Char) : Prop :=
  ∀ after, '\n' :: after <:+ cs → after = [] ∨ [' ', ' ', ' ', ' '] <+: after

theorem indented_nil : Indented [] := by
  intro after h
  cases List.suffix_nil.mp h

theorem indented_singleton (c : Char) : Indented [c] := by
  intro after h
  rcases List.suffix_cons_iff.mp h with h | h
  · exact Or.inl (List.cons.inj h).2
  · cases List.suffix_nil.mp h

theorem Indented.cons {c : Char} {cs : List Char} (hc : c ≠ '\n') (h : Indented cs) :
    Indented (c :: cs) := by
  intro after hafter
  rcases List.suffix_cons_iff.mp hafter with heq | hafter
  · exact absurd (List.cons.inj heq).1.symm hc
  · exact h after hafter

theorem Indented.append {cs more : List Char} (hcs : '\n' ∉ cs) (h : Indented more) :
    Indented (cs ++ more) := by
  induction cs with
  | nil => exact h
  | cons c cs ih =>
    rw [List.mem_cons, not_or] at hcs
    exact (ih hcs.2).cons (Ne.symm hcs.1)

/-- If the rest is indented wherever a reader stands, so it is behind another character. -/
theorem indented_shownFrom_cons {c : Char} {cs : List Char} (hc : c ≠ '\n')
    (h : ∀ stage showing, Indented (shownFrom stage showing cs)) (stage : ControlStage)
    (showing : Bool) : Indented (shownFrom stage showing (c :: cs)) := by
  rw [shownFrom]
  split
  · exact (h _ true).cons hc
  · exact h _ false

/-- A space behind a character that is shown is shown too. -/
theorem shownFrom_space (stage : ControlStage) (cs : List Char) : ∃ stage',
    shownFrom stage true (' ' :: cs) = ' ' :: shownFrom stage' true cs := by
  have hshows : ControlStage.rest.shows ' ' = true := by decide
  refine ⟨if ' ' < '\x80' then stage else .rest, ?_⟩
  rw [shownFrom, hshows, Bool.and_true, Bool.or_true, if_pos rfl]

theorem shownFrom_spaces (stage : ControlStage) (cs : List Char) :
    [' ', ' ', ' ', ' '] <+: shownFrom stage true (' ' :: ' ' :: ' ' :: ' ' :: cs) := by
  obtain ⟨second, hfirst⟩ := shownFrom_space stage (' ' :: ' ' :: ' ' :: cs)
  obtain ⟨third, hsecond⟩ := shownFrom_space second (' ' :: ' ' :: cs)
  obtain ⟨fourth, hthird⟩ := shownFrom_space third (' ' :: cs)
  obtain ⟨behind, hfourth⟩ := shownFrom_space fourth cs
  rw [hfirst, hsecond, hthird, hfourth]
  exact ⟨shownFrom behind true cs, rfl⟩

end Text

namespace LogRecord

open Text

/-- What is shown of an indented message and the line break that ends it is indented. A line break
is left out inside a string for the terminal. One that is shown has its spaces shown with it. -/
theorem indented_shownFrom (message : List Char) (stage : ControlStage) (showing : Bool) :
    Indented (shownFrom stage showing (indented message ++ ['\n'])) := by
  induction message using indented.induct generalizing stage showing with
  | case1 =>
    rw [indented, List.nil_append, shownFrom]
    split
    · exact indented_singleton '\n'
    · exact indented_nil
  | case2 cs ih =>
    have hspace : ' ' ≠ '\n' := by decide
    have hspaces := indented_shownFrom_cons hspace <| indented_shownFrom_cons hspace <|
      indented_shownFrom_cons hspace <| indented_shownFrom_cons hspace ih
    rw [indented, List.cons_append, shownFrom]
    split
    · intro after hafter
      rcases List.suffix_cons_iff.mp hafter with heq | hafter
      · rw [(List.cons.inj heq).2]
        exact Or.inr (shownFrom_spaces _ _)
      · exact hspaces _ true after hafter
    · exact hspaces _ false
  | case3 c cs hc ih =>
    rw [indented, List.cons_append]
    · exact indented_shownFrom_cons hc ih stage showing
    · exact hc

/-! ## Records -/

/-- What a record of the level starts with. -/
def header (level : Level) : String := "[" ++ level.field ++ "] "

theorem shown_header (level : Level) : Shown (header level) := by
  cases level <;> decide +kernel

theorem unbroken_header (level : Level) : Unbroken (header level) := by
  cases level <;> decide +kernel

theorem layout_eq (record : LogRecord) : record.layout =
    header record.level ++ (String.ofList (indented record.message.toList) ++ "\n") := by
  rw [layout, header]
  exact String.append_assoc

theorem written_eq (record : LogRecord) : ∃ text, Indented text ∧
    record.written = header record.level ++ String.ofList text := by
  refine ⟨_, indented_shownFrom record.message.toList .rest false, ?_⟩
  rw [written, layout_eq, withoutControls_append (shown_header record.level), withoutControls,
    String.toList_append, String.toList_ofList]
  rfl

theorem opens_written (record : LogRecord) : Opens (header record.level) record.written := by
  obtain ⟨text, -, hwritten⟩ := written_eq record
  exact ⟨String.ofList text, hwritten⟩

theorem indented_written (record : LogRecord) : Indented record.written.toList := by
  obtain ⟨text, htext, hwritten⟩ := written_eq record
  rw [hwritten, String.toList_append, String.toList_ofList]
  exact htext.append (unbroken_header record.level)

/-! ## The stream -/

theorem stream_cons (record : LogRecord) (records : List LogRecord) :
    stream (record :: records) = record.written ++ stream records := by
  simp [stream, String.join_cons]

theorem stream_append (records more : List LogRecord) :
    stream (records ++ more) = stream records ++ stream more := by
  simp [stream, String.join_append]

/-- Behind a line break of the stream four spaces or other records follow. -/
theorem behind_break {records : List LogRecord} {after : List Char}
    (h : '\n' :: after <:+ (stream records).toList) :
    [' ', ' ', ' ', ' '] <+: after ∨
      ∃ later, later <:+ records ∧ after = (stream later).toList := by
  induction records with
  | nil => cases List.suffix_nil.mp h
  | cons record records ih =>
    have hlater (h : '\n' :: after <:+ (stream records).toList) :
        [' ', ' ', ' ', ' '] <+: after ∨
          ∃ later, later <:+ record :: records ∧ after = (stream later).toList := by
      rcases ih h with hspaces | ⟨later, hlater, hafter⟩
      · exact Or.inl hspaces
      · exact Or.inr ⟨later, List.suffix_cons_iff.mpr (Or.inr hlater), hafter⟩
    rw [stream_cons, String.toList_append] at h
    obtain ⟨before, hsplit⟩ := h
    rcases List.append_eq_append_iff.mp hsplit with ⟨piece, hwritten, hafter⟩ | ⟨piece, -, hstream⟩
    · rcases piece with _ | ⟨c, piece⟩
      · exact hlater ⟨[], hafter⟩
      · -- the line break stands in the first record
        obtain ⟨rfl, rfl⟩ := List.cons.inj hafter
        rcases indented_written record piece ⟨before, hwritten.symm⟩ with rfl | hspaces
        · exact Or.inr ⟨records, List.suffix_cons record records, rfl⟩
        · exact Or.inl (hspaces.trans (List.prefix_append piece _))
    · exact hlater ⟨piece, hstream.symm⟩

/-! ## Records of shown characters -/

theorem all_shows_indented {cs : List Char} (h : cs.all ControlStage.rest.shows = true) :
    (indented cs).all ControlStage.rest.shows = true := by
  induction cs using indented.induct with
  | case1 => rfl
  | case2 cs ih =>
    rw [List.all_cons, Bool.and_eq_true] at h
    have hbreak : ['\n', ' ', ' ', ' ', ' '].all ControlStage.rest.shows = true := by
      decide +kernel
    change (['\n', ' ', ' ', ' ', ' '] ++ indented cs).all _ = true
    rw [List.all_append, hbreak, ih h.2]
    rfl
  | case3 c cs hc ih =>
    rw [List.all_cons, Bool.and_eq_true] at h
    rw [indented]
    · rw [List.all_cons, h.1, ih h.2]
      rfl
    · exact hc

/-- A record of shown characters is written as it is laid out. -/
theorem written_of_shown {record : LogRecord} (h : Shown record.message) :
    record.written = record.layout := by
  have hmessage : Shown (String.ofList (indented record.message.toList)) := by
    rw [Shown, String.toList_ofList]
    exact all_shows_indented h
  refine withoutControls_eq_self ?_
  rw [layout_eq, shown_append, shown_append]
  exact ⟨shown_header record.level, hmessage, by decide +kernel⟩

/-- A log of shown characters is empty or ends with a line break. -/
theorem ends_stream {records : List LogRecord} (h : ∀ record ∈ records, Shown record.message) :
    stream records = "" ∨ ∃ text, stream records = text ++ "\n" := by
  rcases List.eq_nil_or_concat records with rfl | ⟨earlier, last, rfl⟩
  · exact Or.inl rfl
  · have hlast := written_of_shown (h last (by simp))
    refine Or.inr ⟨stream earlier ++ (header last.level ++
      String.ofList (indented last.message.toList)), ?_⟩
    rw [List.concat_eq_append, stream_append, stream_cons, hlast, layout_eq]
    simp [stream, String.append_assoc]

end LogRecord

/-! ## Lines -/

/-- The lines stand at the start of the text and behind the line breaks, each up to the next. -/
theorem mem_linesIn_iff {text : String} (hsome : text ≠ "") (line : String) :
    line ∈ linesIn text ↔ ∃ after, line.toList = after.takeWhile (· ≠ '\n') ∧
      (after = text.toList ∨ '\n' :: after <:+ text.toList) := by
  obtain ⟨first, more, hpieces⟩ := List.exists_cons_of_ne_nil
    (List.splitOn_ne_nil '\n' text.toList)
  obtain ⟨hfirst, hmore⟩ := splitOn_pieces hpieces
  have hline : line ∈ linesIn text ↔ line.toList ∈ first :: more := by
    rw [linesIn, if_neg hsome, hpieces, List.mem_map]
    constructor
    · rintro ⟨piece, hpiece, rfl⟩
      rwa [String.toList_ofList]
    · intro hpiece
      exact ⟨line.toList, hpiece, String.ofList_toList⟩
  rw [hline, List.mem_cons, hmore, hfirst]
  simp only [and_or_left, exists_or, exists_eq_right]

theorem opens_of_takeWhile {lead line : String} {after : List Char} (hlead : Unbroken lead)
    (hline : line.toList = after.takeWhile (· ≠ '\n')) (h : lead.toList <+: after) :
    Opens lead line := by
  obtain ⟨rest, rfl⟩ := h
  rw [opens_iff_isPrefix, hline, List.takeWhile_append_of_pos]
  · exact List.prefix_append _ _
  · intro c hc
    simpa using fun hbreak : c = '\n' => hlead (hbreak ▸ hc)

/-- A line of the log is empty, goes on with a record or starts one. -/
theorem LogRecord.line_of_stream {records : List LogRecord} {line : String}
    (h : line ∈ linesIn (stream records)) :
    line = "" ∨ Opens "    " line ∨ ∃ record ∈ records, Opens (header record.level) line := by
  have hsome : stream records ≠ "" := by
    intro hempty
    rw [hempty] at h
    cases h
  obtain ⟨after, hline, hstart⟩ := (mem_linesIn_iff hsome line).mp h
  have hstart' : [' ', ' ', ' ', ' '] <+: after ∨
      ∃ later, later <:+ records ∧ after = (stream later).toList := by
    rcases hstart with rfl | hbehind
    · exact Or.inr ⟨records, List.suffix_rfl, rfl⟩
    · exact behind_break hbehind
  rcases hstart' with hspaces | ⟨later, hlater, rfl⟩
  · exact Or.inr (Or.inl (opens_of_takeWhile (by decide) hline hspaces))
  · rcases later with _ | ⟨record, later⟩
    · exact Or.inl (String.toList_inj.mp hline)
    · have hopens := (opens_written record).append (stream later)
      rw [← stream_cons, opens_iff_isPrefix] at hopens
      exact Or.inr (Or.inr ⟨record, hlater.subset List.mem_cons_self,
        opens_of_takeWhile (unbroken_header record.level) hline hopens⟩)

end ArgTable
