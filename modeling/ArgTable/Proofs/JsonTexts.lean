-- The texts that the writer makes. Each spells its document, so every text in it is read back
-- as it was, and no line is broken inside quotes.
import ArgTable.Proofs.JsonGrammar

namespace ArgTable.Json

/-! ## Quoted texts -/

theorem hexValue?_digitChar : ∀ digit < 16, hexValue? (Nat.digitChar digit) = some digit := by
  decide

theorem readCodePoint?_hexPair {c : Char} (h : c.toNat < 0x20) (rest : List Char) :
    readCodePoint? ('0' :: '0' :: (hexPair c ++ rest)) = some (c, rest) := by
  have hhigh := hexValue?_digitChar (c.toNat / 16) (by omega)
  have hlow := hexValue?_digitChar (c.toNat % 16) (by omega)
  have hnumber : ((0 * 16 + 0) * 16 + c.toNat / 16) * 16 + c.toNat % 16 = c.toNat := by omega
  have hunit : readUnit? ('0' :: '0' :: (hexPair c ++ rest)) =
      some (((0 * 16 + 0) * 16 + c.toNat / 16) * 16 + c.toNat % 16, rest) := by
    unfold hexPair readUnit?
    simp only [List.cons_append, List.nil_append, hhigh, hlow]
    rfl
  unfold readCodePoint?
  rw [hunit, hnumber]
  have hbelow : c.toNat < 0xD800 ∨ 0xDFFF < c.toNat := by omega
  simp [hbelow]

/-- A character is read back from the way it is written. -/
theorem readChar?_escapedChar (c : Char) (rest : List Char) :
    readChar? (escapedChar c ++ rest) = some (c, rest) := by
  unfold escapedChar
  split
  · rfl
  · rfl
  · rfl
  · rfl
  · rfl
  · rfl
  · rfl
  · next hquote hbackslash _ _ _ _ _ =>
    split
    · next hcontrol => exact readCodePoint?_hexPair hcontrol rest
    · next hcontrol =>
      have hplain : ¬ (c = '"' ∨ c.toNat < 0x20) := not_or.mpr ⟨hquote, hcontrol⟩
      unfold readChar?
      rw [List.singleton_append]
      dsimp only
      rw [if_neg hbackslash, if_neg hplain]

theorem readsText_escaped (text rest : List Char) :
    ReadsText (text.flatMap escapedChar ++ '"' :: rest) text rest := by
  induction text with
  | nil => exact ReadsText.close rest
  | cons c text ih =>
    rw [List.flatMap_cons, List.append_assoc]
    exact ReadsText.char (readChar?_escapedChar c _) ih

theorem quoted_append (text : String) (rest : List Char) :
    quoted text ++ rest = '"' :: (text.toList.flatMap escapedChar ++ '"' :: rest) := by
  unfold quoted
  rw [List.cons_append, List.append_assoc, List.singleton_append]

/-! ## Documents -/

theorem skip_newline (depth : Nat) (cs : List Char) : skip (newline depth ++ cs) = skip cs := by
  have hblanks : ∀ count, skip (List.replicate count ' ' ++ cs) = skip cs := by
    intro count
    induction count with
    | zero => rfl
    | succ count ih => exact ih
  exact hblanks (2 * depth)

theorem skip_blank (cs : List Char) : skip (' ' :: cs) = skip cs := rfl

/-- The white space in front of a value does not matter. -/
theorem Reads.of_skip_eq {cs cs' rest : List Char} {document : Json} (hskip : skip cs' = skip cs)
    (h : Reads .value cs document rest) : Reads .value cs' document rest := by
  cases h with
  | null hmark => exact .null (hskip.trans hmark)
  | true hmark => exact .true (hskip.trans hmark)
  | false hmark => exact .false (hskip.trans hmark)
  | text hmark htext => exact .text (hskip.trans hmark) htext
  | list hmark hitems => exact .list (hskip.trans hmark) hitems
  | record hmark hfields => exact .record (hskip.trans hmark) hfields

theorem readsName_written (depth : Nat) (name : String) (rest : List Char) :
    ReadsName (newline depth ++ (quoted name ++ ':' :: rest)) name rest := by
  refine ⟨_, _, ?_, readsText_escaped name.toList (':' :: rest), rfl⟩
  rw [skip_newline, quoted_append]
  rfl

mutual

/-- A written document is read back, whatever is behind it. -/
theorem reads_write (depth : Nat) (rest : List Char) :
    (document : Json) → Reads .value (write depth document ++ rest) document rest
  | .null => .null rfl
  | .bool true => .true rfl
  | .bool false => .false rfl
  | .text value => by
    rw [write, quoted_append]
    exact .text rfl (readsText_escaped value.toList rest)
  | .list [] => .list rfl (.noItems rfl)
  | .list (item :: items) => by
    have hitem := reads_write (depth + 1)
      (writeItems (depth + 1) items ++ (newline depth ++ ']' :: rest)) item
    have hmore := reads_writeItems depth rest items
    rw [write]
    simp only [List.cons_append, List.append_assoc, List.nil_append]
    exact .list rfl (.items (hitem.of_skip_eq (skip_newline (depth + 1) _)) hmore)
  | .record [] => .record rfl (.noFields rfl)
  | .record ((name, value) :: fields) => by
    have hvalue := reads_write (depth + 1)
      (writeFields (depth + 1) fields ++ (newline depth ++ '\x7d' :: rest)) value
    have hmore := reads_writeFields depth rest fields
    rw [write]
    simp only [List.cons_append, List.append_assoc, List.nil_append]
    refine .record rfl (.fields (readsName_written (depth + 1) name _) ?_ hmore)
    exact hvalue.of_skip_eq (skip_blank _)

/-- The items behind the first are read back up to the end of their list. -/
theorem reads_writeItems (depth : Nat) (rest : List Char) :
    (items : List Json) →
      Reads .moreItems (writeItems (depth + 1) items ++ (newline depth ++ ']' :: rest)) items rest
  | [] => .endItems (skip_newline depth _)
  | item :: items => by
    have hitem := reads_write (depth + 1)
      (writeItems (depth + 1) items ++ (newline depth ++ ']' :: rest)) item
    have hmore := reads_writeItems depth rest items
    rw [writeItems]
    simp only [List.cons_append, List.append_assoc]
    exact .moreItems rfl (hitem.of_skip_eq (skip_newline (depth + 1) _)) hmore

/-- The fields behind the first are read back up to the end of their record. -/
theorem reads_writeFields (depth : Nat) (rest : List Char) :
    (fields : List (String × Json)) →
      Reads .moreFields (writeFields (depth + 1) fields ++ (newline depth ++ '\x7d' :: rest)) fields
        rest
  | [] => .endFields (skip_newline depth _)
  | (name, value) :: fields => by
    have hvalue := reads_write (depth + 1)
      (writeFields (depth + 1) fields ++ (newline depth ++ '\x7d' :: rest)) value
    have hmore := reads_writeFields depth rest fields
    rw [writeFields]
    simp only [List.cons_append, List.append_assoc, List.nil_append]
    refine .moreFields rfl (readsName_written (depth + 1) name _) ?_ hmore
    exact hvalue.of_skip_eq (skip_blank _)

end

theorem spells_pretty (document : Json) : Spells document.pretty document := by
  refine ⟨[], ?_, rfl⟩
  have hreads := reads_write 0 [] document
  rw [List.append_nil] at hreads
  rw [pretty, String.toList_ofList]
  exact hreads

/-! ## Line breaks -/

/-- Where a reader of the marks stands. -/
inductive Spot where
  | outside
  | inside
  /-- Inside quotes and right behind a backslash. -/
  | escaped
  deriving DecidableEq

/-- One character further. -/
def Spot.after : Spot → Char → Spot
  | outside, c => if c = '"' then inside else outside
  | inside, c => if c = '"' then outside else if c = '\\' then escaped else inside
  | escaped, _ => inside

/-- From this spot on, every line break stands outside the quotes. -/
inductive BreaksOutside : Spot → List Char → Prop
  | nil (spot : Spot) : BreaksOutside spot []
  | cons {spot : Spot} {c : Char} {cs : List Char} (hbreak : c = '\n' → spot = .outside)
      (hmore : BreaksOutside (spot.after c) cs) : BreaksOutside spot (c :: cs)

/-- A piece that starts and ends outside the quotes, with its line breaks outside. -/
def Clear (piece : List Char) : Prop :=
  ∀ rest, BreaksOutside .outside rest → BreaksOutside .outside (piece ++ rest)

theorem clear_nil : Clear [] := fun _ h => h

theorem Clear.append {piece more : List Char} (h : Clear piece) (hmore : Clear more) :
    Clear (piece ++ more) := by
  intro rest hrest
  rw [List.append_assoc]
  exact h _ (hmore _ hrest)

/-- A character other than the quote keeps the reader outside. -/
theorem Clear.cons {c : Char} {piece : List Char} (hc : c ≠ '"') (h : Clear piece) :
    Clear (c :: piece) := by
  intro rest hrest
  refine .cons (fun _ => rfl) ?_
  rw [Spot.after, if_neg hc]
  exact h rest hrest

theorem clear_of_no_quote {piece : List Char} (h : '"' ∉ piece) : Clear piece := by
  induction piece with
  | nil => exact clear_nil
  | cons c piece ih =>
    rw [List.mem_cons, not_or] at h
    exact Clear.cons (Ne.symm h.1) (ih h.2)

theorem clear_newline (depth : Nat) : Clear (newline depth) := by
  refine clear_of_no_quote ?_
  unfold newline
  rw [List.mem_cons, List.mem_replicate]
  exact not_or.mpr ⟨by decide, fun h => absurd h.2 (by decide)⟩

/-- A character that is written as it is, inside the quotes. -/
theorem breaksOutside_cons {c : Char} {rest : List Char} (hbreak : c ≠ '\n')
    (hstays : Spot.after .inside c = .inside) (h : BreaksOutside .inside rest) :
    BreaksOutside .inside (c :: rest) := by
  refine .cons (fun hc => absurd hc hbreak) ?_
  rw [hstays]
  exact h

theorem breaksOutside_escape {letter : Char} {rest : List Char} (hbreak : letter ≠ '\n')
    (h : BreaksOutside .inside rest) : BreaksOutside .inside ('\\' :: letter :: rest) :=
  .cons (by decide) (.cons (fun hletter => absurd hletter hbreak) h)

theorem digitChar_inside : ∀ digit < 16, Nat.digitChar digit ≠ '\n' ∧
    Spot.after .inside (Nat.digitChar digit) = .inside := by
  decide

/-- A written character breaks no line and leaves the reader inside the quotes. -/
theorem breaksOutside_escapedChar (c : Char) {rest : List Char}
    (h : BreaksOutside .inside rest) : BreaksOutside .inside (escapedChar c ++ rest) := by
  unfold escapedChar
  split
  · exact breaksOutside_escape (by decide) h
  · exact breaksOutside_escape (by decide) h
  · exact breaksOutside_escape (by decide) h
  · exact breaksOutside_escape (by decide) h
  · exact breaksOutside_escape (by decide) h
  · exact breaksOutside_escape (by decide) h
  · exact breaksOutside_escape (by decide) h
  · next hquote hbackslash _ _ hnewline _ _ =>
    split
    · next hcontrol =>
      obtain ⟨hhigh, hhigh'⟩ := digitChar_inside (c.toNat / 16) (by omega)
      obtain ⟨hlow, hlow'⟩ := digitChar_inside (c.toNat % 16) (by omega)
      have hzero : Spot.after .inside '0' = .inside := rfl
      refine breaksOutside_escape (by decide) ?_
      refine breaksOutside_cons (by decide) hzero (breaksOutside_cons (by decide) hzero ?_)
      exact breaksOutside_cons hhigh hhigh' (breaksOutside_cons hlow hlow' h)
    · refine breaksOutside_cons hnewline ?_ h
      rw [Spot.after, if_neg hquote, if_neg hbackslash]

theorem clear_quoted (text : String) : Clear (quoted text) := by
  intro rest hrest
  have hinside : BreaksOutside .inside (text.toList.flatMap escapedChar ++ '"' :: rest) := by
    induction text.toList with
    | nil => exact .cons (by decide) hrest
    | cons c cs ih =>
      rw [List.flatMap_cons, List.append_assoc]
      exact breaksOutside_escapedChar c ih
  rw [quoted_append]
  exact .cons (by decide) hinside

theorem clear_field (depth : Nat) (name : String) {value : List Char} (h : Clear value) :
    Clear (newline depth ++ quoted name ++ [':', ' '] ++ value) :=
  (((clear_newline depth).append (clear_quoted name)).append
    (clear_of_no_quote (by decide))).append h

mutual

/-- A written document breaks lines outside the quotes only. -/
theorem clear_write (depth : Nat) : (document : Json) → Clear (write depth document)
  | .null => by
    rw [write]
    exact clear_of_no_quote (by decide)
  | .bool true => by
    rw [write]
    exact clear_of_no_quote (by decide)
  | .bool false => by
    rw [write]
    exact clear_of_no_quote (by decide)
  | .text value => by
    rw [write]
    exact clear_quoted value
  | .list [] => by
    rw [write]
    exact clear_of_no_quote (by decide)
  | .list (item :: items) => by
    have hitem := clear_write (depth + 1) item
    have hmore := clear_writeItems (depth + 1) items
    rw [write]
    refine Clear.cons (by decide) (Clear.append ?_ (clear_of_no_quote (by decide)))
    exact (((clear_newline _).append hitem).append hmore).append (clear_newline _)
  | .record [] => by
    rw [write]
    exact clear_of_no_quote (by decide)
  | .record ((name, value) :: fields) => by
    have hvalue := clear_write (depth + 1) value
    have hmore := clear_writeFields (depth + 1) fields
    rw [write]
    refine Clear.cons (by decide) (Clear.append ?_ (clear_of_no_quote (by decide)))
    exact ((clear_field (depth + 1) name hvalue).append hmore).append (clear_newline _)

theorem clear_writeItems (depth : Nat) : (items : List Json) → Clear (writeItems depth items)
  | [] => by
    rw [writeItems]
    exact clear_nil
  | item :: items => by
    have hitem := clear_write depth item
    have hmore := clear_writeItems depth items
    rw [writeItems]
    exact Clear.cons (by decide) (((clear_newline _).append hitem).append hmore)

theorem clear_writeFields (depth : Nat) :
    (fields : List (String × Json)) → Clear (writeFields depth fields)
  | [] => by
    rw [writeFields]
    exact clear_nil
  | (name, value) :: fields => by
    have hvalue := clear_write depth value
    have hmore := clear_writeFields depth fields
    rw [writeFields]
    exact Clear.cons (by decide) ((clear_field depth name hvalue).append hmore)

end

/-- Every raw line break in the text of a document stands outside the quotes. -/
theorem breaksOutside_pretty (document : Json) :
    BreaksOutside .outside document.pretty.toList := by
  have hclear := clear_write 0 document [] (.nil _)
  rw [List.append_nil] at hclear
  rw [pretty, String.toList_ofList]
  exact hclear

end ArgTable.Json
