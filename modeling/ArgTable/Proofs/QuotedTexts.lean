-- Messages hold the texts that they are about. A search for a text in a message finds it exactly
-- when it stands there as it is, and each message of a notice or a fault holds all of its texts.
import ArgTable.Fault
import ArgTable.Notice

namespace ArgTable

/-! ## The search -/

namespace Journal

theorem occurs_iff_isInfix (fragment cs : List Char) :
    occurs fragment cs = true ↔ fragment <:+: cs := by
  induction cs with
  | nil => simp [occurs]
  | cons c cs ih =>
    rw [occurs, Bool.or_eq_true, List.isPrefixOf_iff_prefix, ih, List.infix_cons_iff]

/-- A message mentions the texts that stand in it as they are. -/
theorem mentions_iff (message text : String) :
    mentions message text = true ↔ ∃ before after, message = before ++ text ++ after := by
  rw [mentions, occurs_iff_isInfix]
  constructor
  · rintro ⟨before, after, h⟩
    refine ⟨.ofList before, .ofList after, ?_⟩
    rw [← String.toList_inj, ← h]
    simp
  · rintro ⟨before, after, rfl⟩
    exact ⟨before.toList, after.toList, by simp⟩

theorem mentions_self (text : String) : mentions text text = true :=
  (mentions_iff text text).mpr ⟨"", "", by simp⟩

theorem mentions_append_left {message text : String} (more : String)
    (h : mentions message text = true) : mentions (message ++ more) text = true := by
  obtain ⟨before, after, rfl⟩ := (mentions_iff message text).mp h
  exact (mentions_iff _ text).mpr ⟨before, after ++ more, by rw [String.append_assoc]⟩

theorem mentions_append_right {message text : String} (lead : String)
    (h : mentions message text = true) : mentions (lead ++ message) text = true := by
  obtain ⟨before, after, rfl⟩ := (mentions_iff message text).mp h
  exact (mentions_iff _ text).mpr ⟨lead ++ before, after, by simp only [String.append_assoc]⟩

end Journal

/-! ## Notices and faults -/

open Journal

/-- A notice tells every text that it speaks of. -/
theorem Notice.mentions_of_mem_texts (notice : Notice) :
    ∀ text ∈ notice.texts, mentions notice.message text = true := by
  unfold texts message
  cases notice
  -- each text stands between closed wordings
  all_goals
    simp only [List.forall_mem_cons, List.not_mem_nil, toString]
    grind [mentions_append_left, mentions_append_right, mentions_self]

theorem Fault.mentions_of_mem_texts (fault : Fault) :
    ∀ text ∈ fault.texts, mentions fault.message text = true := by
  unfold texts message detail
  cases fault
  all_goals
    simp only [List.forall_mem_cons, List.not_mem_nil, toString]
    grind [mentions_append_left, mentions_append_right, mentions_self]

end ArgTable
