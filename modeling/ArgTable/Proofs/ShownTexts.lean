-- Texts that a terminal shows as they are: no character of theirs is a control. A text between
-- quotes is one of them, whatever it quotes, and so is the description of the options.
import ArgTable.Log
import ArgTable.Options

namespace ArgTable

/-! ## Shown texts -/

namespace Text

/-- Outside every sequence, a terminal shows each character of the text. -/
def Shown (text : String) : Prop := text.toList.all ControlStage.rest.shows = true

instance (text : String) : Decidable (Shown text) := inferInstanceAs (Decidable (_ = _))

theorem shown_append (text more : String) : Shown (text ++ more) ↔ Shown text ∧ Shown more := by
  unfold Shown
  rw [String.toList_append, List.all_append, Bool.and_eq_true]

theorem shownFrom_of_shows {c : Char} (h : ControlStage.rest.shows c = true) (showing : Bool)
    (cs : List Char) : shownFrom .rest showing (c :: cs) = c :: shownFrom .rest true cs := by
  rw [shownFrom, h, ite_self]
  rfl

/-- Outside every sequence, characters that are shown stay as they are. -/
theorem shownFrom_append {cs : List Char} (h : cs.all ControlStage.rest.shows = true)
    (showing : Bool) (more : List Char) :
    ∃ showing', shownFrom .rest showing (cs ++ more) = cs ++ shownFrom .rest showing' more := by
  induction cs generalizing showing with
  | nil => exact ⟨showing, rfl⟩
  | cons c cs ih =>
    rw [List.all_cons, Bool.and_eq_true] at h
    obtain ⟨showing', hmore⟩ := ih h.2 true
    refine ⟨showing', ?_⟩
    rw [List.cons_append, shownFrom_of_shows h.1, hmore, List.cons_append]

/-- Outside every sequence it makes no difference whether the last character was shown. -/
theorem shownFrom_rest (showing : Bool) (cs : List Char) :
    shownFrom .rest showing cs = shownFrom .rest false cs := by
  cases cs with
  | nil => rfl
  | cons c cs =>
    rw [shownFrom, shownFrom]
    cases ControlStage.rest.shows c <;> simp

theorem withoutControls_append {text : String} (h : Shown text) (more : String) :
    withoutControls (text ++ more) = text ++ withoutControls more := by
  obtain ⟨showing, hshown⟩ := shownFrom_append h false more.toList
  rw [withoutControls, withoutControls, String.toList_append, hshown, shownFrom_rest,
    String.ofList_append, String.ofList_toList]

theorem withoutControls_empty : withoutControls "" = "" := rfl

theorem withoutControls_eq_self {text : String} (h : Shown text) : withoutControls text = text := by
  have htext := withoutControls_append h ""
  rwa [String.append_empty, withoutControls_empty, String.append_empty] at htext

/-! ## Quoted texts -/

theorem shows_digitChar : ∀ digit < 16, ControlStage.rest.shows (Nat.digitChar digit) = true := by
  decide +kernel

theorem shows_toDigits (n : Nat) : (Nat.toDigits 16 n).all ControlStage.rest.shows = true := by
  induction n using Nat.strongRecOn with
  | ind n ih =>
    rw [Nat.toDigits_eq_if (by decide)]
    split
    · next hlt => simpa using shows_digitChar n hlt
    · next hle =>
      have hless : n / 16 < n := by omega
      have hdigit := shows_digitChar (n % 16) (Nat.mod_lt n (by decide))
      simpa [List.all_append, ih (n / 16) hless] using hdigit

/-- A character that leaves a mark of its own is shown. -/
theorem shows_of_not_unseen {c : Char} (h : unseenRuns.has c = false) :
    ControlStage.rest.shows c = true := by
  have hout {run : Nat × Nat} (hrun : run ∈ unseenRuns) :
      ¬ (run.1 ≤ c.toNat ∧ c.toNat ≤ run.2) := by
    intro hin
    rw [(Runs.has_iff unseenRuns c).mpr ⟨run, hrun, hin⟩] at h
    cases h
  have hcontrols : ¬ (0x0 ≤ c.toNat ∧ c.toNat ≤ 0x1F) :=
    hout (by decide +kernel : (0x0, 0x1F) ∈ unseenRuns)
  have hdelete : ¬ (0x7F ≤ c.toNat ∧ c.toNat ≤ 0xA0) :=
    hout (by decide +kernel : (0x7F, 0xA0) ∈ unseenRuns)
  have hspace : ' ' ≤ c := by
    change 32 ≤ c.toNat
    omega
  have hne : c ≠ '\x7f' := by
    rintro rfl
    exact hdelete (by decide)
  simp [ControlStage.shows, hspace, hne]

/-- Whatever the character, nothing but shown characters stands for it between quotes. -/
theorem shows_quotedChar (c : Char) : (quotedChar c).all ControlStage.rest.shows = true := by
  unfold quotedChar
  split
  case h_7 =>
    split
    · have hopening : ['\\', 'u', '\x7b'].all ControlStage.rest.shows = true := by decide +kernel
      have hclosing : ['\x7d'].all ControlStage.rest.shows = true := by decide +kernel
      have hdigits : (hexDigits c).all ControlStage.rest.shows = true := shows_toDigits c.toNat
      change (['\\', 'u', '\x7b'] ++ (hexDigits c ++ ['\x7d'])).all _ = true
      rw [List.all_append, List.all_append, hopening, hdigits, hclosing]
      rfl
    · next hseen =>
      rw [List.all_cons, shows_of_not_unseen (by simpa using hseen)]
      rfl
  all_goals decide +kernel

theorem shown_quoted (text : String) : Shown (quoted text) := by
  have hchars : (text.toList.flatMap quotedChar).all ControlStage.rest.shows = true := by
    rw [List.all_flatMap, List.all_eq_true]
    exact fun c _ => shows_quotedChar c
  have hquote : ControlStage.rest.shows '"' = true := by decide +kernel
  unfold Shown quoted
  rw [String.toList_ofList, List.all_cons, List.all_append, hchars, hquote]
  exact hquote

theorem shown_intercalate {between : String} (hbetween : Shown between) {texts : List String}
    (h : ∀ text ∈ texts, Shown text) : Shown (String.intercalate between texts) := by
  induction texts with
  | nil => rfl
  | cons text texts ih =>
    rw [List.forall_mem_cons] at h
    rcases texts with _ | ⟨second, texts⟩
    · rw [String.intercalate_singleton]
      exact h.1
    · rw [String.intercalate_cons_cons, shown_append, shown_append]
      exact ⟨⟨h.1, hbetween⟩, ih h.2⟩

theorem shown_quotedList (texts : List String) : Shown (quotedList texts) := by
  have hquoted : ∀ text ∈ texts.map quoted, Shown text := by
    rw [List.forall_mem_map]
    exact fun text _ => shown_quoted text
  unfold quotedList
  rw [shown_append, shown_append]
  exact ⟨⟨by decide +kernel, shown_intercalate (by decide +kernel) hquoted⟩, by decide +kernel⟩

end Text

/-! ## The options -/

theorem Options.shown_boolName (b : Bool) : Text.Shown (boolName b) := by
  cases b <;> decide +kernel

theorem Format.shown_title (format : Format) : Text.Shown format.title := by
  cases format <;> decide +kernel

theorem Mode.shown_title (mode : Mode) : Text.Shown mode.title := by
  cases mode <;> decide +kernel

/-- The options are described in characters that are all shown. -/
theorem Options.shown_describe (options : Options) : Text.Shown options.describe := by
  unfold describe
  simp only [Text.shown_append, shown_boolName, Format.shown_title, Mode.shown_title,
    Text.shown_quotedList, and_true]
  decide +kernel

end ArgTable
