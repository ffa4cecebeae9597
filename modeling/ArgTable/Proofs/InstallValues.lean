-- How an install value is read. It is the word `true` or the word `false` in any ASCII letter
-- case, with any blanks around it, and nothing else is read.
import ArgTable.Preprocess
import Mathlib.Data.List.TakeWhile

namespace ArgTable

/-! ## Blanks around a word -/

namespace Text

/-- Cutting off the blank ends takes blanks away, and nothing else. -/
theorem exists_blanks_around (cs : List Char) :
    ∃ before after, cs = before ++ trimmed cs ++ after ∧
      (∀ c ∈ before, isBlank c = true) ∧ ∀ c ∈ after, isBlank c = true := by
  have hfront : cs = cs.takeWhile isBlank ++ cs.dropWhile isBlank :=
    List.takeWhile_append_dropWhile.symm
  generalize hrest : (cs.dropWhile isBlank).reverse = rest
  have hback : cs.dropWhile isBlank =
      (rest.dropWhile isBlank).reverse ++ (rest.takeWhile isBlank).reverse := by
    rw [← List.reverse_append, List.takeWhile_append_dropWhile, ← hrest, List.reverse_reverse]
  refine ⟨cs.takeWhile isBlank, (rest.takeWhile isBlank).reverse, ?_, ?_, ?_⟩
  · unfold trimmed
    rw [hrest, List.append_assoc, ← hback]
    exact hfront
  · intro c hc
    exact List.mem_takeWhile_imp hc
  · intro c hc
    exact List.mem_takeWhile_imp (List.mem_reverse.mp hc)

theorem dropWhile_word_append {word : List Char} (hword : ∀ c ∈ word, isBlank c = false)
    (hne : word ≠ []) (rest : List Char) : (word ++ rest).dropWhile isBlank = word ++ rest := by
  cases word with
  | nil => exact absurd rfl hne
  | cons c cs => exact List.dropWhile_cons_of_neg (by simp [hword c])

/-- A word without blanks is left when the blanks around it are cut off. -/
theorem trimmed_append {before word after : List Char}
    (hbefore : ∀ c ∈ before, isBlank c = true) (hafter : ∀ c ∈ after, isBlank c = true)
    (hword : ∀ c ∈ word, isBlank c = false) (hne : word ≠ []) :
    trimmed (before ++ word ++ after) = word := by
  have hreverse : ∀ c ∈ word.reverse, isBlank c = false := by simpa using hword
  have hback := dropWhile_word_append hreverse (by simpa using hne) []
  rw [List.append_nil] at hback
  unfold trimmed
  rw [List.append_assoc, List.dropWhile_append_of_pos hbefore, dropWhile_word_append hword hne,
    List.reverse_append, List.dropWhile_append_of_pos (by simpa using hafter), hback,
    List.reverse_reverse]

theorem toLower_of_isBlank {c : Char} (h : isBlank c = true) : c.toLower = c := by
  obtain ⟨run, hrun, hlow, hhigh⟩ := (Runs.has_iff blankRuns c).mp h
  unfold Char.toLower
  rw [dif_neg]
  rintro ⟨hfirst, hlast⟩
  have h65 : 65 ≤ c.toNat := hfirst
  have h90 : c.toNat ≤ 90 := hlast
  -- no run of blanks reaches into the capital letters
  have hruns : ∀ run ∈ blankRuns, run.2 < 65 ∨ 90 < run.1 := by decide
  have := hruns run hrun
  omega

/-- What is left between the blanks is a given word in some letter case exactly when the text is
that word in some letter case with blanks around it. -/
theorem map_toLower_trimmed_iff {target : List Char} (htarget : ∀ c ∈ target, isBlank c = false)
    (hne : target ≠ []) (cs : List Char) :
    (trimmed cs).map Char.toLower = target ↔
      ∃ before word after, cs = before ++ word ++ after ∧ (∀ c ∈ before, isBlank c = true) ∧
        (∀ c ∈ after, isBlank c = true) ∧ word.map Char.toLower = target := by
  constructor
  · intro h
    obtain ⟨before, after, hcs, hbefore, hafter⟩ := exists_blanks_around cs
    exact ⟨before, trimmed cs, after, hcs, hbefore, hafter, h⟩
  · rintro ⟨before, word, after, rfl, hbefore, hafter, rfl⟩
    rw [trimmed_append hbefore hafter]
    · intro c hc
      rw [Bool.eq_false_iff]
      intro hblank
      have hmem := List.mem_map_of_mem (f := Char.toLower) hc
      rw [toLower_of_isBlank hblank] at hmem
      rw [htarget c hmem] at hblank
      cases hblank
    · simpa using hne

end Text

/-! ## The two words -/

namespace Preprocess

/-- The value is the word for the switch in some ASCII letter case, with blanks around it. -/
def SpellsSwitch (value : String) (on : Bool) : Prop :=
  ∃ before word after, value.toList = before ++ word ++ after ∧
    (∀ c ∈ before, Text.isBlank c = true) ∧ (∀ c ∈ after, Text.isBlank c = true) ∧
    word.map Char.toLower = (if on then "true" else "false").toList

theorem readSwitch?_eq_some_iff (value : String) (on : Bool) :
    readSwitch? value = some on ↔ SpellsSwitch value on := by
  have hall : (if on then "true" else "false").toList.all (!Text.isBlank ·) = true := by
    cases on <;> decide
  have htarget : ∀ c ∈ (if on then "true" else "false").toList, Text.isBlank c = false := by
    simpa [List.all_eq_true] using hall
  have hne : (if on then "true" else "false").toList ≠ [] := by
    cases on <;> decide
  unfold SpellsSwitch
  rw [← Text.map_toLower_trimmed_iff htarget hne]
  unfold readSwitch?
  generalize (Text.trimmed value.toList).map Char.toLower = word
  dsimp only
  by_cases hyes : word = "true".toList
  · rw [if_pos hyes, hyes]
    cases on with
    | true => simp
    | false => simp
  · rw [if_neg hyes]
    cases on with
    | true => simpa using hyes
    | false => simp

end Preprocess

end ArgTable
