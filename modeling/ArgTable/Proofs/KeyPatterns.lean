-- The pattern of a project key. It is any number of key characters, one or more of them that
-- are no digits, and any number of key characters again. The three parts may meet at many places
-- of one key, and a key has the pattern exactly when it has characters of no other kind and not
-- only digits.
import ArgTable.Proofs.PreparedAnalyses
import ArgTable.Text.CharClass
import Mathlib.Computability.Language

open scoped Computability

namespace ArgTable

/-! ## Texts over a class of characters -/

namespace Text

theorem Runs.has_append (runs more : Runs) (c : Char) :
    (runs ++ more).has c = (runs.has c || more.has c) := List.any_append

/-- The texts of one character of the class. -/
def oneOf (runs : Runs) : Language Char := {text | ∃ c, text = [c] ∧ runs.has c = true}

theorem mem_oneOf (runs : Runs) (text : List Char) :
    text ∈ oneOf runs ↔ ∃ c, text = [c] ∧ runs.has c = true := Iff.rfl

theorem mem_kstar_oneOf (runs : Runs) (text : List Char) :
    text ∈ (oneOf runs)∗ ↔ ∀ c ∈ text, runs.has c = true := by
  rw [Language.mem_kstar]
  constructor
  · rintro ⟨pieces, rfl, hpieces⟩ c hmem
    obtain ⟨piece, hpiece, hc⟩ := List.mem_flatten.mp hmem
    obtain ⟨d, rfl, hd⟩ := (mem_oneOf runs piece).mp (hpieces piece hpiece)
    rwa [List.mem_singleton.mp hc]
  · intro h
    have hflatten : (text.map fun c => [c]).flatten = text := by
      rw [← List.flatMap_def, List.flatMap_singleton']
    refine ⟨text.map fun c => [c], hflatten.symm, ?_⟩
    intro piece hpiece
    obtain ⟨c, hc, rfl⟩ := List.mem_map.mp hpiece
    exact ⟨c, rfl, h c hc⟩

/-- One or more characters of the class. -/
theorem mem_oneOf_mul_kstar (runs : Runs) (text : List Char) :
    text ∈ oneOf runs * (oneOf runs)∗ ↔ text ≠ [] ∧ ∀ c ∈ text, runs.has c = true := by
  rw [Language.mem_mul]
  constructor
  · rintro ⟨first, ⟨c, rfl, hc⟩, rest, hrest, rfl⟩
    rw [mem_kstar_oneOf] at hrest
    simpa [hc] using hrest
  · rintro ⟨hne, hall⟩
    obtain ⟨c, rest, rfl⟩ := List.exists_cons_of_ne_nil hne
    rw [List.forall_mem_cons] at hall
    exact ⟨[c], ⟨c, rfl, hall.1⟩, rest, (mem_kstar_oneOf runs rest).mpr hall.2, rfl⟩

end Text

namespace ProjectKey

open Text

/-! ## The pattern -/

def letters : Runs := [('a'.toNat, 'z'.toNat), ('A'.toNat, 'Z'.toNat)]

def digits : Runs := [('0'.toNat, '9'.toNat)]

def marks : Runs :=
  [(':'.toNat, ':'.toNat), ('-'.toNat, '-'.toNat), ('_'.toNat, '_'.toNat), ('.'.toNat, '.'.toNat)]

/-- The characters of a key. -/
def keyRuns : Runs := letters ++ digits ++ marks

/-- The characters of a key without the digits. -/
def nonDigitRuns : Runs := letters ++ marks

/-- Key characters, then at least one that is no digit, and then key characters again. -/
def pattern : Language Char :=
  (oneOf keyRuns)∗ * (oneOf nonDigitRuns * (oneOf nonDigitRuns)∗) * (oneOf keyRuns)∗

theorem has_letters (c : Char) : letters.has c = true ↔ c.isAlpha = true := by
  delta Char.isAlpha Char.isUpper Char.isLower
  simp only [letters, Runs.has, List.any_cons, List.any_nil, Bool.or_false, Bool.or_eq_true,
    Bool.and_eq_true, decide_eq_true_eq, ge_iff_le, UInt32.le_iff_toNat_le]
  exact or_comm

theorem has_digits (c : Char) : digits.has c = c.isDigit := by
  simp only [digits, Runs.has, Char.isDigit, List.any_cons, List.any_nil, Bool.or_false, ge_iff_le,
    UInt32.le_iff_toNat_le]
  rfl

theorem has_marks (c : Char) : marks.has c = true ↔ c ∈ ['-', '_', '.', ':'] := by
  simp [marks, Runs.has, ← Char.toNat_inj]
  omega

/-- The characters of a key that are no digits lie in the runs without the digits. -/
theorem has_nonDigitRuns_iff (c : Char) :
    nonDigitRuns.has c = true ↔ keyRuns.has c = true ∧ c.isDigit = false := by
  have hapart : letters.has c = true ∨ marks.has c = true → digits.has c = false := by
    simp only [letters, marks, digits, Runs.has, List.any_cons, List.any_nil, Bool.or_false,
      Bool.or_eq_true, Bool.and_eq_true, decide_eq_true_eq, Bool.and_eq_false_iff,
      decide_eq_false_iff_not, Char.reduceToNat]
    omega
  rw [← has_digits]
  simp only [nonDigitRuns, keyRuns, Runs.has_append, Bool.or_eq_true]
  constructor
  · intro h
    exact ⟨by tauto, hapart h⟩
  · rintro ⟨h, hdigit⟩
    rw [hdigit] at h
    tauto

/-- A key can be cut at any character that is no digit, and around it anything goes. -/
theorem mem_pattern_iff (text : List Char) :
    text ∈ pattern ↔ (∀ c ∈ text, keyRuns.has c = true) ∧ ∃ c ∈ text, c.isDigit = false := by
  unfold pattern
  rw [Language.mem_mul]
  constructor
  · rintro ⟨front, hfront, after, hafter, rfl⟩
    obtain ⟨before, hbefore, middle, hmiddle, rfl⟩ := Language.mem_mul.mp hfront
    rw [mem_kstar_oneOf] at hbefore hafter
    rw [mem_oneOf_mul_kstar] at hmiddle
    obtain ⟨hne, hmiddle⟩ := hmiddle
    have hkey : ∀ c ∈ middle, keyRuns.has c = true ∧ c.isDigit = false :=
      fun c hc => (has_nonDigitRuns_iff c).mp (hmiddle c hc)
    obtain ⟨c, hc⟩ := List.exists_mem_of_ne_nil middle hne
    refine ⟨?_, c, by simp [hc], (hkey c hc).2⟩
    intro d hd
    rcases List.mem_append.mp hd with hd | hd
    · rcases List.mem_append.mp hd with hd | hd
      · exact hbefore d hd
      · exact (hkey d hd).1
    · exact hafter d hd
  · rintro ⟨hall, c, hc, hdigit⟩
    obtain ⟨before, after, rfl⟩ := List.mem_iff_append.mp hc
    have hmiddle : nonDigitRuns.has c = true :=
      (has_nonDigitRuns_iff c).mpr ⟨hall c hc, hdigit⟩
    refine ⟨before ++ [c], Language.mem_mul.mpr ⟨before, ?_, [c], ?_, rfl⟩, after, ?_, ?_⟩
    · rw [mem_kstar_oneOf]
      exact fun d hd => hall d (by simp [hd])
    · rw [mem_oneOf_mul_kstar]
      simpa using hmiddle
    · rw [mem_kstar_oneOf]
      exact fun d hd => hall d (by simp [hd])
    · simp

theorem has_keyRuns_iff (c : Char) :
    keyRuns.has c = true ↔ c.isAlphanum = true ∨ c ∈ ['-', '_', '.', ':'] := by
  rw [keyRuns, Runs.has_append, Runs.has_append, Bool.or_eq_true, Bool.or_eq_true, has_letters,
    has_digits, has_marks, Char.isAlphanum, Bool.or_eq_true]

theorem mem_pattern_iff_goodKey (key : String) :
    key.toList ∈ pattern ↔ Preprocess.GoodKey key := by
  rw [mem_pattern_iff]
  simp only [has_keyRuns_iff]
  rfl

/-- A key is plain ASCII, and no character of it is a blank or a control. -/
theorem toNat_of_keyRuns {c : Char} (h : keyRuns.has c = true) : 32 < c.toNat ∧ c.toNat < 127 := by
  simp only [keyRuns, letters, marks, digits, Runs.has, List.any_append, List.any_cons,
    List.any_nil, Bool.or_false, Bool.or_eq_true, Bool.and_eq_true, decide_eq_true_eq,
    Char.reduceToNat] at h
  omega

/-- The valid keys are those that have the pattern, wherever its parts meet, and they are those
of ASCII letters, digits and marks with one character that is no digit. Any other character,
such as a line break or one that is not ASCII, spoils a key at any place. -/
theorem a_key_is_valid_when_it_has_the_pattern (key : String) :
    (isValid key = true ↔ key.toList ∈ pattern) ∧
    (key.toList ∈ pattern ↔
      (∀ c ∈ key.toList, c.isAlphanum = true ∨ c ∈ ['-', '_', '.', ':']) ∧
        ∃ c ∈ key.toList, c.isDigit = false) ∧
    ∀ c ∈ key.toList, keyRuns.has c = false ∨ c = '\n' ∨ 128 ≤ c.toNat →
      isValid key = false := by
  have hvalid : isValid key = true ↔ key.toList ∈ pattern := by
    rw [Preprocess.isValid_iff_goodKey, mem_pattern_iff_goodKey]
  refine ⟨hvalid, mem_pattern_iff_goodKey key, ?_⟩
  intro c hc hother
  rw [← Bool.not_eq_true, hvalid, mem_pattern_iff]
  rintro ⟨hall, -⟩
  have hhas := hall c hc
  have hrange := toNat_of_keyRuns hhas
  rcases hother with hno | rfl | hhigh
  · rw [hno] at hhas
    cases hhas
  · exact absurd hrange.1 (by decide)
  · omega

end ProjectKey

end ArgTable
